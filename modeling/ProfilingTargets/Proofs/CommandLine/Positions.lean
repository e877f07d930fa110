import Mathlib.Data.List.TakeWhile
import Mathlib.Data.Nat.Find
import ProfilingTargets.Proofs.CommandLine.Parser

/-!
# Long flags with one dash: which positions are rewritten

Whether an argument is given a second dash is told from the whole list and its position in it:
whether it is the value of a flag (`IsValue`), whether it comes after the terminator
(`IsAfterTerminator`), and what it looks like (`IsLongWithOneDash`). The first two depend on
each other: a flag after the terminator has no value, and a terminator that is a value is none
(`isValue_succ_iff`).

The arguments are rewritten in one pass, which knows of a position only whether it is a value,
and ends at the terminator. That this is enough is an invariant of the pass (`Reached`), kept
by a value (`Reached.value`) and by any other argument but the terminator (`Reached.argument`).

## What is proved

* `normalizeFrom_eq_mapIdx`: what the pass makes of the rest of the list, from any position.
* `normalize_positions`: which positions are rewritten, and that nothing else is changed.
-/

namespace ProfilingTargets.CommandLine.LongFlags

variable {args : List Bytes} {arg : Bytes} {i j : Nat}

/-! ### Positions -/

/-- The position of a value: the one before it is not the program's name, is no value itself,
does not come after a terminator, and is the flag for the profile. -/
def IsValue (args : List Bytes) : Nat → Prop
  | 0 => False
  | i + 1 => 0 < i ∧ ¬ IsValue args i ∧
    (¬ ∃ j, ∃ _ : j < i, 0 < j ∧ args[j]? = some terminator ∧ ¬ IsValue args j) ∧
    ∃ arg, args[i]? = some arg ∧ IsFlag arg
termination_by i => i
decreasing_by all_goals omega

/-- A position, not the first, that has two dashes alone and is no value. -/
def IsTwoDashes (args : List Bytes) (i : Nat) : Prop :=
  0 < i ∧ args[i]? = some terminator ∧ ¬ IsValue args i

/-- The position of the terminator: the first that has two dashes alone and is no value. -/
def IsTerminator (args : List Bytes) (i : Nat) : Prop :=
  IsTwoDashes args i ∧ ∀ j < i, ¬ IsTwoDashes args j

/-- A position after the terminator. -/
def IsAfterTerminator (args : List Bytes) (i : Nat) : Prop := ∃ j < i, IsTerminator args j

/-- A long flag with one dash: text of a dash, a name of at least two characters that does not
begin with a dash, and nothing else or an equals sign and anything. -/
def IsLongWithOneDash (arg : Bytes) : Prop :=
  ∃ name rest, arg = Utf8.encode ('-' :: (name ++ rest)) ∧ name.head? ≠ some '-' ∧
    '=' ∉ name ∧ 2 ≤ name.length ∧ (rest = [] ∨ ∃ value, rest = '=' :: value)

/-- A position that is given a second dash. -/
def IsRewritten (args : List Bytes) (i : Nat) : Prop :=
  0 < i ∧ ¬ IsValue args i ∧ ¬ IsAfterTerminator args i ∧
    ∃ arg, args[i]? = some arg ∧ IsLongWithOneDash arg

/-- What becomes of the arguments: as many come out, with a second dash at the positions that
are rewritten, and unchanged at all others. -/
structure Normalized (args out : List Bytes) : Prop where
  /-- None is lost and none is added. -/
  length : out.length = args.length
  /-- A position that is rewritten gets a dash in front. -/
  rewritten : ∀ i arg, args[i]? = some arg → IsRewritten args i → out[i]? = some (dash :: arg)
  /-- Any other keeps its bytes. -/
  kept : ∀ i arg, args[i]? = some arg → ¬ IsRewritten args i → out[i]? = some arg

/-- There is a terminator before a position if there are two dashes alone before it that are
no value. -/
theorem isAfterTerminator_iff : IsAfterTerminator args i ↔ ∃ j < i, IsTwoDashes args j := by
  classical
  constructor
  · rintro ⟨j, hj, h, -⟩
    exact ⟨j, hj, h⟩
  · intro h
    obtain ⟨hlt, hfirst⟩ := Nat.find_spec h
    refine ⟨Nat.find h, hlt, hfirst, fun j hj hdashes => Nat.find_min h hj ⟨by omega, hdashes⟩⟩

/-- **A value** comes after a flag that is no value itself and does not come after the
terminator. -/
theorem isValue_succ_iff :
    IsValue args (i + 1) ↔ 0 < i ∧ ¬ IsValue args i ∧ ¬ IsAfterTerminator args i ∧
      ∃ arg, args[i]? = some arg ∧ IsFlag arg := by
  rw [IsValue, isAfterTerminator_iff]
  simp only [exists_prop, IsTwoDashes]

theorem not_isValue_one : ¬ IsValue args 1 := by
  rw [isValue_succ_iff]
  exact fun h => absurd h.1 (Nat.lt_irrefl 0)

theorem isAfterTerminator_succ_iff :
    IsAfterTerminator args (i + 1) ↔ IsAfterTerminator args i ∨ IsTwoDashes args i := by
  simp only [isAfterTerminator_iff, Nat.lt_succ_iff_lt_or_eq, or_and_right, exists_or,
    exists_eq_left]

/-! ### What an argument looks like -/

/-- A text is cut before its first equals sign. -/
theorem exists_takeWhile_append (text : List Char) :
    ∃ rest, text = text.takeWhile (· ≠ '=') ++ rest ∧
      (rest = [] ∨ ∃ value, rest = '=' :: value) := by
  by_cases hequals : '=' ∈ text
  · exact ⟨_, (Split.splitFirst_append hequals).symm, .inr ⟨_, rfl⟩⟩
  · refine ⟨[], ?_, .inl rfl⟩
    rw [List.append_nil, List.takeWhile_eq_self_iff.2 (Split.forall_mem_ne hequals)]

/-- **What looks like a long flag with one dash** is given a second one. -/
theorem isSingleDashed_iff_isLongWithOneDash : isSingleDashed arg ↔ IsLongWithOneDash arg := by
  rw [isSingleDashed_iff]
  constructor
  · rintro ⟨text, rfl, hdash, hlong⟩
    obtain ⟨rest, htext, hrest⟩ := exists_takeWhile_append text
    refine ⟨text.takeWhile (· ≠ '='), rest, by rw [← htext]; rfl, ?_, ?_, hlong, hrest⟩
    · rw [List.head?_takeWhile]
      intro h
      exact hdash (Option.filter_eq_some_iff.1 h).1
    · intro h
      exact absurd (List.mem_takeWhile_imp h) (by decide)
  · rintro ⟨name, rest, rfl, hdash, hname, hlong, hrest⟩
    have hne : name ≠ [] := List.ne_nil_of_length_pos (by omega)
    have htake : (name ++ rest).takeWhile (· ≠ '=') = name := by
      rw [List.takeWhile_append_of_pos (Split.forall_mem_ne hname)]
      rcases hrest with rfl | ⟨value, rfl⟩ <;> simp
    refine ⟨name ++ rest, rfl, ?_, ?_⟩
    · rwa [List.head?_append_of_ne_nil _ hne]
    · rw [htake]
      omega

theorem not_isLongWithOneDash_terminator : ¬ IsLongWithOneDash terminator := by
  rw [← isSingleDashed_iff_isLongWithOneDash, terminator, isSingleDashed_two_dashes]
  exact Bool.false_ne_true

/-! ### The pass -/

/-- **How far the pass has come**: to a position that is not the first and does not come after
the terminator, and which it knows for a value or not. -/
structure Reached (args : List Bytes) (i : Nat) (value : Bool) : Prop where
  /-- It is not the program's name. -/
  pos : 0 < i
  /-- There has been no terminator. -/
  not_after : ¬ IsAfterTerminator args i
  /-- What is known of it. -/
  value_iff : value ↔ IsValue args i

namespace Reached

theorem start (args : List Bytes) : Reached args 1 false where
  pos := Nat.one_pos
  not_after := by
    rw [isAfterTerminator_succ_iff, isAfterTerminator_iff]
    rintro (⟨j, hj, -⟩ | h)
    · omega
    · exact absurd h.1 (Nat.lt_irrefl 0)
  value_iff := iff_of_false Bool.false_ne_true not_isValue_one

theorem not_isValue (h : Reached args i false) : ¬ IsValue args i :=
  fun hvalue => absurd (h.value_iff.2 hvalue) Bool.false_ne_true

/-- **After a value** comes none, and a value is no terminator. -/
theorem value (h : Reached args i true) : Reached args (i + 1) false where
  pos := Nat.succ_pos i
  not_after := by
    rw [isAfterTerminator_succ_iff]
    rintro (hafter | hdashes)
    · exact h.not_after hafter
    · exact hdashes.2.2 (h.value_iff.1 rfl)
  value_iff := by
    refine iff_of_false Bool.false_ne_true fun hvalue => ?_
    exact (isValue_succ_iff.1 hvalue).2.1 (h.value_iff.1 rfl)

/-- **After any other argument** but the terminator comes a value exactly if it takes one. -/
theorem argument (h : Reached args i false) (harg : args[i]? = some arg) (hne : arg ≠ terminator) :
    Reached args (i + 1) (takesNext arg) where
  pos := Nat.succ_pos i
  not_after := by
    rw [isAfterTerminator_succ_iff]
    rintro (hafter | hdashes)
    · exact h.not_after hafter
    · exact hne (Option.some.inj (harg.symm.trans hdashes.2.1))
  value_iff := by
    rw [isValue_succ_iff, takesNext_iff]
    constructor
    · intro hflag
      exact ⟨h.pos, h.not_isValue, h.not_after, arg, harg, hflag⟩
    · rintro ⟨-, -, -, arg', harg', hflag⟩
      obtain rfl : arg = arg' := Option.some.inj (harg.symm.trans harg')
      exact hflag

end Reached

open Classical in
/-- What becomes of an argument at a position. -/
noncomputable def spelling (args : List Bytes) (i : Nat) (arg : Bytes) : Bytes :=
  if IsRewritten args i then dash :: arg else arg

theorem spelling_of_isValue (h : IsValue args i) : spelling args i arg = arg :=
  if_neg fun hrewritten => hrewritten.2.1 h

/-- **From two dashes on** that are no value, nothing is rewritten. -/
theorem spelling_of_isTwoDashes (h : IsTwoDashes args j) (hj : j ≤ i) :
    spelling args i arg = arg := by
  refine if_neg ?_
  rintro ⟨-, -, hafter, arg', harg', hlong⟩
  rcases Nat.lt_or_eq_of_le hj with hlt | rfl
  · exact hafter (isAfterTerminator_iff.2 ⟨j, hlt, h⟩)
  · obtain rfl : terminator = arg' := Option.some.inj (h.2.1.symm.trans harg')
    exact not_isLongWithOneDash_terminator hlong

/-- Any other argument is rewritten as it looks. -/
theorem spelling_of_reached (h : Reached args i false) (harg : args[i]? = some arg) :
    spelling args i arg = normalizeArg arg := by
  have hrewritten : IsRewritten args i ↔ isSingleDashed arg := by
    rw [isSingleDashed_iff_isLongWithOneDash]
    constructor
    · rintro ⟨-, -, -, arg', harg', hlong⟩
      obtain rfl : arg = arg' := Option.some.inj (harg.symm.trans harg')
      exact hlong
    · intro hlong
      exact ⟨h.pos, h.not_isValue, h.not_after, arg, harg, hlong⟩
  by_cases hlong : isSingleDashed arg
  · rw [spelling, normalizeArg, if_pos (hrewritten.2 hlong), if_pos hlong]
  · rw [spelling, normalizeArg, if_neg (mt hrewritten.1 hlong), if_neg hlong]

/-- **What the pass makes of the arguments from a position on.** -/
theorem normalizeFrom_eq_mapIdx {value : Bool} (h : Reached args i value) :
    normalizeFrom value (args.drop i) =
      (args.drop i).mapIdx fun j arg => spelling args (i + j) arg := by
  generalize hsuffix : args.drop i = suffix
  induction suffix generalizing i value with
  | nil => cases value <;> rfl
  | cons arg suffix ih =>
    have harg : args[i]? = some arg := by rw [← List.head?_drop, hsuffix, List.head?_cons]
    have hnext : args.drop (i + 1) = suffix := by rw [← List.tail_drop, hsuffix, List.tail_cons]
    have hshift : (fun j arg => spelling args (i + (j + 1)) arg) =
        fun j arg => spelling args (i + 1 + j) arg := by
      funext j arg
      rw [Nat.add_comm j, Nat.add_assoc]
    cases value with
    | true =>
      have hhead : spelling args (i + 0) arg = arg := spelling_of_isValue (h.value_iff.1 rfl)
      rw [normalizeFrom, ih h.value hnext, List.mapIdx_cons, hhead, hshift]
    | false =>
      by_cases hterminator : arg = terminator
      · have hdashes : IsTwoDashes args i := by
          exact ⟨h.pos, hterminator ▸ harg, h.not_isValue⟩
        rw [hterminator, normalizeFrom_terminator, eq_comm, List.mapIdx_eq_iff]
        intro j
        cases (terminator :: suffix)[j]? with
        | none => rfl
        | some arg =>
          rw [Option.map_some, spelling_of_isTwoDashes hdashes (Nat.le_add_right i j)]
      · have hhead : spelling args (i + 0) arg = normalizeArg arg := spelling_of_reached h harg
        rw [normalizeFrom_cons hterminator, ih (h.argument harg hterminator) hnext,
          List.mapIdx_cons, hhead, hshift]

/-- **Each argument is spelled as its position says.** -/
theorem normalize_eq_mapIdx (args : List Bytes) : normalize args = args.mapIdx (spelling args) := by
  cases args with
  | nil => rfl
  | cons program args =>
    have hprogram : spelling (program :: args) 0 program = program :=
      if_neg fun h => absurd h.1 (Nat.lt_irrefl 0)
    have hrest := normalizeFrom_eq_mapIdx (Reached.start (program :: args))
    have hshift : (fun j arg => spelling (program :: args) (1 + j) arg) =
        fun j arg => spelling (program :: args) (j + 1) arg := by
      funext j arg
      rw [Nat.add_comm]
    rw [List.drop_one, List.tail_cons, hshift] at hrest
    rw [normalize, hrest, List.mapIdx_cons, hprogram]

/-- **Which arguments are given a second dash.** As many arguments come out as went in. A
position is rewritten if it is not the first, is no value, does not come after the terminator,
and has a long flag with one dash; every other position keeps its bytes. What a value is, is
told from the position before it. -/
theorem normalize_positions (args : List Bytes) :
    (∀ i, IsValue args (i + 1) ↔ 0 < i ∧ ¬ IsValue args i ∧ ¬ IsAfterTerminator args i ∧
        ∃ arg, args[i]? = some arg ∧ IsFlag arg) ∧
      ¬ IsValue args 0 ∧ Normalized args (normalize args) := by
  refine ⟨fun _ => isValue_succ_iff, by rw [IsValue]; exact not_false, ?_⟩
  rw [normalize_eq_mapIdx]
  constructor
  case length => exact List.length_mapIdx
  case rewritten =>
    intro i arg harg h
    rw [List.getElem?_mapIdx, harg, Option.map_some, spelling, if_pos h]
  case kept =>
    intro i arg harg h
    rw [List.getElem?_mapIdx, harg, Option.map_some, spelling, if_neg h]

/-- Of two flags in a row the second is a value, so that what follows is none. -/
example : normalize
      [Utf8.encode "simple".toList, singleFlag, singleFlag, Utf8.encode "-xy".toList] =
    [Utf8.encode "simple".toList, doubleFlag, singleFlag, Utf8.encode "--xy".toList] := by rfl

end ProfilingTargets.CommandLine.LongFlags
