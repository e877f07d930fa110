import ProfilingTargets.CommandLine.LongFlags
import ProfilingTargets.Proofs.Text.Utf8

/-!
# Long flags with one dash: what becomes a flag with two

An argument that is given its second dash has one dash before it and one only, so what
comes out is told apart from what went in by its second byte (`normalizeArg_cases`).

From this follows what the arguments were that come out as the terminator
(`normalizeArg_eq_terminator_iff`), as the flag for the profile
(`normalizeArg_eq_flag_iff`) and as that flag with a value (`normalizeArg_eq_attached_iff`).
In a list, the terminator ends the search for flags (`normalizeFrom_terminator`), and any
other argument only says whether the next one is a value (`normalizeFrom_cons`).
-/

namespace ProfilingTargets.CommandLine.LongFlags

/-- The name of the flag for the profile. -/
def profileName : List Char := "cpuprofile".toList

theorem profileName_eq :
    profileName = ['c', 'p', 'u', 'p', 'r', 'o', 'f', 'i', 'l', 'e'] := by decide

/-- The flag for the profile, as it is written with one dash. -/
def singleFlag : Bytes := dash :: Utf8.encode profileName

/-- The flag for the profile, as it is written with two dashes. -/
def doubleFlag : Bytes := dash :: singleFlag

theorem takesNext_iff (arg : Bytes) : takesNext arg ↔ arg = singleFlag ∨ arg = doubleFlag := by
  simp only [takesNext, valueFlags, List.any_cons, List.any_nil, Bool.or_false, Bool.or_eq_true,
    decide_eq_true_eq]
  exact Iff.rfl

/-! ### One dash or two -/

theorem decode?_dash (bs : Bytes) : Utf8.decode? (dash :: bs) = (Utf8.decode? bs).map ('-' :: ·) :=
  Utf8.decode?_encodeChar_append '-' bs

/-- **What starts with two dashes does not start with one.** -/
theorem isSingleDashed_two_dashes (bs : Bytes) : isSingleDashed (dash :: dash :: bs) = false := by
  rw [isSingleDashed, decode?_dash, decode?_dash]
  cases Utf8.decode? bs <;> rfl

/-- **One dash**, and then text that has no second one and is long enough. -/
theorem isSingleDashed_iff {arg : Bytes} :
    isSingleDashed arg ↔ ∃ rest, arg = dash :: Utf8.encode rest ∧ rest.head? ≠ some '-' ∧
      1 < (rest.takeWhile (· ≠ '=')).length := by
  constructor
  · intro h
    rw [isSingleDashed] at h
    split at h
    case h_1 rest htext =>
      rw [Utf8.decode?_eq_some_iff] at htext
      simp only [Bool.and_eq_true, bne_iff_ne, decide_eq_true_eq] at h
      exact ⟨rest, htext, h.1, h.2⟩
    case h_2 => cases h
  · rintro ⟨rest, rfl, hdash, hlong⟩
    rw [isSingleDashed, decode?_dash, Utf8.decode?_encode, Option.map_some]
    simp only [Bool.and_eq_true, bne_iff_ne, decide_eq_true_eq]
    exact ⟨hdash, hlong⟩

/-- **The second dash**: an argument is left alone, or it has one dash and is given another. -/
theorem normalizeArg_cases (arg : Bytes) :
    (isSingleDashed arg = false ∧ normalizeArg arg = arg) ∨
      isSingleDashed arg ∧ normalizeArg arg = dash :: arg := by
  rw [normalizeArg]
  cases isSingleDashed arg
  · exact .inl ⟨rfl, rfl⟩
  · exact .inr ⟨rfl, rfl⟩

theorem normalizeArg_of_isSingleDashed {arg : Bytes} (h : isSingleDashed arg) :
    normalizeArg arg = dash :: arg := if_pos h

theorem normalizeArg_two_dashes (bs : Bytes) :
    normalizeArg (dash :: dash :: bs) = dash :: dash :: bs := by
  rw [normalizeArg, isSingleDashed_two_dashes]
  rfl

/-- **What comes out with two dashes** went in with two, or with one. -/
theorem normalizeArg_eq_two_dashes_iff {arg bs : Bytes} :
    normalizeArg arg = dash :: dash :: bs ↔
      arg = dash :: dash :: bs ∨ (arg = dash :: bs ∧ isSingleDashed (dash :: bs)) := by
  constructor
  · intro h
    rcases normalizeArg_cases arg with ⟨-, heq⟩ | ⟨hone, heq⟩
    · exact .inl (heq.symm.trans h)
    · obtain rfl : arg = dash :: bs := (List.cons.inj (heq.symm.trans h)).2
      exact .inr ⟨rfl, hone⟩
  · rintro (rfl | ⟨rfl, hone⟩)
    · exact normalizeArg_two_dashes bs
    · exact normalizeArg_of_isSingleDashed hone

/-! ### The terminator and the flag for the profile -/

/-- Nothing else becomes the terminator. -/
theorem normalizeArg_eq_terminator_iff {arg : Bytes} :
    normalizeArg arg = terminator ↔ arg = terminator := by
  rw [terminator, normalizeArg_eq_two_dashes_iff]
  constructor
  · rintro (h | ⟨-, h⟩)
    · exact h
    · cases h
  · exact .inl

/-- The name of the flag for the profile is long enough for a second dash, with and
without a value after it. -/
theorem isSingleDashed_profileName (rest : List Char) :
    isSingleDashed (dash :: Utf8.encode (profileName ++ rest)) := by
  refine isSingleDashed_iff.2 ⟨profileName ++ rest, rfl, ?_, ?_⟩
  · simp [profileName_eq]
  · simp [profileName_eq]

/-- **What becomes the flag for the profile** is what takes the next argument. -/
theorem normalizeArg_eq_flag_iff {arg : Bytes} : normalizeArg arg = doubleFlag ↔ takesNext arg := by
  have hone : isSingleDashed (dash :: Utf8.encode profileName) := by
    have h := isSingleDashed_profileName []
    rwa [List.append_nil] at h
  rw [takesNext_iff, doubleFlag, singleFlag, normalizeArg_eq_two_dashes_iff]
  constructor
  · rintro (h | ⟨h, -⟩)
    · exact .inr h
    · exact .inl h
  · rintro (h | h)
    · exact .inr ⟨h, hone⟩
    · exact .inl h

/-- **What becomes the flag for the profile with a value** is that flag with that value. -/
theorem normalizeArg_eq_attached_iff {arg : Bytes} (value : List Char) :
    normalizeArg arg = doubleFlag ++ equals :: Utf8.encode value ↔
      arg = singleFlag ++ equals :: Utf8.encode value ∨
        arg = doubleFlag ++ equals :: Utf8.encode value := by
  have hflag : Utf8.encode profileName ++ equals :: Utf8.encode value =
      Utf8.encode (profileName ++ '=' :: value) :=
    (Utf8.encode_append profileName ('=' :: value)).symm
  have hone := isSingleDashed_profileName ('=' :: value)
  rw [doubleFlag, singleFlag, List.cons_append, List.cons_append, hflag,
    normalizeArg_eq_two_dashes_iff]
  constructor
  · rintro (h | ⟨h, -⟩)
    · exact .inr h
    · exact .inl h
  · rintro (h | h)
    · exact .inr ⟨h, hone⟩
    · exact .inl h

/-- What has its value attached does not take the next argument. -/
theorem takesNext_of_attached {arg : Bytes} {value : List Char}
    (h : normalizeArg arg = doubleFlag ++ equals :: Utf8.encode value) : takesNext arg = false := by
  cases hnext : takesNext arg with
  | false => rfl
  | true =>
    have hflag := normalizeArg_eq_flag_iff.2 hnext
    rw [hflag, List.self_eq_append_right] at h
    cases h

/-- The flag for the profile is not the terminator, whatever is attached to it. -/
theorem terminator_ne_append (rest : Bytes) : terminator ≠ doubleFlag ++ rest := by
  rw [doubleFlag, singleFlag, profileName_eq]
  rintro ⟨⟩

theorem terminator_ne_doubleFlag : terminator ≠ doubleFlag := by
  have h := terminator_ne_append []
  rwa [List.append_nil] at h

/-- What becomes the flag for the profile, with its value or without, was no terminator. -/
theorem ne_terminator_of_normalizeArg {arg rest : Bytes}
    (h : normalizeArg arg = doubleFlag ++ rest) : arg ≠ terminator := by
  rintro rfl
  rw [normalizeArg_eq_terminator_iff.2 rfl] at h
  exact terminator_ne_append rest h

/-! ### Whole lists -/

theorem normalizeFrom_eq_nil_iff {value : Bool} {args : List Bytes} :
    normalizeFrom value args = [] ↔ args = [] := by
  constructor
  · intro h
    cases args with
    | nil => rfl
    | cons arg args =>
      cases value with
      | true => cases h
      | false =>
        rw [normalizeFrom] at h
        split at h <;> cases h
  · rintro rfl
    cases value <;> rfl

theorem normalizeFrom_terminator (args : List Bytes) :
    normalizeFrom false (terminator :: args) = terminator :: args := if_pos rfl

/-- An argument that is no terminator is told from the rest, whatever the rest is. -/
theorem normalizeFrom_cons {arg : Bytes} (h : arg ≠ terminator) (args : List Bytes) :
    normalizeFrom false (arg :: args) = normalizeArg arg :: normalizeFrom (takesNext arg) args :=
  if_neg h

/-- Only the terminator alone becomes the terminator alone. -/
theorem normalizeFrom_eq_terminator_iff {args : List Bytes} :
    normalizeFrom false args = [terminator] ↔ args = [terminator] := by
  constructor
  · intro h
    cases args with
    | nil => cases h
    | cons arg args =>
      by_cases harg : arg = terminator
      · rw [harg, normalizeFrom_terminator] at h
        rw [harg, (List.cons.inj h).2]
      · rw [normalizeFrom_cons harg] at h
        exact absurd (normalizeArg_eq_terminator_iff.1 (List.cons.inj h).1) harg
  · rintro rfl
    exact normalizeFrom_terminator []

end ProfilingTargets.CommandLine.LongFlags
