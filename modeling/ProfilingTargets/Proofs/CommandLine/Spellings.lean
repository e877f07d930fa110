import ProfilingTargets.Proofs.CommandLine.Parser

/-!
# Long flags with one dash or two: the spellings are interchangeable

At any choice of positions, arguments can be replaced by what they are rewritten to
(`respelled`) before they are rewritten. The pass then sees other arguments, but it comes to
know the same of each position: a replaced argument is the terminator, takes the next one as
its value, or is given a second dash exactly as the other spelling is
(`takesNext_normalizeArg`, `normalizeArg_normalizeArg`).

## What is proved

* `normalizeFrom_mix`: the pass gives the same for every mixture of spellings, from wherever it
  goes on.
* `respelled_alike`: so does all that is made of the arguments after it, messages included.
-/

namespace ProfilingTargets.CommandLine.LongFlags

/-! ### One argument -/

/-- **A second dash is given once.** -/
theorem normalizeArg_normalizeArg (arg : Bytes) :
    normalizeArg (normalizeArg arg) = normalizeArg arg := by
  rcases normalizeArg_cases arg with ⟨-, heq⟩ | ⟨hone, heq⟩
  · rw [heq, heq]
  · obtain ⟨rest, rfl, -⟩ := isSingleDashed_iff.1 hone
    rw [heq, normalizeArg_two_dashes]

/-- **With two dashes, a flag takes the next argument** if it does with one. -/
theorem takesNext_normalizeArg (arg : Bytes) : takesNext (normalizeArg arg) = takesNext arg := by
  rw [Bool.eq_iff_iff, ← normalizeArg_eq_flag_iff, ← normalizeArg_eq_flag_iff,
    normalizeArg_normalizeArg]

/-! ### Mixtures -/

/-- Arguments, with those at the chosen positions replaced by what stands there in `out`. -/
def mix (chosen : Nat → Bool) (args out : List Bytes) : List Bytes :=
  args.mapIdx fun i arg => if chosen i then out[i]?.getD arg else arg

/-- The arguments, with those at the chosen positions replaced by what they are rewritten to;
at a position that is not rewritten, this is the argument itself. -/
def respelled (chosen : Nat → Bool) (args : List Bytes) : List Bytes :=
  mix chosen args (normalize args)

section

variable {arg arg' : Bytes} {args out : List Bytes}

theorem mix_cons (chosen : Nat → Bool) :
    mix chosen (arg :: args) (arg' :: out) =
      (if chosen 0 then arg' else arg) :: mix (fun i => chosen (i + 1)) args out := by
  rw [mix, List.mapIdx_cons]
  rfl

/-- Where there is one spelling only, there is nothing to choose. -/
theorem mix_self (chosen : Nat → Bool) (args : List Bytes) : mix chosen args args = args := by
  rw [mix, List.mapIdx_eq_iff]
  intro i
  cases h : args[i]? with
  | none => rfl
  | some arg => simp

/-- Where all positions are chosen, nothing is left of the first spelling. -/
theorem mix_true (h : out.length = args.length) : mix (fun _ => true) args out = out := by
  rw [mix, List.mapIdx_eq_iff]
  intro i
  by_cases hi : i < args.length
  · rw [List.getElem?_eq_getElem hi, List.getElem?_eq_getElem (h ▸ hi)]
    rfl
  · rw [List.getElem?_eq_none (by omega), List.getElem?_eq_none (by omega)]
    rfl

end

/-! ### The pass -/

theorem length_normalizeFrom (value : Bool) (args : List Bytes) :
    (normalizeFrom value args).length = args.length := by
  induction args generalizing value with
  | nil => cases value <;> rfl
  | cons arg args ih =>
    cases value with
    | true => rw [normalizeFrom, List.length_cons, ih, List.length_cons]
    | false =>
      rw [normalizeFrom]
      split
      · rfl
      · rw [List.length_cons, ih, List.length_cons]

/-- **The pass gives the same for every mixture of spellings.** Whichever of its two spellings
an argument has, the pass goes on from it to the same place. -/
theorem normalizeFrom_mix (chosen : Nat → Bool) (value : Bool) (args : List Bytes) :
    normalizeFrom value (mix chosen args (normalizeFrom value args)) =
      normalizeFrom value args := by
  induction args generalizing chosen value with
  | nil => cases value <;> rfl
  | cons arg args ih =>
    cases value with
    | true =>
      rw [normalizeFrom, mix_cons, ite_self, normalizeFrom, ih]
    | false =>
      by_cases hterminator : arg = terminator
      · rw [hterminator, normalizeFrom_terminator, mix_self, normalizeFrom_terminator]
      · have halike : ∀ spelled, spelled = normalizeArg arg ∨ spelled = arg →
            spelled ≠ terminator ∧ normalizeArg spelled = normalizeArg arg ∧
              takesNext spelled = takesNext arg := by
          rintro spelled (rfl | rfl)
          · exact ⟨mt normalizeArg_eq_terminator_iff.1 hterminator,
              normalizeArg_normalizeArg arg, takesNext_normalizeArg arg⟩
          · exact ⟨hterminator, rfl, rfl⟩
        obtain ⟨hne, hdash, hnext⟩ := halike (if chosen 0 then normalizeArg arg else arg)
          (ite_eq_or_eq _ _ _)
        rw [normalizeFrom_cons hterminator, mix_cons, normalizeFrom_cons hne, hdash, hnext, ih]

theorem respelled_cons (chosen : Nat → Bool) (program : Bytes) (args : List Bytes) :
    respelled chosen (program :: args) =
      program :: mix (fun i => chosen (i + 1)) args (normalizeFrom false args) := by
  rw [respelled, normalize, mix_cons, ite_self]

theorem normalize_respelled (chosen : Nat → Bool) (args : List Bytes) :
    normalize (respelled chosen args) = normalize args := by
  cases args with
  | nil => rfl
  | cons program args => rw [respelled_cons, normalize, normalizeFrom_mix, normalize]

/-- **What was rewritten is not rewritten again.** -/
theorem normalize_normalize (args : List Bytes) : normalize (normalize args) = normalize args := by
  have hlength : (normalize args).length = args.length := by
    cases args with
    | nil => rfl
    | cons program args => rw [normalize, List.length_cons, length_normalizeFrom, List.length_cons]
  have h := normalize_respelled (fun _ => true) args
  rwa [respelled, mix_true hlength] at h

end ProfilingTargets.CommandLine.LongFlags

namespace ProfilingTargets.CommandLine

open LongFlags

/-- The program's name has one spelling. -/
theorem nameOf_respelled (chosen : Nat → Bool) (arguments : List Bytes) :
    nameOf (respelled chosen arguments) = nameOf arguments := by
  cases arguments with
  | nil => rfl
  | cons program args => rw [respelled_cons, nameOf, nameOf, List.head?_cons, List.head?_cons]

theorem parse_respelled (chosen : Nat → Bool) (arguments : List Bytes) :
    parse (respelled chosen arguments) = parse arguments := by
  rw [parse, normalize_respelled, parse]

/-- **One dash or two is the same**, at any choice of positions: the arguments that come out of
the first pass are the same, and so is what they are parsed to, be it a path or a refusal, and
the text that a refusal prints. What has come out of the first pass comes out of it again. -/
theorem respelled_alike (chosen : Nat → Bool) (arguments : List Bytes) :
    normalize (respelled chosen arguments) = normalize arguments ∧
      parse (respelled chosen arguments) = parse arguments ∧
      (∀ i, (parse (respelled chosen arguments)).mapError
          (Refusal.message i (nameOf (respelled chosen arguments))) =
        (parse arguments).mapError (Refusal.message i (nameOf arguments))) ∧
      normalize (normalize arguments) = normalize arguments := by
  refine ⟨normalize_respelled chosen arguments, parse_respelled chosen arguments, ?_,
    normalize_normalize arguments⟩
  intro i
  rw [parse_respelled, nameOf_respelled]

end ProfilingTargets.CommandLine
