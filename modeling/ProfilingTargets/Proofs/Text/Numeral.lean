import ProfilingTargets.Text.Numeral
import Mathlib.Data.List.Basic

/-!
# Numerals: which texts stand for a number

A numeral is a row of digits, perhaps with a plus sign in front (`Denotes`). Reading takes
every numeral below the bound and nothing else (`read?_eq_some_iff`), and so gives back what
was written (`denotes_write`). Numbers are written as the library writes them (`write_eq`,
`writeInt_eq`), and so no two of them alike.
-/

namespace ProfilingTargets.Numeral

/-- A row of digits is what it is for the library. -/
theorem value_eq (digits : List Char) : value digits = Nat.ofDigitChars 10 digits 0 := by
  rw [value, Nat.ofDigitChars_eq_foldl]
  rfl

/-- A row of digits, at least one of them. -/
def IsDigits (digits : List Char) : Prop := digits ≠ [] ∧ ∀ c ∈ digits, c.isDigit

/-- The number that a text stands for, if it is a numeral. -/
inductive Denotes : List Char → Nat → Prop where
  /-- Digits stand for their number. -/
  | digits {digits : List Char} (h : IsDigits digits) :
    Denotes digits (Nat.ofDigitChars 10 digits 0)
  /-- A plus sign in front of them changes nothing. -/
  | plus {digits : List Char} (h : IsDigits digits) :
    Denotes ('+' :: digits) (Nat.ofDigitChars 10 digits 0)

theorem isDigits_iff (digits : List Char) : isDigits digits ↔ IsDigits digits := by
  rw [isDigits, IsDigits, Bool.and_eq_true, Bool.not_eq_true', List.isEmpty_eq_false_iff,
    List.all_eq_true]

/-- The plus sign is no digit. -/
theorem ne_plus_of_isDigits {c : Char} {digits : List Char} (h : IsDigits (c :: digits)) :
    c ≠ '+' := by
  rintro rfl
  exact absurd (h.2 '+' List.mem_cons_self) (by decide)

section

variable {bound n : Nat} {cs : List Char}

/-- Digits are read if their number is below the bound. -/
theorem readDigits_eq_some_iff {digits : List Char} :
    (if isDigits digits && value digits < bound then some (value digits) else none) = some n ↔
      IsDigits digits ∧ Nat.ofDigitChars 10 digits 0 = n ∧ n < bound := by
  rw [value_eq]
  constructor
  · intro h
    split at h
    case isTrue hread =>
      obtain ⟨hdigits, hlt⟩ := Bool.and_eq_true_iff.1 hread
      cases h
      exact ⟨(isDigits_iff digits).1 hdigits, rfl, of_decide_eq_true hlt⟩
    case isFalse => cases h
  · rintro ⟨hdigits, rfl, hlt⟩
    rw [(isDigits_iff digits).2 hdigits, decide_eq_true hlt]
    rfl

theorem read?_plus_eq_some_iff {digits : List Char} :
    read? bound ('+' :: digits) = some n ↔
      IsDigits digits ∧ Nat.ofDigitChars 10 digits 0 = n ∧ n < bound :=
  readDigits_eq_some_iff

theorem read?_eq_some_iff_of_no_plus (h : ∀ digits, cs ≠ '+' :: digits) :
    read? bound cs = some n ↔ IsDigits cs ∧ Nat.ofDigitChars 10 cs 0 = n ∧ n < bound := by
  rw [read?.eq_def]
  dsimp only
  split
  case h_1 digits => exact absurd rfl (h digits)
  case h_2 => exact readDigits_eq_some_iff

/-- **What is read is a numeral below the bound**, and every such numeral is read. -/
theorem read?_eq_some_iff : read? bound cs = some n ↔ Denotes cs n ∧ n < bound := by
  constructor
  · intro h
    by_cases hplus : ∃ digits, cs = '+' :: digits
    · obtain ⟨digits, rfl⟩ := hplus
      obtain ⟨hdigits, rfl, hlt⟩ := read?_plus_eq_some_iff.1 h
      exact ⟨.plus hdigits, hlt⟩
    · obtain ⟨hdigits, rfl, hlt⟩ := (read?_eq_some_iff_of_no_plus (not_exists.1 hplus)).1 h
      exact ⟨.digits hdigits, hlt⟩
  · rintro ⟨hdenotes, hlt⟩
    cases hdenotes with
    | digits hdigits =>
      have hplus : ∀ rest, cs ≠ '+' :: rest := by
        rintro rest rfl
        exact ne_plus_of_isDigits hdigits rfl
      exact (read?_eq_some_iff_of_no_plus hplus).2 ⟨hdigits, rfl, hlt⟩
    | plus hdigits => exact read?_plus_eq_some_iff.2 ⟨hdigits, rfl, hlt⟩

theorem Denotes.ne_nil (h : Denotes cs n) : cs ≠ [] := by
  cases h with
  | digits hdigits => exact hdigits.1
  | plus hdigits => exact List.cons_ne_nil _ _

end

/-- **What is written is a numeral** of its number. -/
theorem denotes_write (n : Nat) : Denotes (write n) n := by
  have hdigits : IsDigits (write n) :=
    ⟨Nat.toDigits_ne_nil, fun _ hc => Nat.isDigit_of_mem_toDigits (by decide) (by decide) hc⟩
  have h := Denotes.digits hdigits
  rwa [write, Nat.ofDigitChars_ten_toDigits] at h

/-! ### Writing -/

theorem write_eq (n : Nat) : write n = (toString n).toList := Nat.toList_repr.symm

theorem writeInt_eq (z : Int) : writeInt z = (toString z).toList := by
  cases z with
  | ofNat n => exact write_eq n
  | negSucc n =>
    have hneg : Int.negSucc n < 0 := Int.negSucc_lt_zero n
    have htext : toString (Int.negSucc n) = "-" ++ toString (n + 1) := rfl
    rw [writeInt, if_pos hneg, write_eq, htext, String.toList_append]
    rfl

theorem write_injective : Function.Injective write :=
  Function.LeftInverse.injective (g := (Nat.ofDigitChars 10 · 0)) fun _ =>
    Nat.ofDigitChars_ten_toDigits

/-- There are digits alone in what is written of a number. -/
theorem notMem_write {c : Char} (hc : c.isDigit = false) (n : Nat) : c ∉ write n := by
  intro h
  rw [Nat.isDigit_of_mem_toDigits (by decide) (by decide) h] at hc
  cases hc

theorem notMem_writeInt {c : Char} (hc : c.isDigit = false) (hsign : c ≠ '-') (z : Int) :
    c ∉ writeInt z := by
  rw [writeInt]
  split
  · exact List.not_mem_cons_of_ne_of_not_mem hsign (notMem_write hc _)
  · exact notMem_write hc _

theorem writeInt_injective : Function.Injective writeInt := by
  have hsign : ∀ {digits : List Char} {n : Nat}, '-' :: digits ≠ write n := by
    intro digits n h
    exact notMem_write (by decide) n (h ▸ List.mem_cons_self)
  intro z z' h
  rw [writeInt, writeInt] at h
  split at h <;> split at h
  · have habs := write_injective (List.cons.inj h).2
    omega
  · exact absurd h hsign
  · exact absurd h.symm hsign
  · have habs := write_injective h
    omega

end ProfilingTargets.Numeral
