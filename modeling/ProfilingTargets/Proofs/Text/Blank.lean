import ProfilingTargets.Text.Blank
import ProfilingTargets.Proofs.Text.Numeral
import Mathlib.Data.List.TakeWhile

/-!
# Blanks: what trimming leaves

Trimming takes the blanks from both ends and nothing else (`exists_eq_trim`), and it stops at
the first character that is none (`trim_append`). There are no blanks in a numeral, so a text
is a numeral once it is trimmed exactly if it is one with blanks around it
(`denotes_trim_iff`).
-/

namespace ProfilingTargets.Blank

/-- A text of blanks. -/
def AllBlank (cs : List Char) : Prop := ∀ c ∈ cs, isBlank c

variable {cs left right : List Char}

theorem AllBlank.reverse (h : AllBlank cs) : AllBlank cs.reverse :=
  fun c hc => h c (List.mem_reverse.1 hc)

theorem allBlank_takeWhile (cs : List Char) : AllBlank (cs.takeWhile isBlank) :=
  fun _ hc => List.mem_takeWhile_imp hc

/-- Blanks are dropped up to the first character that is none. -/
theorem dropWhile_append (hleft : AllBlank left) (h : ∀ c, cs.head? = some c → isBlank c = false) :
    (left ++ cs).dropWhile isBlank = cs := by
  rw [List.dropWhile_append_of_pos hleft]
  cases cs with
  | nil => rfl
  | cons c cs => exact List.dropWhile_cons_of_neg (Bool.eq_false_iff.1 (h c rfl))

/-- **What is left has lost blanks only.** -/
theorem exists_eq_trim (cs : List Char) :
    ∃ left right, cs = left ++ trim cs ++ right ∧ AllBlank left ∧ AllBlank right := by
  have hright : cs.dropWhile isBlank = trim cs ++
      ((cs.dropWhile isBlank).reverse.takeWhile isBlank).reverse := by
    rw [trim, ← List.reverse_append, List.takeWhile_append_dropWhile, List.reverse_reverse]
  refine ⟨cs.takeWhile isBlank, _, ?_, allBlank_takeWhile cs,
    (allBlank_takeWhile (cs.dropWhile isBlank).reverse).reverse⟩
  rw [List.append_assoc, ← hright, List.takeWhile_append_dropWhile]

/-- **What has no blanks is left**, and the blanks around it are not. -/
theorem trim_append (hleft : AllBlank left) (hright : AllBlank right) (hne : cs ≠ [])
    (h : ∀ c ∈ cs, isBlank c = false) : trim (left ++ cs ++ right) = cs := by
  have hfront : ∀ c, (cs ++ right).head? = some c → isBlank c = false := by
    intro c hc
    rw [List.head?_append_of_ne_nil _ hne] at hc
    exact h c (List.mem_of_mem_head? hc)
  have hback : ∀ c, cs.reverse.head? = some c → isBlank c = false := by
    intro c hc
    exact h c (List.mem_reverse.1 (List.mem_of_mem_head? hc))
  rw [trim, List.append_assoc, dropWhile_append hleft hfront, List.reverse_append,
    dropWhile_append hright.reverse hback, List.reverse_reverse]

/-! ### Numerals -/

theorem isBlank_of_isDigit {c : Char} (h : c.isDigit) : isBlank c = false := by
  have hrange := Char.isDigit_iff_toNat.1 h
  have hzero : '0'.toNat = 48 := rfl
  have hnine : '9'.toNat = 57 := rfl
  simp only [isBlank, Bool.or_eq_false_iff, Bool.and_eq_false_iff, decide_eq_false_iff_not,
    beq_eq_false_iff_ne]
  omega

/-- There are no blanks in a numeral. -/
theorem isBlank_of_denotes {n : Nat} (h : Numeral.Denotes cs n) :
    ∀ c ∈ cs, isBlank c = false := by
  cases h with
  | digits hdigits => exact fun c hc => isBlank_of_isDigit (hdigits.2 c hc)
  | plus hdigits =>
    exact List.forall_mem_cons.2 ⟨by decide, fun c hc => isBlank_of_isDigit (hdigits.2 c hc)⟩

/-- **Trimmed, a text is a numeral** if it is one with blanks around it. -/
theorem denotes_trim_iff {n : Nat} :
    Numeral.Denotes (trim cs) n ↔ ∃ left numeral right, cs = left ++ numeral ++ right ∧
      AllBlank left ∧ AllBlank right ∧ Numeral.Denotes numeral n := by
  constructor
  · intro h
    obtain ⟨left, right, hcs, hleft, hright⟩ := exists_eq_trim cs
    exact ⟨left, trim cs, right, hcs, hleft, hright, h⟩
  · rintro ⟨left, numeral, right, rfl, hleft, hright, h⟩
    rwa [trim_append hleft hright h.ne_nil (isBlank_of_denotes h)]

end ProfilingTargets.Blank
