import ProfilingTargets.Text.Split
import Mathlib.Data.List.Basic

/-!
# Splitting: what was cut is put together again, and cut anew

Pieces without a separator are told apart again, whatever stands between them and the end
(`splitOn_append_cons`, `splitOn_intercalate`); and where it is known how many separators come
later, a list can be cut from its end (`append_cons_inj_of_count`).
-/

namespace ProfilingTargets.Split

section

variable {α : Type} [DecidableEq α] {sep : α} {xs : List α}

/-- A list with a separator is its two parts with the separator between them. -/
theorem splitFirst_append (h : sep ∈ xs) :
    (splitFirst sep xs).1 ++ sep :: (splitFirst sep xs).2 = xs := by
  induction xs with
  | nil => cases h
  | cons x xs ih =>
    by_cases hx : x = sep
    · simp [splitFirst, hx]
    · have hmem : sep ∈ xs := (List.mem_cons.1 h).resolve_left fun heq => hx heq.symm
      simpa [splitFirst, hx] using ih hmem

/-- No element of a list without a separator ends a search for one. -/
theorem forall_mem_ne (h : sep ∉ xs) : ∀ x ∈ xs, decide (x ≠ sep) := by
  intro x hx
  exact decide_eq_true (ne_of_mem_of_not_mem hx h)

/-- The first separator is where a list is cut. -/
theorem splitFirst_append_cons (h : sep ∉ xs) (ys : List α) :
    splitFirst sep (xs ++ sep :: ys) = (xs, ys) := by
  rw [splitFirst, List.takeWhile_append_of_pos (forall_mem_ne h),
    List.dropWhile_append_of_pos (forall_mem_ne h)]
  simp

/-- Between two separators with as many separators after the one as after the other there is
nothing. -/
theorem eq_nil_of_count {between ys ys' : List α} (h : sep :: ys = between ++ sep :: ys')
    (hcount : ys.count sep = ys'.count sep) : between = [] := by
  cases between with
  | nil => rfl
  | cons x between =>
    have hlater := congrArg (List.count sep) (List.cons.inj h).2
    rw [List.append_eq, List.count_append, List.count_cons_self] at hlater
    omega

/-- **A list is cut at one place only** if it is known how many separators come later. -/
theorem append_cons_inj_of_count {xs' ys ys' : List α} (h : xs ++ sep :: ys = xs' ++ sep :: ys')
    (hcount : ys.count sep = ys'.count sep) : xs = xs' ∧ ys = ys' := by
  rcases List.append_eq_append_iff.1 h with ⟨between, hxs, hrest⟩ | ⟨between, hxs, hrest⟩
  · obtain rfl := eq_nil_of_count hrest hcount
    exact ⟨by rw [hxs, List.append_nil], (List.cons.inj hrest).2⟩
  · obtain rfl := eq_nil_of_count hrest hcount.symm
    exact ⟨by rw [hxs, List.append_nil], (List.cons.inj hrest).2.symm⟩

theorem splitOn_cons_self (ys : List α) : splitOn sep (sep :: ys) = [] :: splitOn sep ys := by
  simp [splitOn]

theorem splitOn_cons_of_ne {x : α} (hx : x ≠ sep) {ys : List α} {piece : List α}
    {pieces : List (List α)} (h : splitOn sep ys = piece :: pieces) :
    splitOn sep (x :: ys) = (x :: piece) :: pieces := by
  simp only [splitOn, List.foldr_cons] at h ⊢
  rw [if_neg hx, h]
  rfl

theorem splitOn_ne_nil (sep : α) (xs : List α) : splitOn sep xs ≠ [] := by
  cases xs with
  | nil => simp [splitOn]
  | cons x xs =>
    simp only [splitOn, List.foldr_cons]
    split <;> simp

/-- What stands before the first separator is the first piece. -/
theorem splitOn_append_cons (h : sep ∉ xs) (ys : List α) :
    splitOn sep (xs ++ sep :: ys) = xs :: splitOn sep ys := by
  induction xs with
  | nil => exact splitOn_cons_self ys
  | cons x xs ih =>
    have hx : x ≠ sep := fun heq => h (List.mem_cons.2 (.inl heq.symm))
    exact splitOn_cons_of_ne hx (ih fun hmem => h (List.mem_cons_of_mem x hmem))

/-- What has no separator is one piece. -/
theorem splitOn_of_notMem (h : sep ∉ xs) : splitOn sep xs = [xs] := by
  induction xs with
  | nil => rfl
  | cons x xs ih =>
    have hx : x ≠ sep := fun heq => h (List.mem_cons.2 (.inl heq.symm))
    exact splitOn_cons_of_ne hx (ih fun hmem => h (List.mem_cons_of_mem x hmem))

/-- There is one piece more than there are separators. -/
theorem length_splitOn (sep : α) (xs : List α) : (splitOn sep xs).length = xs.count sep + 1 := by
  induction xs with
  | nil => rfl
  | cons x xs ih =>
    by_cases hx : x = sep
    · subst hx
      rw [splitOn_cons_self, List.length_cons, ih, List.count_cons_self]
    · obtain ⟨piece, pieces, hcut⟩ := List.exists_cons_of_ne_nil (splitOn_ne_nil sep xs)
      rw [hcut] at ih
      rw [splitOn_cons_of_ne hx hcut, List.count_cons_of_ne hx, ← ih]
      rfl

/-- A list is cut as `List.splitOn` cuts it. -/
theorem splitOn_eq (sep : α) (xs : List α) : splitOn sep xs = xs.splitOn sep := by
  induction xs with
  | nil => rfl
  | cons x xs ih =>
    obtain ⟨piece, pieces, hcut⟩ := List.exists_cons_of_ne_nil (splitOn_ne_nil sep xs)
    rw [List.splitOn_cons_eq_if_modifyHead, ← ih]
    by_cases hx : x = sep
    · subst hx
      rw [splitOn_cons_self, if_pos (beq_self_eq_true x)]
    · rw [splitOn_cons_of_ne hx hcut, hcut, if_neg (by simpa using hx), List.modifyHead_cons]

/-- **What was put together with a separator is cut there again.** -/
theorem splitOn_intercalate {pieces : List (List α)} (hne : pieces ≠ [])
    (h : ∀ piece ∈ pieces, sep ∉ piece) : splitOn sep ([sep].intercalate pieces) = pieces := by
  rw [splitOn_eq]
  exact List.splitOn_intercalate sep h hne

end

end ProfilingTargets.Split
