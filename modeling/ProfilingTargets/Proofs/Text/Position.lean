import ProfilingTargets.Text.Position
import Mathlib.Tactic.SplitIfs

/-!
# Byte positions: cuts that do not break off

Where a text is put together from two parts, the size of the first is a position at which it
can be cut (`cut?_append`, `slice?_append`). The positions that a search gives are of this kind
(`first?_append_cons`, `last?_append_cons`), so that what was found can be cut out.
-/

namespace ProfilingTargets.Position

variable {c x : Char} {xs ys : List Char}

theorem width_pos (c : Char) : 0 < width c := by
  rw [width, List.length_pos_iff]
  simp only [Utf8.encodeChar]
  split_ifs <;> exact List.cons_ne_nil _ _

theorem size_append (xs ys : List Char) : size (xs ++ ys) = size xs + size ys := by
  induction xs with
  | nil => exact (Nat.zero_add _).symm
  | cons x xs ih => rw [List.cons_append, size, size, ih, Nat.add_assoc]

theorem size_concat (xs : List Char) (c : Char) : size (xs ++ [c]) = size xs + width c :=
  size_append xs [c]

/-! ### Searching -/

theorem first?_of_notMem (h : c ∉ xs) : first? c xs = none := by
  induction xs with
  | nil => rfl
  | cons x xs ih =>
    obtain ⟨hx, hxs⟩ := not_or.1 (mt List.mem_cons.2 h)
    rw [first?, if_neg (Ne.symm hx), ih hxs, Option.map_none]

/-- **The first one is found** where none is before it. -/
theorem first?_append_cons (h : c ∉ xs) (ys : List Char) :
    first? c (xs ++ c :: ys) = some (size xs) := by
  induction xs with
  | nil => exact if_pos rfl
  | cons x xs ih =>
    obtain ⟨hx, hxs⟩ := not_or.1 (mt List.mem_cons.2 h)
    rw [List.cons_append, first?, if_neg (Ne.symm hx), ih hxs, Option.map_some, size]

theorem last?_of_notMem (h : c ∉ xs) : last? c xs = none := by
  induction xs with
  | nil => rfl
  | cons x xs ih =>
    obtain ⟨hx, hxs⟩ := not_or.1 (mt List.mem_cons.2 h)
    rw [last?, ih hxs]
    exact if_neg (Ne.symm hx)

/-- **The last one is found** where none is after it. -/
theorem last?_append_cons (xs : List Char) (h : c ∉ ys) :
    last? c (xs ++ c :: ys) = some (size xs) := by
  induction xs with
  | nil =>
    rw [List.nil_append, last?, last?_of_notMem h]
    exact if_pos rfl
  | cons x xs ih => rw [List.cons_append, last?, ih, size]

/-! ### Cutting -/

theorem cut?_zero (xs : List Char) : cut? 0 xs = some ([], xs) := by
  cases xs <;> exact if_pos rfl

/-- **A text can be cut after each of its parts.** -/
theorem cut?_append (xs ys : List Char) : cut? (size xs) (xs ++ ys) = some (xs, ys) := by
  induction xs with
  | nil => exact cut?_zero ys
  | cons x xs ih =>
    have hpos := width_pos x
    rw [List.cons_append, cut?, size, if_neg (by omega), if_pos (Nat.le_add_right _ _),
      Nat.add_sub_cancel_left, ih, Option.map_some]

/-- **What stands between two parts can be cut out.** -/
theorem slice?_append (xs part ys : List Char) :
    slice? (size xs) (size (xs ++ part)) (xs ++ part ++ ys) = some part := by
  have hle : size xs ≤ size (xs ++ part) := by
    rw [size_append]
    exact Nat.le_add_right _ _
  rw [slice?, if_pos hle, cut?_append]
  dsimp only [Option.bind_eq_bind, Option.bind_some]
  rw [cut?_append]
  rfl

end ProfilingTargets.Position
