import ProfilingTargets.Proofs.Text.Split

/-!
# Lines

A text of lines has a newline at the end of each (`join`). If there is none within a line, the
lines can be told from the text (`ofText_join`); in any case a text has as many lines as it has
newlines (`length_ofText`).
-/

namespace ProfilingTargets.Lines

/-- The text of some lines. -/
def join (lines : List (List Char)) : List Char := lines.flatMap (· ++ ['\n'])

/-- The lines of a text: what ends at a newline. -/
def ofText (text : List Char) : List (List Char) := (Split.splitOn '\n' text).dropLast

variable {lines lines' : List (List Char)}

theorem join_cons (line : List Char) (lines : List (List Char)) :
    join (line :: lines) = line ++ '\n' :: join lines := by
  simp [join]

theorem join_append (lines lines' : List (List Char)) :
    join (lines ++ lines') = join lines ++ join lines' :=
  List.flatMap_append

/-- **The lines of a text are told apart** if no line has a newline in it. -/
theorem ofText_join (h : ∀ line ∈ lines, '\n' ∉ line) : ofText (join lines) = lines := by
  have hcut : Split.splitOn '\n' (join lines) = lines ++ [[]] := by
    induction lines with
    | nil => rfl
    | cons line lines ih =>
      obtain ⟨hline, hlines⟩ := List.forall_mem_cons.1 h
      rw [join_cons, Split.splitOn_append_cons hline, ih hlines, List.cons_append]
  rw [ofText, hcut, List.dropLast_concat]

theorem join_inj (h : ∀ line ∈ lines, '\n' ∉ line) (h' : ∀ line ∈ lines', '\n' ∉ line)
    (heq : join lines = join lines') : lines = lines' := by
  rw [← ofText_join h, heq, ofText_join h']

/-- There are as many lines as newlines. -/
theorem length_ofText (text : List Char) : (ofText text).length = text.count '\n' := by
  rw [ofText, List.length_dropLast, Split.length_splitOn, Nat.add_sub_cancel]

/-- **The newlines of a text** are those at the ends of its lines and those within them. -/
theorem count_join (lines : List (List Char)) :
    (join lines).count '\n' = lines.length + lines.flatten.count '\n' := by
  induction lines with
  | nil => rfl
  | cons line lines ih =>
    rw [join_cons, List.count_append, List.count_cons_self, ih, List.length_cons,
      List.flatten_cons, List.count_append]
    omega

end ProfilingTargets.Lines
