import Mathlib.Data.List.TakeDrop
import ProfilingTargets.Threads
import ProfilingTargets.Proofs.Text.Blank
import ProfilingTargets.Proofs.Text.Position
import ProfilingTargets.Proofs.Text.Split

/-!
# Threads: the lines that are read, and what is read of them

The name of a thread may hold anything, parentheses too. What keeps a line readable is that
there is no `(` before the name and no `)` after it (`StatLine`); a line has at most one form
of this kind (`StatLine.text_injective`), and it is the form that is read.

A line is of one of three shapes (`Layout`): without a `(`, without a `)` after the first `(`,
or of the form above. The `(` and the `)` are searched on their own, so the `)` may come first;
but where both searches succeed in this order, the line is cut at the parentheses of its form
(`Position.cut?_append`), and never inside a character.

## What is proved

* `StatLine.ofParts?_eq_some_iff`: what is read of a line with a name in it.
* `readCut?_eq`: reading by byte positions never breaks off, and reads the same.
* `read?_statLine_iff`: when what the kernel writes of a thread is read back.
* `statLine_grammar`: all of this, for all lines.
-/

namespace ProfilingTargets.Thread

/-! ### The form of a line -/

/-- A line with a name in it: there is no `(` before it and no `)` after it. -/
@[ext]
structure StatLine where
  /-- What stands before the name. -/
  front : List Char
  /-- The name. -/
  name : List Char
  /-- What stands after the name. -/
  back : List Char
  /-- The name begins at the first `(`. -/
  front_free : '(' ∉ front
  /-- The name ends at the last `)`. -/
  back_free : ')' ∉ back

namespace StatLine

/-- The line. -/
def text (s : StatLine) : List Char := s.front ++ '(' :: (s.name ++ ')' :: s.back)

/-- The thread that a line describes: its number stands before the name, with blanks around
it, and its state is the first character after the name that is no blank. -/
structure Describes (s : StatLine) (t : Thread) : Prop where
  /-- The name is the thread's. -/
  name : s.name = t.name
  /-- A numeral before it stands for the thread's number. -/
  tid : ∃ left numeral right, s.front = left ++ numeral ++ right ∧ Blank.AllBlank left ∧
    Blank.AllBlank right ∧ Numeral.Denotes numeral t.tid.toNat
  /-- After it come blanks and then the state. -/
  state : ∃ blanks rest, s.back = blanks ++ t.state :: rest ∧ Blank.AllBlank blanks ∧
    Blank.isBlank t.state = false

end StatLine

/-- The shapes of a line. -/
inductive Layout (line : List Char) : Prop where
  /-- No name begins. -/
  | unopened (h : '(' ∉ line)
  /-- No name ends. -/
  | unclosed (front rest : List Char) (hline : line = front ++ '(' :: rest)
    (hfront : '(' ∉ front) (hrest : ')' ∉ rest)
  /-- There is a name. -/
  | named (s : StatLine) (h : s.text = line)

/-! ### Parentheses -/

section

variable {c : Char} {cs : List Char}

theorem splitLast?_of_notMem (h : c ∉ cs) : splitLast? c cs = none := by
  induction cs with
  | nil => rfl
  | cons x xs ih =>
    obtain ⟨hx, hxs⟩ := not_or.1 (mt List.mem_cons.2 h)
    rw [splitLast?, ih hxs]
    exact if_neg (Ne.symm hx)

theorem splitLast?_append_cons (before : List Char) {after : List Char} (h : c ∉ after) :
    splitLast? c (before ++ c :: after) = some (before, after) := by
  induction before with
  | nil =>
    rw [List.nil_append, splitLast?, splitLast?_of_notMem h]
    exact if_pos rfl
  | cons x xs ih => rw [List.cons_append, splitLast?, ih]

/-- A text is cut at its last `c`. -/
theorem exists_append_cons_of_mem (h : c ∈ cs) :
    ∃ before after, cs = before ++ c :: after ∧ c ∉ after := by
  obtain ⟨after, before, hcs, hafter⟩ := List.eq_append_cons_of_mem (List.mem_reverse.2 h)
  refine ⟨before.reverse, after.reverse, ?_, mt List.mem_reverse.1 hafter⟩
  rw [← List.reverse_reverse cs, hcs]
  simp

/-- A text is cut at its first `c`. -/
theorem span_append_cons {front : List Char} (h : c ∉ front) (rest : List Char) :
    (front ++ c :: rest).span (· ≠ c) = (front, c :: rest) := by
  rw [List.span_eq_takeWhile_dropWhile, List.takeWhile_append_of_pos (Split.forall_mem_ne h),
    List.dropWhile_append_of_pos (Split.forall_mem_ne h)]
  simp

theorem span_of_notMem (h : c ∉ cs) : cs.span (· ≠ c) = (cs, []) := by
  rw [List.span_eq_takeWhile_dropWhile, List.takeWhile_eq_self_iff.2 (Split.forall_mem_ne h),
    List.dropWhile_eq_nil_iff.2 (Split.forall_mem_ne h)]

end

theorem layout (line : List Char) : Layout line := by
  by_cases hopen : '(' ∈ line
  · obtain ⟨front, rest, rfl, hfront⟩ := List.eq_append_cons_of_mem hopen
    by_cases hclose : ')' ∈ rest
    · obtain ⟨name, back, rfl, hback⟩ := exists_append_cons_of_mem hclose
      exact .named ⟨front, name, back, hfront, hback⟩ rfl
    · exact .unclosed front rest rfl hfront hclose
  · exact .unopened hopen

/-! ### Reading -/

section

variable {line front rest : List Char} {t : Thread}

theorem read?_of_unopened (h : '(' ∉ line) : read? line = none := by
  rw [read?, span_of_notMem h]

theorem read?_of_unclosed (hfront : '(' ∉ front) (hrest : ')' ∉ rest) :
    read? (front ++ '(' :: rest) = none := by
  rw [read?, span_append_cons hfront]
  dsimp only
  rw [splitLast?_of_notMem hrest]

/-- What is looked for before and after the name. -/
def ofParts? (front name back : List Char) : Option Thread := do
  let tid ← Numeral.read? UInt32.size (Blank.trim front)
  let state ← back.find? (!Blank.isBlank ·)
  return ⟨UInt32.ofNat tid, name, state⟩

namespace StatLine

variable (s : StatLine)

theorem read?_text : read? s.text = ofParts? s.front s.name s.back := by
  rw [read?, text, span_append_cons s.front_free]
  dsimp only
  rw [splitLast?_append_cons s.name s.back_free, ofParts?]
  dsimp only
  cases Numeral.read? UInt32.size (Blank.trim s.front) with
  | none => rfl
  | some tid => cases s.back.find? (!Blank.isBlank ·) <;> rfl

/-! The positions of the two parentheses of a line, and the three cuts at them. -/

theorem text_eq_append : s.text = s.front ++ ['('] ++ s.name ++ ')' :: s.back := by
  simp [text]

theorem first?_text : Position.first? '(' s.text = some (Position.size s.front) :=
  Position.first?_append_cons s.front_free _

theorem last?_text :
    Position.last? ')' s.text = some (Position.size (s.front ++ ['('] ++ s.name)) := by
  rw [text_eq_append, Position.last?_append_cons _ s.back_free]

theorem cut?_front :
    Position.cut? (Position.size s.front) s.text =
      some (s.front, '(' :: (s.name ++ ')' :: s.back)) :=
  Position.cut?_append _ _

theorem slice?_name :
    Position.slice? (Position.size s.front + 1)
      (Position.size (s.front ++ ['('] ++ s.name)) s.text = some s.name := by
  have hwidth : Position.width '(' = 1 := rfl
  rw [text_eq_append, ← hwidth, ← Position.size_concat, Position.slice?_append]

theorem cut?_back :
    Position.cut? (Position.size (s.front ++ ['('] ++ s.name) + 1) s.text =
      some (s.front ++ ['('] ++ s.name ++ [')'], s.back) := by
  have hwidth : Position.width ')' = 1 := rfl
  rw [text_eq_append, List.append_cons _ ')', ← hwidth, ← Position.size_concat,
    Position.cut?_append]

/-- **The cuts of a line with a name in it do not break off.** -/
theorem readCut?_text : readCut? s.text = some (ofParts? s.front s.name s.back) := by
  have horder : ¬ Position.size (s.front ++ ['('] ++ s.name) < Position.size s.front := by
    rw [Position.size_append, Position.size_append]
    omega
  rw [readCut?, first?_text, last?_text]
  dsimp only
  rw [if_neg horder, cut?_front, slice?_name, cut?_back]
  rfl

/-- **What is found around the name** is the thread that the line describes. -/
theorem ofParts?_eq_some_iff : ofParts? s.front s.name s.back = some t ↔ s.Describes t := by
  have hstate : ∀ c, s.back.find? (!Blank.isBlank ·) = some c ↔
      ∃ blanks rest, s.back = blanks ++ c :: rest ∧ Blank.AllBlank blanks ∧
        Blank.isBlank c = false := by
    intro c
    simp only [List.find?_eq_some_iff_append, Bool.not_eq_true', Bool.not_not]
    constructor
    · rintro ⟨hc, blanks, rest, hback, hblanks⟩
      exact ⟨blanks, rest, hback, hblanks, hc⟩
    · rintro ⟨blanks, rest, hback, hblanks, hc⟩
      exact ⟨hc, blanks, rest, hback, hblanks⟩
  have hparts : ofParts? s.front s.name s.back = some t ↔
      ∃ tid, Numeral.read? UInt32.size (Blank.trim s.front) = some tid ∧
        ∃ state, s.back.find? (!Blank.isBlank ·) = some state ∧
          (⟨UInt32.ofNat tid, s.name, state⟩ : Thread) = t := by
    simp only [ofParts?, Option.bind_eq_bind, Option.bind_eq_some_iff, Option.pure_def,
      Option.some.injEq]
  simp only [hparts, hstate, Numeral.read?_eq_some_iff, Blank.denotes_trim_iff]
  constructor
  · rintro ⟨tid, ⟨hdenotes, hlt⟩, state, hback, rfl⟩
    have htid : (UInt32.ofNat tid).toNat = tid := UInt32.toNat_ofNat_of_lt' hlt
    exact ⟨rfl, by rwa [htid], hback⟩
  · intro h
    refine ⟨t.tid.toNat, ⟨h.tid, t.tid.toNat_lt⟩, t.state, h.state, ?_⟩
    rw [UInt32.ofNat_toNat, h.name]

/-- What stands before the first `(` of a line, and after it. -/
theorem front_of_text (hfront : '(' ∉ front) (h : s.text = front ++ '(' :: rest) :
    s.front = front ∧ s.name ++ ')' :: s.back = rest := by
  have hcut : Split.splitFirst '(' s.text = (s.front, s.name ++ ')' :: s.back) :=
    Split.splitFirst_append_cons s.front_free _
  rw [h, Split.splitFirst_append_cons hfront] at hcut
  exact ⟨(Prod.mk.inj hcut).1.symm, (Prod.mk.inj hcut).2.symm⟩

/-- **A line has one form.** -/
theorem text_injective : Function.Injective text := by
  intro s s' h
  obtain ⟨hfront, hrest⟩ := s.front_of_text s'.front_free h
  have hlast := splitLast?_append_cons s.name s.back_free
  rw [hrest, splitLast?_append_cons s'.name s'.back_free, Option.some.injEq,
    Prod.mk.injEq] at hlast
  exact StatLine.ext hfront hlast.1.symm hlast.2.symm

end StatLine

/-- **No cut breaks off**, and what is read by byte positions is what is read. -/
theorem readCut?_eq (line : List Char) : readCut? line = some (read? line) := by
  cases layout line with
  | unopened h => rw [readCut?, Position.first?_of_notMem h, read?_of_unopened h]
  | unclosed front rest hline hfront hrest =>
    subst hline
    rw [read?_of_unclosed hfront hrest, readCut?, Position.first?_append_cons hfront]
    by_cases hclose : ')' ∈ front
    · obtain ⟨before, after, rfl, hafter⟩ := exists_append_cons_of_mem hclose
      have hfree : ')' ∉ after ++ '(' :: rest :=
        List.not_mem_append hafter (List.not_mem_cons_of_ne_of_not_mem (by decide) hrest)
      have horder : Position.size before < Position.size (before ++ ')' :: after) := by
        have hpos := Position.width_pos ')'
        rw [Position.size_append, Position.size]
        omega
      rw [List.append_assoc, List.cons_append, Position.last?_append_cons before hfree]
      exact if_pos horder
    · have hfree : ')' ∉ front ++ '(' :: rest :=
        List.not_mem_append hclose (List.not_mem_cons_of_ne_of_not_mem (by decide) hrest)
      rw [Position.last?_of_notMem hfree]
  | named s h => rw [← h, s.readCut?_text, s.read?_text]

/-- **What is read** is the thread that the line describes, if it has a name in it. -/
theorem read?_eq_some_iff_describes :
    read? line = some t ↔ ∃ s : StatLine, s.text = line ∧ s.Describes t := by
  constructor
  · intro h
    cases layout line with
    | unopened hopen =>
      rw [read?_of_unopened hopen] at h
      cases h
    | unclosed front rest hline hfront hrest =>
      rw [hline, read?_of_unclosed hfront hrest] at h
      cases h
    | named s hs =>
      rw [← hs, s.read?_text, s.ofParts?_eq_some_iff] at h
      exact ⟨s, hs, h⟩
  · rintro ⟨s, rfl, h⟩
    rw [s.read?_text, s.ofParts?_eq_some_iff]
    exact h

/-! ### The kernel's own lines -/

/-- The line that the kernel writes of a thread, with more after the state. -/
def statLine (t : Thread) (tail : List Char) : List Char :=
  Numeral.write t.tid.toNat ++ ' ' :: '(' :: (t.name ++ ')' :: ' ' :: t.state :: tail)

theorem open_notMem_write (n : Nat) : '(' ∉ Numeral.write n ++ [' '] :=
  List.not_mem_append (Numeral.notMem_write (by decide) n) (by decide)

/-- **What the kernel writes is read back**, whatever the name: exactly if the state is no
blank and no `)`, and if there is no `)` after it. -/
theorem read?_statLine_iff (tail : List Char) :
    read? (t.statLine tail) = some t ↔
      Blank.isBlank t.state = false ∧ t.state ≠ ')' ∧ ')' ∉ tail := by
  have hline : t.statLine tail = Numeral.write t.tid.toNat ++ [' '] ++
      '(' :: (t.name ++ ')' :: ' ' :: t.state :: tail) := by
    simp [statLine]
  constructor
  · intro h
    obtain ⟨s, hs, hdescribes⟩ := read?_eq_some_iff_describes.1 h
    obtain ⟨-, hrest⟩ := s.front_of_text (open_notMem_write _) (hs.trans hline)
    rw [hdescribes.name] at hrest
    have hback : s.back = ' ' :: t.state :: tail :=
      (List.cons.inj (List.append_cancel_left hrest)).2
    have hfree := s.back_free
    rw [hback, List.mem_cons, List.mem_cons, not_or, not_or] at hfree
    obtain ⟨-, -, -, -, hblank⟩ := hdescribes.state
    exact ⟨hblank, Ne.symm hfree.2.1, hfree.2.2⟩
  · rintro ⟨hblank, hstate, htail⟩
    have hback : ')' ∉ ' ' :: t.state :: tail :=
      List.not_mem_cons_of_ne_of_not_mem (by decide)
        (List.not_mem_cons_of_ne_of_not_mem (Ne.symm hstate) htail)
    refine read?_eq_some_iff_describes.2
      ⟨⟨_, t.name, _, open_notMem_write _, hback⟩, hline.symm, ?_⟩
    constructor
    case name => rfl
    case tid =>
      exact ⟨[], Numeral.write t.tid.toNat, [' '], rfl, List.forall_mem_nil _,
        List.forall_mem_singleton.2 (by decide), Numeral.denotes_write _⟩
    case state =>
      exact ⟨[' '], tail, rfl, List.forall_mem_singleton.2 (by decide), hblank⟩

end

/-- **The lines that are read.** Reading never breaks off, wherever the parentheses are and
whatever else is in the line. A thread is read of a line exactly if the line has the form of
one with the thread's name in it, and describes the thread around the name; a line has at most
one form. So what the kernel writes of a thread is read back, where its state is a character
that can be told from the blank and from the `)` before it, and where there is no `)` later. -/
theorem statLine_grammar :
    (∀ line, readCut? line = some (read? line)) ∧
      (∀ line t, read? line = some t ↔ ∃ s : StatLine, s.text = line ∧ s.Describes t) ∧
      Function.Injective StatLine.text ∧
      ∀ t tail, read? (statLine t tail) = some t ↔
        Blank.isBlank t.state = false ∧ t.state ≠ ')' ∧ ')' ∉ tail := by
  refine ⟨readCut?_eq, ?_, StatLine.text_injective, ?_⟩
  · intro line t
    exact read?_eq_some_iff_describes
  · intro t tail
    exact read?_statLine_iff tail

/-- A name that closes more parentheses than it opens, and is not all ASCII. -/
example : read? "7 (a) é))\tR 1".toList = some ⟨7, "a) é)".toList, 'R'⟩ := by rfl

end ProfilingTargets.Thread
