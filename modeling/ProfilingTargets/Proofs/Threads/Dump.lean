import Mathlib.Data.Set.Function
import ProfilingTargets.Threads
import ProfilingTargets.Proofs.Text.Lines
import ProfilingTargets.Proofs.Text.Numeral

/-!
# Thread dumps lose nothing

A dump is a text of lines: two in front, and one for each thread (`dump_eq_join`). A name or a
state with a newline in it breaks the thread's line, and nothing else does (`count_dump`). In a
thread's line the number comes first, with blanks before it if it is short; since a number has
no blanks and at least one digit, it ends at the next blank (`writeRight_append_inj`), whatever
comes then. So a line tells its thread (`entry_injective`), and a dump its threads.

## What is proved

* `entry_injective`: threads with the same line are the same.
* `dump_lossless`: how many lines a dump has, and that it tells its threads if their lines are
  not broken.
-/

namespace ProfilingTargets.Thread

variable {t : Thread} {threads threads' : List Thread}

/-- A thread's line of a dump, without its end. -/
def entry (t : Thread) : List Char :=
  Numeral.writeRight 8 t.tid.toNat ++ [' ', t.state, ' '] ++ t.name

/-- The first line of a dump of so many threads. -/
def heading (count : Nat) : List Char := "threads: ".toList ++ Numeral.write count

/-- What the line of a thread takes from the outside. -/
def content (t : Thread) : List Char := t.state :: t.name

/-! ### A thread's line -/

/-- In a line the number is told from what comes after the blank behind it. -/
theorem writeRight_append_inj {width n n' : Nat} {rest rest' : List Char}
    (h : Numeral.writeRight width n ++ ' ' :: rest = Numeral.writeRight width n' ++ ' ' :: rest') :
    n = n' ∧ rest = rest' := by
  have hread : ∀ m (rest : List Char), Split.splitFirst ' '
      ((Numeral.writeRight width m ++ ' ' :: rest).dropWhile (· = ' ')) =
        (Numeral.write m, rest) := by
    intro m rest
    have hfree : ' ' ∉ Numeral.write m := Numeral.notMem_write (by decide) m
    obtain ⟨digit, digits, hdigits⟩ := List.exists_cons_of_ne_nil (Numeral.denotes_write m).ne_nil
    have hdigit : digit ≠ ' ' := by
      rintro rfl
      exact hfree (hdigits ▸ List.mem_cons_self)
    have hnumber : (Numeral.write m ++ ' ' :: rest).dropWhile (· = ' ') =
        Numeral.write m ++ ' ' :: rest := by
      rw [hdigits]
      exact List.dropWhile_cons_of_neg (by simpa using hdigit)
    rw [Numeral.writeRight, List.append_assoc,
      List.dropWhile_append_of_pos (by simp), hnumber, Split.splitFirst_append_cons hfree]
  have hparts := hread n rest
  rw [h, hread n' rest', Prod.mk.injEq] at hparts
  exact ⟨(Numeral.write_injective hparts.1).symm, hparts.2.symm⟩

theorem entry_eq (t : Thread) :
    t.entry = Numeral.writeRight 8 t.tid.toNat ++ ' ' :: t.state :: ' ' :: t.name := by
  simp [entry]

/-- **A line tells its thread**, whatever its name and its state are. -/
theorem entry_injective : Function.Injective entry := by
  rintro ⟨tid, name, state⟩ ⟨tid', name', state'⟩ h
  rw [entry_eq, entry_eq] at h
  obtain ⟨htid, hrest⟩ := writeRight_append_inj h
  obtain ⟨rfl, hname⟩ := List.cons.inj hrest
  obtain rfl := UInt32.toNat_inj.1 htid
  obtain rfl := (List.cons.inj hname).2
  rfl

/-- The newlines of a line are those of the thread's name and state. -/
theorem count_entry (t : Thread) : t.entry.count '\n' = t.content.count '\n' := by
  have hnumber : (Numeral.writeRight 8 t.tid.toNat).count '\n' = 0 := by
    rw [List.count_eq_zero, Numeral.writeRight, List.mem_append, not_or]
    exact ⟨by simp, Numeral.notMem_write (by decide) _⟩
  rw [entry_eq, List.count_append, hnumber, Nat.zero_add, content,
    List.count_cons_of_ne (by decide), List.count_cons, List.count_cons_of_ne (by decide),
    List.count_cons]

/-! ### Dumps -/

/-- **A dump is a text of lines.** -/
theorem dump_eq_join (threads : List Thread) :
    dump threads = Lines.join (heading threads.length :: [] :: threads.map entry) := by
  have hlines : threads.flatMap line = Lines.join (threads.map entry) := by
    rw [Lines.join, List.flatMap_map]
    rfl
  have hend : ∀ first rest : List Char,
      first ++ '\n' :: ([] ++ '\n' :: rest) = first ++ ['\n', '\n'] ++ rest := by simp
  rw [Lines.join_cons, Lines.join_cons, hend, ← hlines]
  rfl

theorem newline_notMem_heading (count : Nat) : '\n' ∉ heading count :=
  List.not_mem_append (by decide) (Numeral.notMem_write (by decide) count)

/-- **The newlines of a dump** are those at the ends of its lines, and those in names and states. -/
theorem count_dump (threads : List Thread) :
    (dump threads).count '\n' =
      threads.length + 2 + (threads.flatMap content).count '\n' := by
  have hheading : (heading threads.length).count '\n' = 0 :=
    List.count_eq_zero.2 (newline_notMem_heading _)
  have hentries : (threads.map entry).flatten.count '\n' =
      (threads.flatMap content).count '\n' := by
    rw [← List.flatMap_def, List.count_flatMap, List.count_flatMap]
    exact congrArg List.sum (List.map_congr_left fun t _ => count_entry t)
  rw [dump_eq_join, Lines.count_join, List.flatten_cons, List.flatten_cons, List.count_append,
    hheading, List.nil_append, hentries]
  simp only [List.length_cons, List.length_map]
  omega

/-- The lines of a dump whose lines are not broken. -/
theorem ofText_dump (h : ∀ t ∈ threads, '\n' ∉ t.content) :
    Lines.ofText (dump threads) = heading threads.length :: [] :: threads.map entry := by
  rw [dump_eq_join]
  refine Lines.ofText_join (List.forall_mem_cons.2 ⟨newline_notMem_heading _, ?_⟩)
  refine List.forall_mem_cons.2 ⟨List.not_mem_nil, List.forall_mem_map.2 ?_⟩
  intro t ht
  rw [← List.count_eq_zero, count_entry, List.count_eq_zero]
  exact h t ht

/-- **A dump loses nothing.** It has a newline for each thread and two more, besides those in
names and states; so after the two lines in front there is one line for each thread exactly if
there are no such newlines. In that case it is the thread's own line, and the dump tells its
threads from all others of this kind. -/
theorem dump_lossless :
    (∀ threads : List Thread, (dump threads).count '\n' =
      threads.length + 2 + (threads.flatMap fun t => t.state :: t.name).count '\n') ∧
    (∀ threads : List Thread, ((Lines.ofText (dump threads)).drop 2).length = threads.length ↔
      ∀ t ∈ threads, '\n' ∉ t.name ∧ t.state ≠ '\n') ∧
    (∀ threads : List Thread, (∀ t ∈ threads, '\n' ∉ t.name ∧ t.state ≠ '\n') →
      Lines.ofText (dump threads) = heading threads.length :: [] :: threads.map entry) ∧
    Set.InjOn dump {threads | ∀ t ∈ threads, '\n' ∉ t.name ∧ t.state ≠ '\n'} := by
  have hcontent : ∀ t : Thread, ('\n' ∉ t.name ∧ t.state ≠ '\n') ↔ '\n' ∉ t.content := by
    intro t
    rw [content, List.mem_cons, not_or, and_comm, ne_comm]
  simp only [hcontent]
  refine ⟨count_dump, ?_, fun threads h => ofText_dump h, ?_⟩
  · intro threads
    rw [List.length_drop, Lines.length_ofText, count_dump]
    have hfree : (∀ t ∈ threads, '\n' ∉ t.content) ↔ (threads.flatMap content).count '\n' = 0 := by
      simp [List.count_eq_zero, List.mem_flatMap]
    rw [hfree]
    omega
  · intro threads h threads' h' heq
    have hlines := (ofText_dump h).symm.trans ((congrArg Lines.ofText heq).trans (ofText_dump h'))
    have hentries := (List.cons.inj (List.cons.inj hlines).2).2
    exact List.map_injective_iff.2 entry_injective hentries

/-- A number that is wider than its column, a blank for a state, and a name like a line. -/
example : dump [⟨4294967295, "       7 R x".toList, ' '⟩] =
    "threads: 1\n\n4294967295          7 R x\n".toList := by decide

end ProfilingTargets.Thread
