import Mathlib.Data.List.Nodup
import ProfilingTargets.Heap.Counters
import ProfilingTargets.Proofs.Text.Lines
import ProfilingTargets.Proofs.Text.Numeral

/-!
# Heap reports: what can be read of them

The first line of a report holds a moment, which may be any text, be it one of several lines
that look like a report's own. The lines of the counters come last and are always as many
(`report_eq_append`): they can be cut off from the end, and then it is known whether the line
before them is one of the report's own or belongs to the moment.

If the moment is of one line, a report is a text of lines (`report_eq_join`). All but one of them
are a key, a colon and a value (`entryText`), the first one too; the keys differ and have no
colon in them, so that a key is found at the beginning of one line alone (`filter_entryText`).

## What is proved

* `eq_of_report`: reports that are alike are of the same counters and the same moment.
* `report_decodable`: this, and where in a report each figure is found.
-/

namespace ProfilingTargets.Heap.Counters

variable {c c' : Counters} {moment moment' key : List Char}

/-- **What the keys of a report stand for.** -/
def figures (c : Counters) : List (List Char × Int) := [
  ("live_bytes".toList, c.liveBytes.toInt),
  ("peak_live_bytes".toList, c.peakLiveBytes.toInt),
  ("live_allocs".toList, max 0 ((c.totalAllocs.toNat : Int) - c.totalFrees.toNat)),
  ("total_allocs".toList, c.totalAllocs.toNat),
  ("total_frees".toList, c.totalFrees.toNat),
  ("total_alloc_bytes".toList, c.totalAllocBytes.toNat),
  ("total_free_bytes".toList, c.totalFreeBytes.toNat)]

/-- What a line says of a key. -/
def entryText (entry : List Char × List Char) : List Char := entry.1 ++ ": ".toList ++ entry.2

/-- The entry of a report's first line. -/
def headingEntry (moment : List Char) : List Char × List Char :=
  ("heap profile".toList, "generated ".toList ++ moment)

/-- The lines of a report that say whether the counters are in use. -/
def usage (c : Counters) : List (List Char) := if c.totalAllocs = 0 then [notInstalled] else []

/-! ### Keys -/

/-- The keys of a report. -/
def keys : List (List Char) := [
  "live_bytes".toList, "peak_live_bytes".toList, "live_allocs".toList, "total_allocs".toList,
  "total_frees".toList, "total_alloc_bytes".toList, "total_free_bytes".toList]

theorem map_fst_entries (c : Counters) : c.entries.map Prod.fst = keys := rfl

theorem nodup_keys : keys.Nodup := by decide

/-- A key ends at its colon, and is not what the first line begins with. -/
theorem of_mem_keys : ∀ key ∈ keys, ':' ∉ key ∧ '\n' ∉ key ∧ key ≠ "heap profile".toList := by
  decide

theorem key_mem_keys {entry : List Char × List Char} (h : entry ∈ c.entries) :
    entry.1 ∈ keys := by
  rw [← map_fst_entries c]
  exact List.mem_map_of_mem h

theorem entryText_eq (entry : List Char × List Char) :
    entryText entry = entry.1 ++ ':' :: ' ' :: entry.2 := by
  rw [entryText, List.append_assoc]
  rfl

theorem colon_mem_entryText (entry : List Char × List Char) : ':' ∈ entryText entry := by
  simp [entryText_eq]

/-- **A line begins with a key** if it is the key's. -/
theorem isPrefixOf_entryText {entry : List Char × List Char} (hkey : ':' ∉ key)
    (hentry : ':' ∉ entry.1) :
    (key ++ ": ".toList).isPrefixOf (entryText entry) = decide (entry.1 = key) := by
  rw [Bool.eq_iff_iff, List.isPrefixOf_iff_prefix, decide_eq_true_iff]
  constructor
  · rintro ⟨rest, h⟩
    have hcut := congrArg (Split.splitFirst ':') h
    have htext : key ++ ": ".toList ++ rest = entryText (key, rest) := rfl
    rw [htext, entryText_eq, entryText_eq, Split.splitFirst_append_cons hkey,
      Split.splitFirst_append_cons hentry] at hcut
    exact (Prod.mk.inj hcut).1.symm
  · rintro rfl
    exact List.prefix_append _ _

/-- A line without a colon begins with no key. -/
theorem isPrefixOf_of_notMem {line : List Char} (h : ':' ∉ line) :
    (key ++ ": ".toList).isPrefixOf line = false := by
  rw [Bool.eq_false_iff, Ne, List.isPrefixOf_iff_prefix]
  rintro ⟨rest, rfl⟩
  exact h (colon_mem_entryText (key, rest))

/-- What is told from all others of a list by a function is found there by its value. -/
theorem filter_eq_singleton {α β : Type} [DecidableEq α] [DecidableEq β] {f : α → β} {l : List α}
    (hnodup : (l.map f).Nodup) {x : α} (h : x ∈ l) : l.filter (f · = f x) = [x] := by
  have hsame : ∀ y ∈ l, decide (f y = f x) = (y == x) := by
    intro y hy
    rw [Bool.eq_iff_iff, decide_eq_true_iff, beq_iff_eq]
    exact ⟨fun heq => List.inj_on_of_nodup_map hnodup hy h heq, congrArg f⟩
  rw [List.filter_congr hsame, List.filter_beq,
    List.count_eq_one_of_mem (List.Nodup.of_map f hnodup) h]
  rfl

/-- **A key begins one line alone** of the counters' lines. -/
theorem filter_entryText {entry : List Char × List Char} (h : entry ∈ c.entries) :
    (c.entries.map entryText).filter ((entry.1 ++ ": ".toList).isPrefixOf ·) =
      [entryText entry] := by
  have hkey := (of_mem_keys _ (key_mem_keys h)).1
  have hlines : ∀ e ∈ c.entries, (entry.1 ++ ": ".toList).isPrefixOf (entryText e) =
      decide (e.1 = entry.1) := by
    intro e he
    exact isPrefixOf_entryText hkey (of_mem_keys _ (key_mem_keys he)).1
  have hnodup : (c.entries.map Prod.fst).Nodup := by
    rw [map_fst_entries]
    exact nodup_keys
  rw [List.filter_map, Function.comp_def, List.filter_congr hlines, filter_eq_singleton hnodup h]
  rfl

/-! ### Figures -/

/-- The counters' lines hold the figures in decimal. -/
theorem entries_eq (c : Counters) :
    c.entries = c.figures.map (Prod.map id fun z => (toString z).toList) := by
  have hlive : ((c.liveAllocs : Nat) : Int) =
      max 0 ((c.totalAllocs.toNat : Int) - c.totalFrees.toNat) := by
    rw [liveAllocs]
    omega
  simp only [entries, figures, ← hlive, List.map_cons, List.map_nil, Prod.map, id,
    Numeral.writeInt_eq, Numeral.write_eq]
  rfl

/-- The figures are those of these counters. -/
theorem eq_of_entries (h : c.entries.map entryText = c'.entries.map entryText) : c = c' := by
  obtain ⟨live, peak, allocs, frees, allocBytes, freeBytes⟩ := c
  obtain ⟨live', peak', allocs', frees', allocBytes', freeBytes'⟩ := c'
  simp only [entries, entryText, List.map_cons, List.map_nil, List.cons.injEq,
    List.append_cancel_left_eq, and_true] at h
  obtain ⟨hlive, hpeak, -, hallocs, hfrees, hallocBytes, hfreeBytes⟩ := h
  rw [mk.injEq]
  exact ⟨Int64.toInt_inj.1 (Numeral.writeInt_injective hlive),
    Int64.toInt_inj.1 (Numeral.writeInt_injective hpeak),
    UInt64.toNat_inj.1 (Numeral.write_injective hallocs),
    UInt64.toNat_inj.1 (Numeral.write_injective hfrees),
    UInt64.toNat_inj.1 (Numeral.write_injective hallocBytes),
    UInt64.toNat_inj.1 (Numeral.write_injective hfreeBytes)⟩

/-- No line of a counter has a newline in it. -/
theorem newline_notMem_entries : ∀ line ∈ c.entries.map entryText, '\n' ∉ line := by
  intro line hline
  obtain ⟨entry, hentry, rfl⟩ := List.mem_map.1 hline
  have hkey := (of_mem_keys _ (key_mem_keys hentry)).2.1
  rw [entries_eq] at hentry
  obtain ⟨figure, -, rfl⟩ := List.mem_map.1 hentry
  have hvalue : '\n' ∉ (toString figure.2).toList := by
    rw [← Numeral.writeInt_eq]
    exact Numeral.notMem_writeInt (by decide) (by decide) _
  rw [entryText_eq]
  exact List.not_mem_append hkey (List.not_mem_cons_of_ne_of_not_mem (by decide)
    (List.not_mem_cons_of_ne_of_not_mem (by decide) hvalue))

/-! ### Lines -/

/-- The lines of a report. -/
def lines (c : Counters) (moment : List Char) : List (List Char) :=
  entryText (headingEntry moment) :: (c.usage ++ c.entries.map entryText)

theorem entryText_headingEntry (moment : List Char) :
    entryText (headingEntry moment) = "heap profile: generated ".toList ++ moment := by
  have hheading : "heap profile".toList ++ ": ".toList ++ "generated ".toList =
      "heap profile: generated ".toList := by decide
  exact (List.append_assoc _ _ _).symm.trans (congrArg (· ++ moment) hheading)

/-- **A report is a text of lines.** -/
theorem report_eq_join (c : Counters) (moment : List Char) :
    c.report moment = Lines.join (c.lines moment) := by
  have hentries : c.entries.flatMap entryLine = Lines.join (c.entries.map entryText) := by
    rw [Lines.join, List.flatMap_map]
    rfl
  have husage : (if c.totalAllocs = 0 then notInstalled ++ ['\n'] else []) =
      Lines.join c.usage := by
    rw [usage]
    split <;> rfl
  have hend : ∀ first rest rest' : List Char,
      first ++ '\n' :: (rest ++ rest') = first ++ ['\n'] ++ rest ++ rest' := by simp
  rw [lines, Lines.join_cons, Lines.join_append, entryText_headingEntry, hend, ← hentries,
    ← husage]
  rfl

/-- What comes before the lines of the counters ends at a newline. -/
theorem report_eq_append (c : Counters) (moment : List Char) :
    c.report moment = entryText (headingEntry moment) ++ (c.usage.flatMap ('\n' :: ·)) ++
      '\n' :: Lines.join (c.entries.map entryText) := by
  rw [report_eq_join, lines, Lines.join_cons, Lines.join_append, usage]
  split <;> simp [Lines.join]

/-- The counters always have as many lines. -/
theorem count_entries (c : Counters) : (Lines.join (c.entries.map entryText)).count '\n' = 7 := by
  rw [← Lines.length_ofText, Lines.ofText_join newline_notMem_entries]
  rfl

/-- **Reports tell their counters and their moments**, whatever the moments are. -/
theorem eq_of_report (h : c.report moment = c'.report moment') : c = c' ∧ moment = moment' := by
  rw [report_eq_append, report_eq_append] at h
  have hcount : (Lines.join (c.entries.map entryText)).count '\n' =
      (Lines.join (c'.entries.map entryText)).count '\n' := by
    rw [count_entries, count_entries]
  obtain ⟨hfront, hentries⟩ := Split.append_cons_inj_of_count h hcount
  obtain rfl := eq_of_entries
    (Lines.join_inj newline_notMem_entries newline_notMem_entries hentries)
  have hheading := List.append_cancel_right hfront
  exact ⟨rfl, List.append_cancel_left (List.append_cancel_left hheading)⟩

/-- The lines of a report are what it is read as if its moment is of one line. -/
theorem ofText_report (h : '\n' ∉ moment) (c : Counters) :
    Lines.ofText (c.report moment) = c.lines moment := by
  have hheading : '\n' ∉ entryText (headingEntry moment) := by
    rw [entryText_headingEntry]
    exact List.not_mem_append (by decide) h
  have husage : ∀ line ∈ c.usage, '\n' ∉ line := by
    rw [usage]
    split
    · exact List.forall_mem_singleton.2 (by decide)
    · exact List.forall_mem_nil _
  rw [report_eq_join]
  refine Lines.ofText_join (List.forall_mem_cons.2 ⟨hheading, ?_⟩)
  exact List.forall_mem_append.2 ⟨husage, newline_notMem_entries⟩

/-! ### What is found in a report -/

/-- The line about unused counters has no colon. -/
theorem colon_notMem_notInstalled : ':' ∉ notInstalled := by decide

/-- **A key begins one line alone of the whole report.** -/
theorem filter_lines {entry : List Char × List Char} (h : entry ∈ c.entries) (moment : List Char) :
    (c.lines moment).filter ((entry.1 ++ ": ".toList).isPrefixOf ·) = [entryText entry] := by
  obtain ⟨hkey, -, hheading⟩ := of_mem_keys _ (key_mem_keys h)
  have hfirst : ¬ (entry.1 ++ ": ".toList).isPrefixOf (entryText (headingEntry moment)) := by
    have hcolon : ':' ∉ (headingEntry moment).1 := by
      show ':' ∉ "heap profile".toList
      decide
    rw [isPrefixOf_entryText hkey hcolon, decide_eq_true_iff]
    exact Ne.symm hheading
  have husage : c.usage.filter ((entry.1 ++ ": ".toList).isPrefixOf ·) = [] := by
    rw [List.filter_eq_nil_iff, usage]
    split
    · refine List.forall_mem_singleton.2 ?_
      rw [isPrefixOf_of_notMem colon_notMem_notInstalled]
      exact Bool.false_ne_true
    · exact List.forall_mem_nil _
  rw [lines, List.filter_cons_of_neg hfirst, List.filter_append, husage, filter_entryText h]
  rfl

/-- The line about unused counters is there if they are. -/
theorem notInstalled_mem_lines : notInstalled ∈ c.lines moment ↔ c.totalAllocs = 0 := by
  have hne : ∀ entry, notInstalled ≠ entryText entry := by
    intro entry h
    exact colon_notMem_notInstalled (h ▸ colon_mem_entryText entry)
  have hentries : notInstalled ∉ c.entries.map entryText := by
    intro h
    obtain ⟨entry, -, heq⟩ := List.mem_map.1 h
    exact hne entry heq.symm
  rw [lines, List.mem_cons, List.mem_append, or_iff_right (hne _), or_iff_left hentries, usage]
  split <;> simp [*]

/-- **A report can be decoded.** Whatever the moment is, a report tells its counters and its
moment from all others. If the moment is of one line, each key begins one line alone, which goes
on with the key's figure in decimal; and the line about unused counters is there exactly if
nothing has been allocated. -/
theorem report_decodable :
    (Function.Injective fun reported : Counters × List Char => reported.1.report reported.2) ∧
      ∀ (c : Counters) (moment : List Char), '\n' ∉ moment →
        (∀ figure ∈ c.figures,
          (Lines.ofText (c.report moment)).filter ((figure.1 ++ ": ".toList).isPrefixOf ·) =
            [figure.1 ++ ": ".toList ++ (toString figure.2).toList]) ∧
        ("# allocation tracking is not installed".toList ∈ Lines.ofText (c.report moment) ↔
          c.totalAllocs = 0) := by
  constructor
  · rintro ⟨c, moment⟩ ⟨c', moment'⟩ h
    obtain ⟨rfl, rfl⟩ := eq_of_report h
    rfl
  · intro c moment hmoment
    rw [ofText_report hmoment]
    refine ⟨?_, notInstalled_mem_lines⟩
    intro figure hfigure
    have hentry : Prod.map id (fun z => (toString z).toList) figure ∈ c.entries := by
      rw [entries_eq]
      exact List.mem_map_of_mem hfigure
    exact filter_lines hentry moment

/-- A moment that looks like a report of other counters. -/
example :
    let c : Counters := { liveBytes := -1, totalAllocs := 1 }
    c.report "now\n# allocation tracking is not installed".toList ≠
      ({ c with totalAllocs := 0 } : Counters).report "now".toList := by
  decide

end ProfilingTargets.Heap.Counters
