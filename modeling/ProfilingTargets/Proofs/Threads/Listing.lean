import Mathlib.Data.List.ReduceOption
import Mathlib.Data.List.Sort
import ProfilingTargets.Threads

/-!
# Listing threads

The kernel's directory has the threads in no order that means anything, and some of its entries
are gone when they are read. What is found are the threads of the lines that can be read
(`found`). They are listed by number (`isByNumber_list`), and those of one number in the order in
which they were found (`ofNumber_list`). No other list has both properties (`eq_of_ofNumber_eq`),
and so a directory in another order gives another list only if threads of one number change places.

## What is proved

* `list_eq_iff`: which list is the list of some entries.
* `list_eq_list_iff`: when two directories give the same list.
* `listing`: all of this, and that the order does not matter where the numbers are distinct.
-/

namespace ProfilingTargets.Thread

variable {entries entries' : List (Option (List Char))} {threads threads' : List Thread}

/-- **The threads that are found in a directory**, in its order: those of the lines that are there
and can be read. -/
def found (entries : List (Option (List Char))) : List Thread :=
  entries.reduceOption.filterMap read?

/-- In a list by number the numbers do not go down. -/
def IsByNumber (threads : List Thread) : Prop := threads.Pairwise (·.tid ≤ ·.tid)

/-- The threads of a number, in their order. -/
def ofNumber (tid : UInt32) (threads : List Thread) : List Thread :=
  threads.filter (·.tid = tid)

/-! ### Lists by number -/

theorem mem_ofNumber {t : Thread} {tid : UInt32} :
    t ∈ ofNumber tid threads ↔ t ∈ threads ∧ t.tid = tid := by
  simp [ofNumber]

theorem ofNumber_cons (t : Thread) (tid : UInt32) (threads : List Thread) :
    ofNumber tid (t :: threads) =
      if t.tid = tid then t :: ofNumber tid threads else ofNumber tid threads := by
  simp [ofNumber, List.filter_cons]

/-- The number of a thread in a list by number is not below that of the first. -/
theorem IsByNumber.head_le {t u : Thread} (h : IsByNumber (u :: threads))
    (ht : t ∈ u :: threads) : u.tid ≤ t.tid := by
  rcases List.mem_cons.1 ht with rfl | ht
  · exact UInt32.le_refl _
  · exact List.rel_of_pairwise_cons h ht

theorem mem_iff_of_ofNumber_eq (heq : ∀ tid, ofNumber tid threads = ofNumber tid threads')
    (t : Thread) : t ∈ threads ↔ t ∈ threads' := by
  have ht := congrArg (t ∈ ·) (heq t.tid)
  simpa [mem_ofNumber] using ht

/-- **A list by number is told by the threads of each number.** -/
theorem eq_of_ofNumber_eq (h : IsByNumber threads) (h' : IsByNumber threads')
    (heq : ∀ tid, ofNumber tid threads = ofNumber tid threads') : threads = threads' := by
  have hmem := mem_iff_of_ofNumber_eq heq
  induction threads generalizing threads' with
  | nil => exact (List.eq_nil_iff_forall_not_mem.2 fun t ht => by simpa using (hmem t).2 ht).symm
  | cons t threads ih =>
    cases threads' with
    | nil => exact absurd ((hmem t).1 List.mem_cons_self) List.not_mem_nil
    | cons t' threads' =>
      -- the first thread of each list is in the other, so that neither number is the smaller one
      have htid : t.tid = t'.tid :=
        UInt32.le_antisymm (h.head_le ((hmem t').2 List.mem_cons_self))
          (h'.head_le ((hmem t).1 List.mem_cons_self))
      have hfirst := heq t.tid
      rw [ofNumber_cons, ofNumber_cons, if_pos rfl, if_pos htid.symm] at hfirst
      obtain rfl := (List.cons.inj hfirst).1
      have hrest : ∀ tid, ofNumber tid threads = ofNumber tid threads' := by
        intro tid
        have hboth := heq tid
        rw [ofNumber_cons, ofNumber_cons] at hboth
        split at hboth
        · exact (List.cons.inj hboth).2
        · exact hboth
      rw [ih (List.Pairwise.of_cons h) (List.Pairwise.of_cons h') hrest
        (mem_iff_of_ofNumber_eq hrest)]

/-! ### The list of a directory -/

theorem tid_le_trans (t u v : Thread) (h : decide (t.tid ≤ u.tid) = true)
    (h' : decide (u.tid ≤ v.tid) = true) : decide (t.tid ≤ v.tid) = true :=
  decide_eq_true (UInt32.le_trans (of_decide_eq_true h) (of_decide_eq_true h'))

theorem tid_le_total (t u : Thread) :
    (decide (t.tid ≤ u.tid) || decide (u.tid ≤ t.tid)) = true := by
  simpa using UInt32.le_total t.tid u.tid

theorem list_eq (entries : List (Option (List Char))) :
    list entries = (found entries).mergeSort fun a b => a.tid ≤ b.tid := by
  rw [list, found, List.reduceOption, List.filterMap_filterMap]
  rfl

theorem isByNumber_list (entries : List (Option (List Char))) : IsByNumber (list entries) := by
  rw [list_eq]
  exact (List.pairwise_mergeSort tid_le_trans tid_le_total _).imp of_decide_eq_true

/-- **Nothing is lost, and nothing is made up.** -/
theorem perm_list (entries : List (Option (List Char))) : (list entries).Perm (found entries) := by
  rw [list_eq]
  exact List.mergeSort_perm _ _

/-- **Threads of one number stay in the order in which they were found.** -/
theorem ofNumber_list (entries : List (Option (List Char))) (tid : UInt32) :
    ofNumber tid (list entries) = ofNumber tid (found entries) := by
  have hsame : (ofNumber tid (found entries)).Pairwise
      fun t u => decide (t.tid ≤ u.tid) = true := by
    refine List.pairwise_of_forall_mem_list fun t ht u hu => decide_eq_true ?_
    rw [(mem_ofNumber.1 ht).2, (mem_ofNumber.1 hu).2]
    exact UInt32.le_refl tid
  have hsub : (ofNumber tid (found entries)).Sublist (list entries) := by
    rw [list_eq]
    exact List.sublist_mergeSort tid_le_trans tid_le_total hsame List.filter_sublist
  have hown := hsub.filter (·.tid = tid)
  rw [ofNumber, List.filter_filter] at hown
  simp only [Bool.and_self] at hown
  exact (hown.eq_of_length ((perm_list entries).filter _).length_eq.symm).symm

/-- **The list of some entries is the only one by number that keeps the threads of each number as
they were found.** -/
theorem list_eq_iff : list entries = threads ↔
    IsByNumber threads ∧ ∀ tid, ofNumber tid threads = ofNumber tid (found entries) := by
  constructor
  · rintro rfl
    exact ⟨isByNumber_list entries, ofNumber_list entries⟩
  · rintro ⟨h, hsame⟩
    refine eq_of_ofNumber_eq (isByNumber_list entries) h fun tid => ?_
    rw [ofNumber_list, hsame]

/-- **Directories give the same list if the threads of each number are found in the same order**,
and only then. -/
theorem list_eq_list_iff : list entries' = list entries ↔
    ∀ tid, ofNumber tid (found entries') = ofNumber tid (found entries) := by
  rw [list_eq_iff, and_iff_right (isByNumber_list entries)]
  simp only [ofNumber_list, eq_comm]

/-- Where the numbers are distinct, the order of a directory does not matter. -/
theorem list_eq_of_perm (h : entries'.Perm entries)
    (hdistinct : ((found entries).map (·.tid)).Nodup) : list entries' = list entries := by
  have hfound : (found entries').Perm (found entries) := (h.filterMap id).filterMap read?
  refine ((perm_list entries').trans (hfound.trans (perm_list entries).symm)).eq_of_pairwise ?_
    (isByNumber_list entries') (isByNumber_list entries)
  intro t u ht hu hle hle'
  have ht := hfound.mem_iff.1 ((perm_list entries').mem_iff.1 ht)
  have hu := (perm_list entries).mem_iff.1 hu
  exact List.inj_on_of_nodup_map hdistinct ht hu (UInt32.le_antisymm hle hle')

/-- **Threads are listed by number, whatever the order of the directory is.** The list has the
threads of exactly the entries that are there and can be read, and those of one number in the order
of the directory. So two directories give the same list exactly if they have the same threads of
each number in the same order, and two orders of one directory give the same list and the same dump
if the numbers are distinct. -/
theorem listing (entries : List (Option (List Char))) :
    (list entries).Pairwise (·.tid ≤ ·.tid) ∧
    (list entries).Perm (entries.reduceOption.filterMap read?) ∧
    (∀ tid, ofNumber tid (list entries) = ofNumber tid (found entries)) ∧
    (∀ entries', list entries' = list entries ↔
      ∀ tid, ofNumber tid (found entries') = ofNumber tid (found entries)) ∧
    ∀ entries', entries'.Perm entries → ((found entries).map (·.tid)).Nodup →
      list entries' = list entries ∧ dump (list entries') = dump (list entries) := by
  refine ⟨isByNumber_list entries, perm_list entries, ofNumber_list entries,
    fun _ => list_eq_list_iff, ?_⟩
  intro entries' h hdistinct
  rw [list_eq_of_perm h hdistinct]
  exact ⟨rfl, rfl⟩

/-- Two orders of a directory in which an entry is gone and another is no thread's. -/
theorem listing_two_orders :
    [none, some "1 (a) R".toList, some "(b) S".toList, some "2 (c) S".toList].Perm
        [some "2 (c) S".toList, some "(b) S".toList, none, some "1 (a) R".toList] ∧
      ((found [some "2 (c) S".toList, some "(b) S".toList, none,
        some "1 (a) R".toList]).map (·.tid)).Nodup ∧
      list [none, some "1 (a) R".toList, some "(b) S".toList, some "2 (c) S".toList] =
        list [some "2 (c) S".toList, some "(b) S".toList, none, some "1 (a) R".toList] :=
  ⟨by decide, by decide, ((listing _).2.2.2.2 _ (by decide) (by decide)).1⟩

end ProfilingTargets.Thread
