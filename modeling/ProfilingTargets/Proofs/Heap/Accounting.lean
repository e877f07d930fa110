import Mathlib
import ProfilingTargets.Heap.Allocator
import ProfilingTargets.Proofs.Heap.Counters

/-!
# The accounts of the heap

What the counters say after any run of the allocator, in terms of the calls that were
made and of whether the system granted each.

## The model

A `Call` is a request with the system's choice. Which blocks are live is told from the
calls alone (`layoutAfter`): a block is there from a granted allocation on, with its
latest granted size, until its release. A call is legal (`Request.IsLegal`) if it has a
size, a layout that is possible, and is about a live block unless it makes one.

## What is proved

`accounts_run`: after any run of legal calls, fewer than `2 ^ 64` of them and with less
than `2 ^ 63` live bytes at every moment, the counters are exact (`Accounts`). One lemma
for each way in which a call can turn out carries it: `Ledger.refused`, `Ledger.alloc`,
`Ledger.realloc`, `Ledger.dealloc`.
-/

namespace ProfilingTargets.Heap

/-! ### Calls -/

/-- A request, and whether the system grants it. -/
structure Call where
  /-- The request. -/
  request : Request
  /-- The system's choice. -/
  granted : Bool

namespace Call

/-- Whether a call is a successful allocation, a change of size included. -/
def allocates (c : Call) : Bool :=
  match c.request with
  | .dealloc _ => false
  | _ => c.granted

/-- Whether a call is a release, a successful change of size included. -/
def frees (c : Call) : Bool :=
  match c.request with
  | .dealloc _ => true
  | .realloc _ _ => c.granted
  | _ => false

/-- The layout of a name's block after a call, if it is live then. -/
def layoutAfter (c : Call) (name : String) (before : Option Layout) : Option Layout :=
  match c.request, c.granted with
  | .alloc n layout, true | .allocZeroed n layout, true => if n = name then some layout else before
  | .realloc n size, true =>
    if n = name then before.map fun layout => { layout with size := size } else before
  | .dealloc n, _ => if n = name then none else before
  | _, false => before

end Call

/-- The layout of a name's block after some calls, if it is live then. -/
def layoutAfter (calls : List Call) (name : String) : Option Layout :=
  calls.foldl (fun before c => c.layoutAfter name before) none

theorem layoutAfter_concat (calls : List Call) (c : Call) (name : String) :
    layoutAfter (calls ++ [c]) name = c.layoutAfter name (layoutAfter calls name) := by
  simp only [layoutAfter, List.foldl_append, List.foldl_cons, List.foldl_nil]

/-- **What allocators may be asked** where these are the live blocks: sizes are not zero,
layouts are possible, names are new or those of live blocks. -/
def Request.IsLegal (live : String → Option Layout) : Request → Prop
  | .alloc name layout | .allocZeroed name layout =>
    live name = none ∧ layout.size ≠ 0 ∧ layout.isPossible = true
  | .realloc name size =>
    ∃ layout, live name = some layout ∧ size ≠ 0 ∧
      ({ layout with size := size } : Layout).isPossible = true
  | .dealloc name => ∃ layout, live name = some layout

/-- Every call is legal where it is made. -/
def IsLegalRun (calls : List Call) : Prop :=
  ∀ before c, before ++ [c] <+: calls → c.request.IsLegal (layoutAfter before)

theorem isLegalRun_nil : IsLegalRun [] := fun before c h => by simp at h

theorem isLegalRun_concat {calls : List Call} {c : Call} :
    IsLegalRun (calls ++ [c]) ↔ IsLegalRun calls ∧ c.request.IsLegal (layoutAfter calls) := by
  constructor
  · intro h
    exact ⟨fun before d hd => h before d (hd.trans (List.prefix_append _ _)),
      h calls c List.prefix_rfl⟩
  · rintro ⟨hcalls, hc⟩ before d hd
    rcases List.prefix_concat_iff.1 hd with heq | hd
    · obtain ⟨rfl, hlast⟩ := List.append_inj' heq rfl
      cases hlast
      exact hc
    · exact hcalls before d hd

/-! ### Runs -/

namespace Allocator

/-- The allocator after some calls, from no blocks and counters at zero. -/
def run (calls : List Call) : Except Refusal Allocator :=
  calls.foldlM (fun a c => (a.perform c.granted c.request).map (·.2)) {}

theorem run_concat {calls : List Call} {a : Allocator} (h : run calls = .ok a) (c : Call) :
    run (calls ++ [c]) = (a.perform c.granted c.request).map (·.2) := by
  simp only [run, List.foldlM_append, List.foldlM_cons, List.foldlM_nil, bind_pure] at h ⊢
  rw [h]
  rfl

/-- The sizes of the live blocks, summed up. -/
def liveSize (a : Allocator) : Nat := (a.blocks.map fun block => block.2.size.toNat).sum

end Allocator

/-- Less than `2 ^ 63` bytes live at every moment of some calls. -/
def Fits (calls : List Call) : Prop :=
  ∀ before a, before <+: calls → Allocator.run before = .ok a → a.liveSize < 2 ^ 63

theorem fits_nil : Fits [] := by
  intro before a hbefore hrun
  obtain rfl := List.prefix_nil.1 hbefore
  cases hrun
  decide

theorem fits_concat {calls : List Call} {c : Call} :
    Fits (calls ++ [c]) ↔
      Fits calls ∧ ∀ b, Allocator.run (calls ++ [c]) = .ok b → b.liveSize < 2 ^ 63 := by
  constructor
  · intro h
    exact ⟨fun before a hbefore => h before a (hbefore.trans (List.prefix_append _ _)),
      fun b => h _ b List.prefix_rfl⟩
  · rintro ⟨hcalls, hlast⟩ before a hbefore
    rcases List.prefix_concat_iff.1 hbefore with rfl | hbefore
    · exact hlast a
    · exact hcalls before a hbefore

/-- What the live bytes have been in the course of some calls, before the first of them
and after each. -/
def liveValues (calls : List Call) : Set Int :=
  { live | ∃ before a, before <+: calls ∧ Allocator.run before = .ok a ∧
      live = a.counters.liveBytes.toInt }

theorem liveValues_concat {calls : List Call} {c : Call} {b : Allocator}
    (h : Allocator.run (calls ++ [c]) = .ok b) :
    liveValues (calls ++ [c]) = insert b.counters.liveBytes.toInt (liveValues calls) := by
  ext live
  constructor
  · rintro ⟨before, a, hbefore, hrun, rfl⟩
    rcases List.prefix_concat_iff.1 hbefore with rfl | hbefore
    · rw [h] at hrun
      cases hrun
      exact Set.mem_insert _ _
    · exact Set.mem_insert_of_mem _ ⟨before, a, hbefore, hrun, rfl⟩
  · rintro (rfl | ⟨before, a, hbefore, hrun, rfl⟩)
    · exact ⟨_, b, List.prefix_rfl, h, rfl⟩
    · exact ⟨before, a, hbefore.trans (List.prefix_append _ _), hrun, rfl⟩

/-! ### Live blocks -/

namespace Allocator

theorem block?_cons (counters : Counters) (name : String) (layout : Layout)
    (blocks : List (String × Layout)) (m : String) :
    (⟨counters, (name, layout) :: blocks⟩ : Allocator).block? m =
      if m = name then some layout else (⟨counters, blocks⟩ : Allocator).block? m := by
  by_cases hm : m = name
  · simp [block?, hm]
  · simp [block?, List.lookup_cons, beq_eq_false_iff_ne.2 hm, hm]

theorem block?_without (a : Allocator) (counters : Counters) (name m : String) :
    (⟨counters, a.without name⟩ : Allocator).block? m =
      if m = name then none else a.block? m := by
  simp only [block?, without]
  induction a.blocks with
  | nil => simp
  | cons block rest ih =>
    obtain ⟨n, layout⟩ := block
    by_cases hn : n = name
    · subst hn
      rw [List.filter_cons_of_neg (by simp), ih]
      by_cases hm : m = n
      · simp [hm]
      · simp [hm, List.lookup_cons, beq_eq_false_iff_ne.2 hm]
    · rw [List.filter_cons_of_pos (by simpa using hn), List.lookup_cons, List.lookup_cons, ih]
      by_cases hm : m = n
      · simp [hm, hn]
      · simp [beq_eq_false_iff_ne.2 hm]

/-- Whose name stands among the names is live. -/
theorem block?_ne_none {a : Allocator} {name : String} (h : name ∈ a.blocks.map (·.1)) :
    a.block? name ≠ none := by
  obtain ⟨block, hblock, rfl⟩ := List.mem_map.1 h
  rw [block?, ne_eq, List.lookup_eq_none_iff]
  intro hnone
  simpa using hnone block hblock

/-- **The place of a block**: the others are what is left without it. -/
theorem split {a : Allocator} (ha : (a.blocks.map (·.1)).Nodup) {name : String} {layout : Layout}
    (h : a.block? name = some layout) :
    ∃ before after, a.blocks = before ++ (name, layout) :: after ∧
      a.without name = before ++ after := by
  obtain ⟨before, after, heq, -⟩ := List.lookup_eq_some_iff.1 h
  refine ⟨before, after, heq, ?_⟩
  rw [heq, List.map_append, List.map_cons, List.nodup_middle, List.nodup_cons,
    List.mem_append, not_or] at ha
  obtain ⟨⟨hbefore, hafter⟩, -⟩ := ha
  have hother : ∀ blocks : List (String × Layout), name ∉ blocks.map (·.1) →
      blocks.filter (·.1 != name) = blocks := by
    intro blocks hblocks
    refine List.filter_eq_self.2 fun block hblock => bne_iff_ne.2 ?_
    exact fun hname => hblocks (hname ▸ List.mem_map_of_mem hblock)
  rw [without, heq, List.filter_append, List.filter_cons_of_neg (by simp), hother before hbefore,
    hother after hafter]

/-- One block less. -/
theorem length_without {a : Allocator} (ha : (a.blocks.map (·.1)).Nodup) {name : String}
    {layout : Layout} (h : a.block? name = some layout) :
    (a.without name).length + 1 = a.blocks.length := by
  obtain ⟨before, after, heq, hwithout⟩ := split ha h
  rw [heq, hwithout, List.length_append, List.length_append, List.length_cons, Nat.add_assoc]

/-- The bytes of one block less. -/
theorem liveSize_without {a : Allocator} (ha : (a.blocks.map (·.1)).Nodup) {name : String}
    {layout : Layout} (h : a.block? name = some layout) (counters : Counters) :
    (⟨counters, a.without name⟩ : Allocator).liveSize + layout.size.toNat = a.liveSize := by
  obtain ⟨before, after, heq, hwithout⟩ := split ha h
  simp only [liveSize, heq, hwithout, List.map_append, List.map_cons, List.sum_append,
    List.sum_cons]
  omega

/-- **The counters know how many bytes live**, and each live block has a name of its own. -/
structure Exact (a : Allocator) : Prop where
  /-- No name is that of two blocks. -/
  nodup : (a.blocks.map (·.1)).Nodup
  /-- The live bytes are those of the live blocks. -/
  liveBytes : a.counters.liveBytes.toInt = a.liveSize
  /-- The totals of bytes differ by the live bytes. -/
  balanced : a.counters.Balanced

namespace Exact

variable {a : Allocator}

/-- A new block comes with its bytes. -/
theorem insert (ha : a.Exact) {name : String} (hname : a.block? name = none) {layout : Layout}
    (hfits : a.liveSize + layout.size.toNat < 2 ^ 63) :
    (⟨a.counters.recordAlloc layout.size, (name, layout) :: a.blocks⟩ : Allocator).Exact := by
  constructor
  · exact List.nodup_cons.2 ⟨fun h => block?_ne_none h hname, ha.nodup⟩
  · have hlive := ha.liveBytes
    rw [Counters.liveBytes_recordAlloc, toInt_add_size (by omega) (by omega), hlive]
    simp only [liveSize, List.map_cons, List.sum_cons]
    omega
  · exact ha.balanced.recordAlloc _

/-- A block that is gone leaves the bytes of the others. -/
theorem remove (ha : a.Exact) {name : String} {layout : Layout}
    (h : a.block? name = some layout) :
    (⟨a.counters.recordFree layout.size, a.without name⟩ : Allocator).Exact := by
  have hlive := ha.liveBytes
  have hsize := liveSize_without ha.nodup h (a.counters.recordFree layout.size)
  constructor
  · exact ha.nodup.sublist (List.filter_sublist.map _)
  · rw [Counters.liveBytes_recordFree, toInt_sub_size (by omega), hlive]
    omega
  · exact ha.balanced.recordFree _

end Exact

end Allocator

/-! ### Ledgers -/

/-- **What the counters say after some calls.** -/
structure Ledger (calls : List Call) (a : Allocator) : Prop where
  /-- The calls lead here. -/
  run : Allocator.run calls = .ok a
  /-- The live blocks are those that the calls tell of. -/
  block?_eq : ∀ name, a.block? name = layoutAfter calls name
  /-- The live bytes are those of the live blocks. -/
  exact : a.Exact
  /-- Every successful allocation is counted. -/
  totalAllocs : a.counters.totalAllocs.toNat = calls.countP Call.allocates
  /-- Every release is counted. -/
  totalFrees : a.counters.totalFrees.toNat = calls.countP Call.frees
  /-- What has been allocated is live or has been released. -/
  blocks : calls.countP Call.allocates = calls.countP Call.frees + a.blocks.length
  /-- The peak is the most that the live bytes have been. -/
  peak : IsGreatest (liveValues calls) a.counters.peakLiveBytes.toInt

theorem ledger_nil : Ledger [] {} where
  run := rfl
  block?_eq _ := rfl
  exact := ⟨List.nodup_nil, rfl, rfl⟩
  totalAllocs := rfl
  totalFrees := rfl
  blocks := rfl
  peak := by
    refine ⟨⟨[], {}, List.prefix_rfl, rfl, rfl⟩, ?_⟩
    rintro live ⟨before, a, hbefore, hrun, rfl⟩
    obtain rfl := List.prefix_nil.1 hbefore
    cases hrun
    rfl

/-- One more of fewer than `2 ^ 64` is counted without wrapping. -/
theorem toNat_add_one {total : UInt64} (h : total.toNat + 1 < UInt64.size) :
    (total + 1).toNat = total.toNat + 1 := by
  rw [UInt64.toNat_add]
  exact Nat.mod_eq_of_lt h

namespace Ledger

variable {calls : List Call} {a b : Allocator} {c : Call}

theorem liveBytes_le_peak (ha : Ledger calls a) :
    a.counters.liveBytes.toInt ≤ a.counters.peakLiveBytes.toInt :=
  ha.peak.2 ⟨calls, a, List.prefix_rfl, ha.run, rfl⟩

theorem totalAllocs_le (ha : Ledger calls a) : a.counters.totalAllocs.toNat ≤ calls.length :=
  ha.totalAllocs ▸ List.countP_le_length

theorem totalFrees_le (ha : Ledger calls a) : a.counters.totalFrees.toNat ≤ calls.length :=
  ha.totalFrees ▸ List.countP_le_length

/-- The peak after one more call, if it is the greater one of the peak before and of the
live bytes now. -/
theorem peak_concat (ha : Ledger calls a) (hrun : Allocator.run (calls ++ [c]) = .ok b)
    (h : b.counters.peakLiveBytes.toInt =
      max b.counters.liveBytes.toInt a.counters.peakLiveBytes.toInt) :
    IsGreatest (liveValues (calls ++ [c])) b.counters.peakLiveBytes.toInt := by
  rw [liveValues_concat hrun, h]
  exact ha.peak.insert _

/-- **A call that is not granted** changes nothing. -/
theorem refused (ha : Ledger calls a) (hrun : Allocator.run (calls ++ [c]) = .ok a)
    (hallocates : c.allocates = false) (hfrees : c.frees = false)
    (hlayout : ∀ name before, c.layoutAfter name before = before) :
    Ledger (calls ++ [c]) a where
  run := hrun
  block?_eq name := by rw [layoutAfter_concat, hlayout, ha.block?_eq]
  exact := ha.exact
  totalAllocs := by simp [hallocates, ha.totalAllocs]
  totalFrees := by simp [hfrees, ha.totalFrees]
  blocks := by simp [hallocates, hfrees, ha.blocks]
  peak := ha.peak_concat hrun (max_eq_right ha.liveBytes_le_peak).symm

/-- **An allocation that is granted** makes a block. -/
theorem alloc (ha : Ledger calls a) {name : String} {layout : Layout}
    (hrun : Allocator.run (calls ++ [c]) =
      .ok ⟨a.counters.recordAlloc layout.size, (name, layout) :: a.blocks⟩)
    (hallocates : c.allocates = true) (hfrees : c.frees = false)
    (hlayout : ∀ m before, c.layoutAfter m before = if name = m then some layout else before)
    (hname : a.block? name = none) (hcount : calls.length + 1 < UInt64.size)
    (hfits : a.liveSize + layout.size.toNat < 2 ^ 63) :
    Ledger (calls ++ [c])
      ⟨a.counters.recordAlloc layout.size, (name, layout) :: a.blocks⟩ where
  run := hrun
  block?_eq m := by
    rw [layoutAfter_concat, hlayout, Allocator.block?_cons, ← ha.block?_eq]
    simp only [eq_comm]
    rfl
  exact := ha.exact.insert hname hfits
  totalAllocs := by
    have hle := ha.totalAllocs_le
    rw [Counters.totalAllocs_recordAlloc, toNat_add_one (by omega), ha.totalAllocs]
    simp [hallocates]
  totalFrees := by simp [hfrees, ha.totalFrees]
  blocks := by simp [hallocates, hfrees, ha.blocks, Nat.add_assoc]
  peak := ha.peak_concat hrun (Counters.toInt_peakLiveBytes_recordAlloc _ _)

/-- **A change of size that is granted** is a release and an allocation. -/
theorem realloc (ha : Ledger calls a) {name : String} {layout : Layout} {size : UInt64}
    (hrun : Allocator.run (calls ++ [c]) =
      .ok ⟨(a.counters.recordFree layout.size).recordAlloc size,
        (name, { layout with size := size }) :: a.without name⟩)
    (hallocates : c.allocates = true) (hfrees : c.frees = true)
    (hlayout : ∀ m before, c.layoutAfter m before =
      if name = m then before.map fun layout => { layout with size := size } else before)
    (hname : a.block? name = some layout) (hcount : calls.length + 1 < UInt64.size)
    (hfits : (⟨a.counters.recordFree layout.size, a.without name⟩ : Allocator).liveSize +
      size.toNat < 2 ^ 63) :
    Ledger (calls ++ [c])
      ⟨(a.counters.recordFree layout.size).recordAlloc size,
        (name, { layout with size := size }) :: a.without name⟩ where
  run := hrun
  block?_eq m := by
    rw [layoutAfter_concat, hlayout, Allocator.block?_cons, Allocator.block?_without,
      ← ha.block?_eq]
    by_cases hm : m = name
    · simp [hm, hname]
    · simp [hm, Ne.symm hm]
  exact := by
    have hremoved := ha.exact.remove hname
    have hnone : (⟨a.counters.recordFree layout.size, a.without name⟩ : Allocator).block? name =
        none := by
      simp [Allocator.block?_without]
    exact @Allocator.Exact.insert _ hremoved name hnone { layout with size := size } hfits
  totalAllocs := by
    have hle := ha.totalAllocs_le
    rw [Counters.totalAllocs_recordAlloc, Counters.totalAllocs_recordFree,
      toNat_add_one (by omega), ha.totalAllocs]
    simp [hallocates]
  totalFrees := by
    have hle := ha.totalFrees_le
    rw [Counters.totalFrees_recordAlloc, Counters.totalFrees_recordFree,
      toNat_add_one (by omega), ha.totalFrees]
    simp [hfrees]
  blocks := by
    have hlength := Allocator.length_without ha.exact.nodup hname
    have hblocks := ha.blocks
    simp only [List.countP_append, List.countP_singleton, hallocates, hfrees, if_true,
      List.length_cons]
    omega
  peak := by
    refine ha.peak_concat hrun ?_
    rw [Counters.toInt_peakLiveBytes_recordAlloc, Counters.peakLiveBytes_recordFree]

/-- **A release** takes a block away. -/
theorem dealloc (ha : Ledger calls a) {name : String} {layout : Layout}
    (hrun : Allocator.run (calls ++ [c]) =
      .ok ⟨a.counters.recordFree layout.size, a.without name⟩)
    (hallocates : c.allocates = false) (hfrees : c.frees = true)
    (hlayout : ∀ m before, c.layoutAfter m before = if name = m then none else before)
    (hname : a.block? name = some layout) (hcount : calls.length + 1 < UInt64.size) :
    Ledger (calls ++ [c]) ⟨a.counters.recordFree layout.size, a.without name⟩ where
  run := hrun
  block?_eq m := by
    rw [layoutAfter_concat, hlayout, Allocator.block?_without, ← ha.block?_eq]
    simp only [eq_comm]
  exact := ha.exact.remove hname
  totalAllocs := by simp [hallocates, ha.totalAllocs]
  totalFrees := by
    have hle := ha.totalFrees_le
    rw [Counters.totalFrees_recordFree, toNat_add_one (by omega), ha.totalFrees]
    simp [hfrees]
  blocks := by
    have hlength := Allocator.length_without ha.exact.nodup hname
    have hblocks := ha.blocks
    simp only [List.countP_append, List.countP_singleton, hallocates, hfrees, if_true,
      Bool.false_eq_true, if_false]
    omega
  peak := by
    refine ha.peak_concat hrun (max_eq_right ?_).symm
    -- the live bytes go down, and the peak was at least what they were
    have hlive := (ha.exact.remove hname).liveBytes
    have hbefore := ha.exact.liveBytes
    have hsize := Allocator.liveSize_without ha.exact.nodup hname
      (a.counters.recordFree layout.size)
    have hle := ha.liveBytes_le_peak
    show _ ≤ a.counters.peakLiveBytes.toInt
    rw [hlive]
    omega

/-- **A legal call is carried out**, and the ledger goes on. -/
theorem step (ha : Ledger calls a) (hlegal : c.request.IsLegal (layoutAfter calls))
    (hcount : calls.length + 1 < UInt64.size)
    (hfits : ∀ b, Allocator.run (calls ++ [c]) = .ok b → b.liveSize < 2 ^ 63) :
    ∃ b, Ledger (calls ++ [c]) b := by
  obtain ⟨request, granted⟩ := c
  have hrun := Allocator.run_concat ha.run ⟨request, granted⟩
  have hnew : ∀ name layout, request = .alloc name layout ∨ request = .allocZeroed name layout →
      a.block? name = none → layout.size ≠ 0 → layout.isPossible = true →
      a.perform granted request = if granted then
        .ok (true, ⟨a.counters.recordAlloc layout.size, (name, layout) :: a.blocks⟩)
        else .ok (false, a) := by
    rintro name layout (rfl | rfl) hname hsize hpossible <;>
      simp [Allocator.perform, Allocator.allocate, hname, hsize, hpossible]
  cases request with
  | alloc name layout | allocZeroed name layout =>
    obtain ⟨hname, hsize, hpossible⟩ := hlegal
    rw [← ha.block?_eq] at hname
    rw [hnew name layout (by simp) hname hsize hpossible] at hrun
    cases granted with
    | false => exact ⟨a, ha.refused hrun rfl rfl fun _ _ => rfl⟩
    | true =>
      refine ⟨_, ha.alloc hrun rfl rfl (fun _ _ => rfl) hname hcount ?_⟩
      have := hfits _ hrun
      simp only [Allocator.liveSize, List.map_cons, List.sum_cons] at this ⊢
      omega
  | realloc name size =>
    obtain ⟨layout, hname, hsize, hpossible⟩ := hlegal
    rw [← ha.block?_eq] at hname
    simp only [Allocator.perform, hname, hpossible, hsize, Bool.not_true, Bool.false_eq_true,
      if_false] at hrun
    cases granted with
    | false => exact ⟨a, ha.refused hrun rfl rfl fun _ _ => rfl⟩
    | true =>
      refine ⟨_, ha.realloc hrun rfl rfl (fun _ _ => rfl) hname hcount ?_⟩
      have := hfits _ hrun
      simp only [Allocator.liveSize, List.map_cons, List.sum_cons] at this ⊢
      omega
  | dealloc name =>
    obtain ⟨layout, hname⟩ := hlegal
    rw [← ha.block?_eq] at hname
    simp only [Allocator.perform, hname] at hrun
    exact ⟨_, ha.dealloc hrun (by cases granted <;> rfl) (by cases granted <;> rfl)
      (fun _ _ => by cases granted <;> rfl) hname hcount⟩

end Ledger

/-- **So is a legal run.** -/
theorem ledger_run {calls : List Call} (hlegal : IsLegalRun calls)
    (hcount : calls.length < UInt64.size) (hfits : Fits calls) : ∃ a, Ledger calls a := by
  induction calls using List.reverseRecOn with
  | nil => exact ⟨{}, ledger_nil⟩
  | append_singleton calls c ih =>
    obtain ⟨hlegal, hc⟩ := isLegalRun_concat.1 hlegal
    obtain ⟨hfits, hlast⟩ := fits_concat.1 hfits
    rw [List.length_append, List.length_singleton] at hcount
    obtain ⟨a, ha⟩ := ih hlegal (by omega) hfits
    exact ha.step hc hcount hlast

/-! ### Accounts -/

/-- **The counters are exact**: what they say after some calls, in terms of the calls and
of the live blocks. -/
structure Accounts (calls : List Call) (a : Allocator) : Prop where
  /-- The live blocks are those that the calls tell of, with their latest sizes. -/
  block?_eq : ∀ name, a.block? name = layoutAfter calls name
  /-- Each live block has a name of its own. -/
  nodup : (a.blocks.map (·.1)).Nodup
  /-- The live bytes are those of the live blocks. -/
  liveBytes : a.counters.liveBytes.toInt = a.liveSize
  /-- The live allocations are the live blocks. -/
  liveAllocs : a.counters.liveAllocs = a.blocks.length
  /-- Every successful allocation is counted. -/
  totalAllocs : a.counters.totalAllocs.toNat = calls.countP Call.allocates
  /-- Every release is counted. -/
  totalFrees : a.counters.totalFrees.toNat = calls.countP Call.frees
  /-- The totals of bytes differ by the live bytes, as words. -/
  totalBytes : a.counters.totalAllocBytes - a.counters.totalFreeBytes =
    a.counters.liveBytes.toUInt64
  /-- The peak is the most that the live bytes have been. -/
  peak : IsGreatest (liveValues calls) a.counters.peakLiveBytes.toInt
  /-- The live bytes are not negative, and at most the peak. -/
  bounds : 0 ≤ a.counters.liveBytes.toInt ∧
    a.counters.liveBytes.toInt ≤ a.counters.peakLiveBytes.toInt
  /-- The counters are in use from the first successful allocation on. -/
  isTracking : a.counters.isTracking = true ↔ ∃ c ∈ calls, c.allocates = true

theorem Ledger.accounts {calls : List Call} {a : Allocator} (ha : Ledger calls a) :
    Accounts calls a where
  block?_eq := ha.block?_eq
  nodup := ha.exact.nodup
  liveBytes := ha.exact.liveBytes
  liveAllocs := by
    rw [Counters.liveAllocs, ha.totalAllocs, ha.totalFrees, ha.blocks, Nat.add_sub_cancel_left]
  totalAllocs := ha.totalAllocs
  totalFrees := ha.totalFrees
  totalBytes := ha.exact.balanced
  peak := ha.peak
  bounds := ⟨by rw [ha.exact.liveBytes]; exact Int.natCast_nonneg _, ha.liveBytes_le_peak⟩
  isTracking := by
    rw [← List.countP_pos_iff, ← ha.totalAllocs, Counters.isTracking, decide_eq_true_iff,
      UInt64.lt_iff_toNat_lt]
    rfl

/-- **Heap accounting is exact over whole runs**: legal calls are carried out, whichever of
them the system grants, and the counters are exact at every moment. -/
theorem accounts_run {calls : List Call} (hlegal : IsLegalRun calls)
    (hcount : calls.length < UInt64.size) (hfits : Fits calls) :
    ∀ before, before <+: calls → ∃ a, Allocator.run before = .ok a ∧ Accounts before a := by
  intro before hbefore
  have hlength := hbefore.length_le
  obtain ⟨a, ha⟩ := ledger_run (fun first c hfirst => hlegal first c (hfirst.trans hbefore))
    (by omega) fun first b hfirst => hfits first b (hfirst.trans hbefore)
  exact ⟨a, ha.run, ha.accounts⟩

/-- A block is made, its growth fails and then succeeds, and it is released. -/
def growth : List Call := [
  ⟨.alloc "b" ⟨16, 8⟩, true⟩, ⟨.realloc "b" 64, false⟩, ⟨.realloc "b" 64, true⟩,
  ⟨.dealloc "b", true⟩]

theorem accounts_run_growth :
    IsLegalRun growth ∧ growth.length < UInt64.size ∧ Fits growth ∧
      ∃ a, Allocator.run growth = .ok a ∧ a.counters.peakLiveBytes = 64 ∧ Accounts growth a := by
  have hgrowth : growth = [] ++ [⟨.alloc "b" ⟨16, 8⟩, true⟩] ++ [⟨.realloc "b" 64, false⟩] ++
      [⟨.realloc "b" 64, true⟩] ++ [⟨.dealloc "b", true⟩] := rfl
  have hlegal : IsLegalRun growth := by
    rw [hgrowth, isLegalRun_concat, isLegalRun_concat, isLegalRun_concat, isLegalRun_concat]
    exact ⟨⟨⟨⟨isLegalRun_nil, rfl, by decide, by decide⟩, ⟨16, 8⟩, by decide, by decide, by decide⟩,
      ⟨16, 8⟩, by decide, by decide, by decide⟩, ⟨64, 8⟩, by decide⟩
  have hfits : Fits growth := by
    rw [hgrowth, fits_concat, fits_concat, fits_concat, fits_concat]
    refine ⟨⟨⟨⟨fits_nil, ?_⟩, ?_⟩, ?_⟩, ?_⟩ <;> intro b hrun <;> cases hrun <;> decide
  obtain ⟨a, hrun, haccounts⟩ := accounts_run hlegal (by decide) hfits growth List.prefix_rfl
  refine ⟨hlegal, by decide, hfits, a, hrun, ?_, haccounts⟩
  cases hrun
  rfl

end ProfilingTargets.Heap
