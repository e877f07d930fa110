import Mathlib
import ProfilingTargets.Proofs.Heap.Counters
import ProfilingTargets.Proofs.Heap.Machine

/-!
# No update is lost

What the counters say when the calls of several threads are interleaved, step by step.

A total lacks what calls under way have still to add to it. The live bytes are the sizes of
the live blocks, and what calls under way have among them: a block that is being released is
live until its size has been taken off, and one that is being made from when its size has
been added. The peak is behind: whoever has added to the live bytes raises it later, to a
value that may not be the most by then. But no value of the live bytes exceeds the peak and
all that it has still to be raised to, and each of these has been a value of the live bytes.

## What is proved

* `Machine.Accounted.step`, `Machine.accounted_run`: the totals and the live bytes, after
  every move of every schedule.
* `Machine.Peaked.step`, `Machine.peaked_run`: the peak and what it is to be raised to.
* `Machine.interleaved_run`: the live bytes are never negative, and when all calls have
  returned, the totals are sums over the operations, the live bytes are those of the live
  blocks, and the peak is the most that the live bytes have been; and but for the peak, none
  of this depends on the schedule.
-/

namespace ProfilingTargets.Heap

/-! ### Sizes -/

/-- The sizes of some blocks, summed up. -/
def totalSize (blocks : List (String × Layout)) : Nat :=
  (blocks.map fun block => block.2.size.toNat).sum

@[simp] theorem totalSize_nil : totalSize [] = 0 := rfl

@[simp] theorem totalSize_cons (block : String × Layout) (blocks : List (String × Layout)) :
    totalSize (block :: blocks) = block.2.size.toNat + totalSize blocks := by
  simp [totalSize]

@[simp] theorem totalSize_append (blocks more : List (String × Layout)) :
    totalSize (blocks ++ more) = totalSize blocks + totalSize more := by
  simp [totalSize]

theorem totalSize_of_perm {blocks more : List (String × Layout)} (h : blocks.Perm more) :
    totalSize blocks = totalSize more := (h.map _).sum_eq

/-! ### What steps do -/

/-- The totals. -/
inductive Total where
  /-- Of allocations. -/
  | allocs
  /-- Of releases. -/
  | frees
  /-- Of bytes allocated. -/
  | allocBytes
  /-- Of bytes released. -/
  | freeBytes

/-- A total's counter. -/
def Counters.total (c : Counters) : Total → UInt64
  | .allocs => c.totalAllocs
  | .frees => c.totalFrees
  | .allocBytes => c.totalAllocBytes
  | .freeBytes => c.totalFreeBytes

namespace Step

/-- What a step adds to a total. -/
def amount : Total → Step → Nat
  | .allocs, .countAlloc => 1
  | .frees, .countFree => 1
  | .allocBytes, .addAllocBytes size => size.toNat
  | .freeBytes, .addFreeBytes size => size.toNat
  | _, _ => 0

/-- What a step adds to the live bytes. -/
def added : Step → Nat
  | .addLive size => size.toNat
  | _ => 0

/-- What a step takes off the live bytes. -/
def subtracted : Step → Nat
  | .subtractLive size => size.toNat
  | _ => 0

/-- What a step raises the peak to. -/
def peak? : Step → Option Int
  | .raisePeak live => some live.toInt
  | _ => none

end Step

/-- A step adds to the totals, which wrap. -/
theorem toNat_total_apply (c : Counters) (step : Step) (total : Total) :
    ((c.apply step).total total).toNat ≡ (c.total total).toNat + step.amount total
      [MOD UInt64.size] := by
  have hadd : ∀ word size : UInt64, (word + size).toNat ≡ word.toNat + size.toNat
      [MOD UInt64.size] := by
    intro word size
    rw [UInt64.toNat_add]
    exact Nat.mod_modEq _ _
  cases total <;> cases step
  case allocs.countAlloc => exact hadd _ 1
  case frees.countFree => exact hadd _ 1
  case allocBytes.addAllocBytes size => exact hadd _ size
  case freeBytes.addFreeBytes size => exact hadd _ size
  all_goals rfl

/-- A step adds to the live bytes and takes off them as numbers, if there is room. -/
theorem toInt_liveBytes_apply {c : Counters} {step : Step} {live : Nat}
    (hlive : c.liveBytes.toInt = live) (hadd : live + step.added < 2 ^ 63)
    (hsub : step.subtracted ≤ live) :
    (c.apply step).liveBytes.toInt = live + step.added - step.subtracted := by
  cases step with
  | addLive size =>
    have hsum := @toInt_add_size c.liveBytes size (by omega) (by rw [hlive]; exact_mod_cast hadd)
    simpa [Counters.apply, Step.added, Step.subtracted, hlive] using hsum
  | subtractLive size =>
    have hdiff := @toInt_sub_size c.liveBytes size (by rw [hlive]; exact_mod_cast hsub)
    simpa [Counters.apply, Step.added, Step.subtracted, hlive] using hdiff
  | countAlloc | addAllocBytes | raisePeak | countFree | addFreeBytes =>
    simpa [Counters.apply, Step.added, Step.subtracted] using hlive

/-- Raising the peak is nothing more to count. -/
theorem sum_followedBy (measure : Step → Nat) (h : ∀ live, measure (.raisePeak live) = 0)
    (step : Step) (c : Counters) (rest : List Step) :
    ((step.followedBy c ++ rest).map measure).sum = (rest.map measure).sum := by
  cases step with
  | addLive => simp [Step.followedBy, h]
  | _ => rfl

/-! ### What calls do -/

namespace Operation

/-- The size of the block that an operation releases, if there is one. -/
def takenSize (o : Operation) : Nat := totalSize o.takes.toList

/-- The size of the block that an operation returns, if there is one. -/
def leftSize (o : Operation) : Nat := totalSize o.leaves.toList

/-- What an operation adds to a total. -/
def amount (total : Total) (o : Operation) : Nat := (o.steps.map (Step.amount total)).sum

variable (o : Operation)

theorem amount_allocs : o.amount .allocs = if o.leaves.isSome then 1 else 0 := by
  rcases o with ⟨_ | _, _ | _⟩ <;> rfl

theorem amount_frees : o.amount .frees = if o.takes.isSome then 1 else 0 := by
  rcases o with ⟨_ | _, _ | _⟩ <;> rfl

theorem amount_allocBytes : o.amount .allocBytes = o.leftSize := by
  rcases o with ⟨_ | _, _ | _⟩ <;>
    simp [amount, steps, allocSteps, freeSteps, Step.amount, leftSize]

theorem amount_freeBytes : o.amount .freeBytes = o.takenSize := by
  rcases o with ⟨_ | _, _ | _⟩ <;>
    simp [amount, steps, allocSteps, freeSteps, Step.amount, takenSize]

theorem sum_added : (o.steps.map Step.added).sum = o.leftSize := by
  rcases o with ⟨_ | _, _ | _⟩ <;> simp [steps, allocSteps, freeSteps, Step.added, leftSize]

theorem sum_subtracted : (o.steps.map Step.subtracted).sum = o.takenSize := by
  rcases o with ⟨_ | _, _ | _⟩ <;> simp [steps, allocSteps, freeSteps, Step.subtracted, takenSize]

/-- No call knows beforehand what it will raise the peak to. -/
theorem peaks_steps : o.steps.filterMap Step.peak? = [] := by
  rcases o with ⟨_ | _, _ | _⟩ <;> rfl

end Operation

/-- What is one for some operations and none for the others counts those. -/
theorem sum_map_eq_countP {measure : Operation → Nat} {p : Operation → Bool}
    (h : ∀ o, measure o = if p o then 1 else 0) (begun : List Operation) :
    (begun.map measure).sum = begun.countP p := by
  induction begun with
  | nil => rfl
  | cons o rest ih => rw [List.map_cons, List.sum_cons, ih, h, List.countP_cons, Nat.add_comm]

namespace Flight

variable (f : Flight)

/-- What a call has still to add to the live bytes. -/
def toAdd : Nat := (f.steps.map Step.added).sum

/-- What a call has still to take off the live bytes. -/
def toSubtract : Nat := (f.steps.map Step.subtracted).sum

/-- **What of its sizes a call has among the live bytes**: that of the block that it leaves
once it has been added, and that of the block that it takes until it has been taken off. -/
def counted : Nat := f.operation.leftSize - f.toAdd + f.toSubtract

/-- What a call has still to add to a total. -/
def toCount (total : Total) (f : Flight) : Nat := (f.steps.map (Step.amount total)).sum

/-- The size of the block that a call will leave. -/
def leftSize (f : Flight) : Nat := f.operation.leftSize

end Flight

/-- What some calls under way come to. -/
def inFlight (measure : Flight → Nat) (flights : List (Nat × Flight)) : Nat :=
  (flights.map fun call => measure call.2).sum

section

variable {measure : Flight → Nat} {flights others : List (Nat × Flight)}

@[simp] theorem inFlight_nil : inFlight measure [] = 0 := rfl

@[simp] theorem inFlight_cons (call : Nat × Flight) :
    inFlight measure (call :: flights) = measure call.2 + inFlight measure flights := by
  simp [inFlight]

theorem inFlight_of_perm (h : flights.Perm others) :
    inFlight measure flights = inFlight measure others := (h.map _).sum_eq

end

namespace Machine

/-! ### What counters keep -/

/-- What the live bytes are. -/
def live (m : Machine) : Int := m.allocator.counters.liveBytes.toInt

/-- What the peak is. -/
def peak (m : Machine) : Int := m.allocator.counters.peakLiveBytes.toInt

/-- **The sizes that are live**: those of the live blocks, and what calls under way have
among the live bytes. -/
def liveSize (m : Machine) : Nat := totalSize m.allocator.blocks + inFlight Flight.counted m.flights

/-- **The counters and the calls under way** account for the operations begun. -/
structure Accounted (m : Machine) (begun : List Operation) : Prop where
  /-- Threads and names are apart. -/
  distinct : m.Distinct
  /-- No call adds more than the size of its block. -/
  toAdd_le : ∀ call ∈ m.flights, call.2.toAdd ≤ call.2.operation.leftSize
  /-- The live bytes are the sizes that are live. -/
  live : m.live = m.liveSize
  /-- Each total, with what is still to be added to it, is what the operations come to. -/
  totals : ∀ total, (m.allocator.counters.total total).toNat +
    inFlight (Flight.toCount total) m.flights ≡ (begun.map (Operation.amount total)).sum
      [MOD UInt64.size]
  /-- What the operations leave, they have released or it is there or to be returned. -/
  sizes : (begun.map Operation.leftSize).sum = (begun.map Operation.takenSize).sum +
    totalSize m.allocator.blocks + inFlight Flight.leftSize m.flights

theorem accounted_nil : Accounted {} [] where
  distinct := ⟨List.nodup_nil, List.nodup_nil⟩
  toAdd_le := by simp
  live := rfl
  totals total := by cases total <;> rfl
  sizes := rfl

namespace Accounted

variable {m : Machine} {begun : List Operation}

/-- **A call begins**: its block is no longer live and its size still is. -/
theorem afterCall (h : Accounted m begun) {thread : Nat} {o : Operation}
    {blocks : List (String × Layout)}
    (taken : m.allocator.blocks.Perm (o.takes.toList ++ blocks))
    (hdistinct : (m.afterCall thread o blocks).Distinct) :
    Accounted (m.afterCall thread o blocks) (begun ++ [o]) := by
  have htaken : totalSize m.allocator.blocks = o.takenSize + totalSize blocks := by
    rw [totalSize_of_perm taken, totalSize_append]
    rfl
  have hadd : (Flight.mk o o.steps).toAdd = o.leftSize := o.sum_added
  have hsubtract : (Flight.mk o o.steps).toSubtract = o.takenSize := o.sum_subtracted
  constructor
  case distinct => exact hdistinct
  case toAdd_le =>
    intro call hcall
    rcases List.mem_cons.1 hcall with rfl | hcall
    · exact hadd.le
    · exact h.toAdd_le call hcall
  case live =>
    have hcounted : (Flight.mk o o.steps).counted = o.takenSize := by
      rw [Flight.counted, hadd, hsubtract, Nat.sub_self, Nat.zero_add]
    have hsize : (m.afterCall thread o blocks).liveSize = m.liveSize := by
      simp only [liveSize, blocks_afterCall, flights_afterCall, inFlight_cons, hcounted, htaken]
      omega
    rw [hsize]
    exact h.live
  case totals =>
    intro total
    have hcount : (Flight.mk o o.steps).toCount total = o.amount total := rfl
    have htotal := (h.totals total).add_right (o.amount total)
    rw [Nat.add_assoc, Nat.add_comm (inFlight _ _)] at htotal
    simpa [hcount] using htotal
  case sizes =>
    have hsizes := h.sizes
    have hleft : (Flight.mk o o.steps).leftSize = o.leftSize := rfl
    simp only [List.map_append, List.sum_append, List.map_singleton, List.sum_singleton,
      blocks_afterCall, flights_afterCall, inFlight_cons, hleft]
    omega

section

variable {thread : Nat} {o : Operation} {step : Step} {rest : List Step}
  {others : List (Nat × Flight)} (here : m.flights.Perm ((thread, ⟨o, step :: rest⟩) :: others))

include here

/-- A step takes off no more than is live, and the sizes that are live change with it. -/
theorem liveSize_afterStep (h : Accounted m begun) :
    step.subtracted ≤ m.liveSize ∧
      (m.afterStep thread o step rest others).liveSize + step.subtracted =
        m.liveSize + step.added := by
  have hle : step.added + (rest.map Step.added).sum ≤ o.leftSize := by
    have hmem := h.toAdd_le _ (here.mem_iff.2 List.mem_cons_self)
    simpa [Flight.toAdd] using hmem
  have hadd := sum_followedBy Step.added (fun _ => rfl) step
    (m.allocator.counters.apply step) rest
  have hsubtract := sum_followedBy Step.subtracted (fun _ => rfl) step
    (m.allocator.counters.apply step) rest
  simp only [liveSize, blocks_afterStep, flights_afterStep, inFlight_of_perm here, inFlight_cons,
    Flight.counted, Flight.toAdd, Flight.toSubtract, hadd, hsubtract, List.map_cons,
    List.sum_cons]
  omega

/-- The live bytes change with a step as numbers do. -/
theorem live_afterStep (h : Accounted m begun)
    (hfits : (m.afterStep thread o step rest others).liveSize < 2 ^ 63) :
    (m.afterStep thread o step rest others).live =
      m.live + step.added - step.subtracted := by
  obtain ⟨hsub, hsize⟩ := h.liveSize_afterStep here
  have hbound : m.liveSize + step.added < 2 ^ 63 := by
    cases step with
    | subtractLive size =>
      have hlt : m.live < 2 ^ 63 := Int64.toInt_lt m.allocator.counters.liveBytes
      rw [h.live] at hlt
      simp only [Step.added]
      omega
    | _ =>
      simp only [Step.subtracted] at hsize
      omega
  rw [h.live]
  exact toInt_liveBytes_apply h.live hbound hsub

/-- **A call makes a step**, which changes counters by as much as the call has less to do. -/
theorem afterStep (h : Accounted m begun)
    (hdistinct : (m.afterStep thread o step rest others).Distinct)
    (hfits : (m.afterStep thread o step rest others).liveSize < 2 ^ 63) :
    Accounted (m.afterStep thread o step rest others) begun := by
  have hadd := sum_followedBy Step.added (fun _ => rfl) step
    (m.allocator.counters.apply step) rest
  constructor
  case distinct => exact hdistinct
  case toAdd_le =>
    intro call hcall
    rcases List.mem_cons.1 hcall with rfl | hcall
    · have hbefore := h.toAdd_le _ (here.mem_iff.2 List.mem_cons_self)
      simp only [Flight.toAdd, hadd, List.map_cons, List.sum_cons] at hbefore ⊢
      omega
    · exact h.toAdd_le call (here.mem_iff.2 (List.mem_cons_of_mem _ hcall))
  case live =>
    obtain ⟨hsub, hsize⟩ := h.liveSize_afterStep here
    rw [h.live_afterStep here hfits, h.live]
    omega
  case totals =>
    intro total
    have hcount : (Flight.mk o (step.followedBy (m.allocator.counters.apply step) ++
        rest)).toCount total = (rest.map (Step.amount total)).sum :=
      sum_followedBy _ (fun _ => by cases total <;> rfl) step _ rest
    have hbefore : (Flight.mk o (step :: rest)).toCount total =
        step.amount total + (rest.map (Step.amount total)).sum := List.sum_cons
    have htotal := h.totals total
    have hstep := toNat_total_apply m.allocator.counters step total
    rw [inFlight_of_perm here, inFlight_cons, hbefore, Nat.add_assoc, ← Nat.add_assoc] at htotal
    rw [counters_afterStep, flights_afterStep, inFlight_cons, hcount]
    exact (hstep.add_right _).trans htotal
  case sizes =>
    have hsizes := h.sizes
    rw [inFlight_of_perm here, inFlight_cons] at hsizes
    exact hsizes

end

/-- **A call returns**, and its block is live. -/
theorem afterReturn (h : Accounted m begun) {thread : Nat} {o : Operation}
    {others : List (Nat × Flight)} (here : m.flights.Perm ((thread, ⟨o, []⟩) :: others))
    (hdistinct : (m.afterReturn o others).Distinct) : Accounted (m.afterReturn o others) begun := by
  have hleft : totalSize (m.afterReturn o others).allocator.blocks =
      o.leftSize + totalSize m.allocator.blocks := totalSize_append _ _
  constructor
  case distinct => exact hdistinct
  case toAdd_le =>
    intro call hcall
    exact h.toAdd_le call (here.mem_iff.2 (List.mem_cons_of_mem _ hcall))
  case live =>
    have hcounted : (Flight.mk o []).counted = o.leftSize := rfl
    have hsize : (m.afterReturn o others).liveSize = m.liveSize := by
      rw [liveSize, liveSize, hleft, flights_afterReturn, inFlight_of_perm here, inFlight_cons,
        hcounted]
      omega
    rw [hsize]
    exact h.live
  case totals =>
    intro total
    have hcount : (Flight.mk o []).toCount total = 0 := rfl
    have htotal := h.totals total
    rw [inFlight_of_perm here, inFlight_cons, hcount, Nat.zero_add] at htotal
    exact htotal
  case sizes =>
    have hsizes := h.sizes
    have hflight : (Flight.mk o []).leftSize = o.leftSize := rfl
    rw [inFlight_of_perm here, inFlight_cons, hflight] at hsizes
    rw [hleft, flights_afterReturn]
    omega

/-- **Every move keeps the account.** -/
theorem step (h : Accounted m begun) (move : Move) (hfits : (m.step move).liveSize < 2 ^ 63) :
    Accounted (m.step move) (begun ++ (m.begins? move).toList) := by
  have hdistinct := h.distinct.step move
  have hchange := h.distinct.change move
  revert hchange hdistinct hfits
  generalize m.step move = next
  generalize m.begins? move = begins
  intro hfits hdistinct hchange
  cases hchange with
  | same =>
    rw [Option.toList_none, List.append_nil]
    exact h
  | called thread o blocks taken => exact h.afterCall taken hdistinct
  | stepped thread o step rest others here =>
    rw [Option.toList_none, List.append_nil]
    exact h.afterStep here hdistinct hfits
  | returned thread o others here =>
    rw [Option.toList_none, List.append_nil]
    exact h.afterReturn here hdistinct

end Accounted

/-! ### Schedules -/

/-- The operations that begin in the course of some moves. -/
def operations (m : Machine) : List Move → List Operation
  | [] => []
  | move :: moves => (m.begins? move).toList ++ (m.step move).operations moves

theorem run_concat (m : Machine) (moves : List Move) (move : Move) :
    m.run (moves ++ [move]) = (m.run moves).step move := by
  simp only [run, List.foldl_append, List.foldl_cons, List.foldl_nil]

theorem operations_concat (m : Machine) (moves : List Move) (move : Move) :
    m.operations (moves ++ [move]) = m.operations moves ++ ((m.run moves).begins? move).toList := by
  induction moves generalizing m with
  | nil => simp only [List.nil_append, operations, List.append_nil, run, List.foldl_nil]
  | cons first rest ih =>
    rw [List.cons_append, operations, ih, operations, List.append_assoc]
    rfl

/-- Less than `2 ^ 63` bytes are live at every moment of a schedule: the sizes that have been
added to the live bytes and not yet taken off them. -/
def Fits (moves : List Move) : Prop :=
  ∀ before, before <+: moves → (run {} before).liveSize < 2 ^ 63

theorem fits_concat {moves : List Move} {move : Move} :
    Fits (moves ++ [move]) ↔
      Fits moves ∧ ((run {} moves).step move).liveSize < 2 ^ 63 := by
  rw [← run_concat]
  constructor
  · intro h
    exact ⟨fun before hbefore => h before (hbefore.trans (List.prefix_append _ _)),
      h _ List.prefix_rfl⟩
  · rintro ⟨hmoves, hlast⟩ before hbefore
    rcases List.prefix_concat_iff.1 hbefore with rfl | hbefore
    · exact hlast
    · exact hmoves before hbefore

/-- What the live bytes have been in the course of a schedule, before the first move and
after each. -/
def liveValues (moves : List Move) : Set Int :=
  { live | ∃ before, before <+: moves ∧ live = (run {} before).live }

theorem liveValues_concat (moves : List Move) (move : Move) :
    liveValues (moves ++ [move]) =
      insert ((run {} moves).step move).live (liveValues moves) := by
  rw [← run_concat]
  ext live
  constructor
  · rintro ⟨before, hbefore, rfl⟩
    rcases List.prefix_concat_iff.1 hbefore with rfl | hbefore
    · exact Set.mem_insert _ _
    · exact Set.mem_insert_of_mem _ ⟨before, hbefore, rfl⟩
  · rintro (rfl | ⟨before, hbefore, rfl⟩)
    · exact ⟨_, List.prefix_rfl, rfl⟩
    · exact ⟨before, hbefore.trans (List.prefix_append _ _), rfl⟩

/-- **So does every schedule.** -/
theorem accounted_run {moves : List Move} (hfits : Fits moves) :
    Accounted (run {} moves) (operations {} moves) := by
  induction moves using List.reverseRecOn with
  | nil => exact accounted_nil
  | append_singleton moves move ih =>
    obtain ⟨hmoves, hlast⟩ := fits_concat.1 hfits
    rw [run_concat, operations_concat]
    exact (ih hmoves).step move hlast

/-! ### The peak -/

/-- What the peak has still to be raised to by calls under way. -/
def raises (flights : List (Nat × Flight)) : List Int :=
  flights.flatMap fun call => call.2.steps.filterMap Step.peak?

@[simp] theorem raises_cons (thread : Nat) (o : Operation) (steps : List Step)
    (flights : List (Nat × Flight)) :
    raises ((thread, ⟨o, steps⟩) :: flights) = steps.filterMap Step.peak? ++ raises flights := rfl

theorem mem_raises_of_perm {flights others : List (Nat × Flight)} (h : flights.Perm others)
    (peak : Int) : peak ∈ raises flights ↔ peak ∈ raises others :=
  (h.flatMap_right _).mem_iff

/-- **The peak and what it has still to be raised to.** -/
def peaks (m : Machine) : List Int := m.peak :: raises m.flights

/-- **Every value that the live bytes have had is at most a peak**, and every peak is one. -/
structure Peaked (m : Machine) (seen : Set Int) : Prop where
  /-- The live bytes have the value that they have. -/
  now : m.live ∈ seen
  /-- Every value is at most a peak. -/
  bound : ∀ live ∈ seen, ∃ peak ∈ m.peaks, live ≤ peak
  /-- Every peak is a value. -/
  attained : ∀ peak ∈ m.peaks, peak ∈ seen

namespace Peaked

variable {m next : Machine} {seen : Set Int}

/-- Where peaks stay what they are, the live bytes may go down. -/
theorem of_peaks (h : Peaked m seen) (hpeaks : ∀ peak, peak ∈ next.peaks ↔ peak ∈ m.peaks)
    (hle : next.live ≤ m.live) :
    Peaked next (insert next.live seen) := by
  constructor
  case now => exact Set.mem_insert _ _
  case bound =>
    rintro live (rfl | hlive)
    · obtain ⟨peak, hpeak, hbound⟩ := h.bound _ h.now
      exact ⟨peak, (hpeaks peak).2 hpeak, hle.trans hbound⟩
    · obtain ⟨peak, hpeak, hbound⟩ := h.bound live hlive
      exact ⟨peak, (hpeaks peak).2 hpeak, hbound⟩
  case attained =>
    intro peak hpeak
    exact Set.mem_insert_of_mem _ (h.attained peak ((hpeaks peak).1 hpeak))

section

variable {thread : Nat} {o : Operation} {rest : List Step} {others : List (Nat × Flight)}

/-- Whoever adds to the live bytes is to raise the peak to what they are. -/
theorem addLive (h : Peaked m seen) {size : UInt64}
    (here : m.flights.Perm ((thread, ⟨o, .addLive size :: rest⟩) :: others)) :
    Peaked (m.afterStep thread o (.addLive size) rest others)
      (insert (m.afterStep thread o (.addLive size) rest others).live seen) := by
  have hafter : ∀ peak, peak ∈ (m.afterStep thread o (.addLive size) rest others).peaks ↔
      peak = (m.afterStep thread o (.addLive size) rest others).live ∨ peak ∈ m.peaks := by
    intro peak
    rw [peaks, peaks, List.mem_cons, List.mem_cons, mem_raises_of_perm here, or_left_comm]
    exact or_congr_right List.mem_cons
  constructor
  case now => exact Set.mem_insert _ _
  case bound =>
    rintro live (rfl | hlive)
    · exact ⟨_, (hafter _).2 (.inl rfl), le_rfl⟩
    · obtain ⟨peak, hpeak, hbound⟩ := h.bound live hlive
      exact ⟨peak, (hafter peak).2 (.inr hpeak), hbound⟩
  case attained =>
    intro peak hpeak
    rcases (hafter peak).1 hpeak with rfl | hpeak
    · exact Set.mem_insert _ _
    · exact Set.mem_insert_of_mem _ (h.attained peak hpeak)

/-- **Raising the peak** leaves the greater one of two peaks. -/
theorem raisePeak (h : Peaked m seen) {live : Int64}
    (here : m.flights.Perm ((thread, ⟨o, .raisePeak live :: rest⟩) :: others)) :
    Peaked (m.afterStep thread o (.raisePeak live) rest others) seen := by
  have hraised :
      (m.afterStep thread o (.raisePeak live) rest others).peak = max live.toInt m.peak :=
    Counters.toInt_peakLiveBytes_raisePeak _ _
  have hbefore : ∀ peak, peak ∈ m.peaks ↔
      peak = m.peak ∨ peak = live.toInt ∨ peak ∈ rest.filterMap Step.peak? ++ raises others := by
    intro peak
    rw [peaks, List.mem_cons, mem_raises_of_perm here]
    exact or_congr_right List.mem_cons
  have hafter : ∀ peak, peak ∈ (m.afterStep thread o (.raisePeak live) rest others).peaks ↔
      peak = max live.toInt m.peak ∨ peak ∈ rest.filterMap Step.peak? ++ raises others := by
    intro peak
    rw [← hraised]
    exact List.mem_cons
  constructor
  case now => exact h.now
  case bound =>
    intro value hvalue
    obtain ⟨peak, hpeak, hbound⟩ := h.bound value hvalue
    rcases (hbefore peak).1 hpeak with rfl | rfl | hpeak
    · exact ⟨_, (hafter _).2 (.inl rfl), hbound.trans (le_max_right _ _)⟩
    · exact ⟨_, (hafter _).2 (.inl rfl), hbound.trans (le_max_left _ _)⟩
    · exact ⟨peak, (hafter peak).2 (.inr hpeak), hbound⟩
  case attained =>
    intro peak hpeak
    rcases (hafter peak).1 hpeak with rfl | hpeak
    · -- the greater one of two peaks is one of them
      rcases max_choice live.toInt m.peak with hmax | hmax
      · rw [hmax]
        exact h.attained _ ((hbefore _).2 (.inr (.inl rfl)))
      · rw [hmax]
        exact h.attained _ ((hbefore _).2 (.inl rfl))
    · exact h.attained peak ((hbefore peak).2 (.inr (.inr hpeak)))

/-- **Every step keeps the peaks to the live bytes.** -/
theorem afterStep (h : Peaked m seen) {begun : List Operation} (haccounted : Accounted m begun)
    {step : Step} (here : m.flights.Perm ((thread, ⟨o, step :: rest⟩) :: others))
    (hfits : (m.afterStep thread o step rest others).liveSize < 2 ^ 63) :
    Peaked (m.afterStep thread o step rest others)
      (insert (m.afterStep thread o step rest others).live seen) := by
  have hlive := haccounted.live_afterStep here hfits
  have hpeaks : step.followedBy (m.allocator.counters.apply step) = [] → step.peak? = none →
      (m.afterStep thread o step rest others).peak = m.peak →
      ∀ peak, peak ∈ (m.afterStep thread o step rest others).peaks ↔ peak ∈ m.peaks := by
    intro hfollowed hnone hsame peak
    rw [peaks, peaks, List.mem_cons, List.mem_cons, mem_raises_of_perm here, raises_cons,
      List.filterMap_cons_none hnone, hsame, flights_afterStep, hfollowed]
    rfl
  cases step with
  | addLive size => exact h.addLive here
  | raisePeak live =>
    have hseen : insert (m.afterStep thread o (.raisePeak live) rest others).live seen = seen :=
      Set.insert_eq_of_mem h.now
    rw [hseen]
    exact h.raisePeak here
  | countAlloc | addAllocBytes | countFree | addFreeBytes | subtractLive =>
    refine h.of_peaks (hpeaks rfl rfl rfl) ?_
    rw [hlive]
    simp [Step.added]

end

/-- **So does every move.** -/
theorem step (h : Peaked m seen) {begun : List Operation} (haccounted : Accounted m begun)
    (move : Move) (hfits : (m.step move).liveSize < 2 ^ 63) :
    Peaked (m.step move) (insert (m.step move).live seen) := by
  have hchange := haccounted.distinct.change move
  revert hchange hfits
  generalize m.step move = next
  generalize m.begins? move = begins
  intro hfits hchange
  cases hchange with
  | same => exact h.of_peaks (fun _ => Iff.rfl) le_rfl
  | called thread o blocks taken =>
    refine h.of_peaks (fun peak => ?_) le_rfl
    rw [peaks, flights_afterCall, raises_cons, o.peaks_steps]
    rfl
  | stepped thread o step rest others here => exact h.afterStep haccounted here hfits
  | returned thread o others here =>
    refine h.of_peaks (fun peak => ?_) le_rfl
    rw [peaks, peaks, List.mem_cons, List.mem_cons, mem_raises_of_perm here]
    rfl

end Peaked

theorem peaked_run {moves : List Move} (hfits : Fits moves) :
    Peaked (run {} moves) (liveValues moves) := by
  induction moves using List.reverseRecOn with
  | nil =>
    have hzero : (run {} []).peaks = [0] := rfl
    constructor
    case now => exact ⟨[], List.prefix_rfl, rfl⟩
    case bound =>
      rintro live ⟨before, hbefore, rfl⟩
      obtain rfl := List.prefix_nil.1 hbefore
      exact ⟨0, by rw [hzero]; exact List.mem_singleton_self 0, le_rfl⟩
    case attained =>
      intro peak hpeak
      rw [hzero, List.mem_singleton] at hpeak
      subst hpeak
      exact ⟨[], List.prefix_rfl, rfl⟩
  | append_singleton moves move ih =>
    obtain ⟨hmoves, hlast⟩ := fits_concat.1 hfits
    rw [run_concat, liveValues_concat]
    exact (ih hmoves).step (accounted_run hmoves) move hlast

/-! ### Tallies -/

/-- **What the counters say when all calls have returned**, in terms of the operations, of the
live blocks, and of what the live bytes have been. -/
structure Tallies (moves : List Move) : Prop where
  /-- Every operation that returns a block is counted. -/
  totalAllocs : (run {} moves).allocator.counters.totalAllocs.toNat =
    (operations {} moves).countP (·.leaves.isSome) % 2 ^ 64
  /-- Every operation that releases one is. -/
  totalFrees : (run {} moves).allocator.counters.totalFrees.toNat =
    (operations {} moves).countP (·.takes.isSome) % 2 ^ 64
  /-- The bytes of the blocks that are returned are summed up. -/
  totalAllocBytes : (run {} moves).allocator.counters.totalAllocBytes.toNat =
    ((operations {} moves).map Operation.leftSize).sum % 2 ^ 64
  /-- So are the bytes of those that are released. -/
  totalFreeBytes : (run {} moves).allocator.counters.totalFreeBytes.toNat =
    ((operations {} moves).map Operation.takenSize).sum % 2 ^ 64
  /-- The live bytes are those of the live blocks. -/
  liveBytes : (run {} moves).live = totalSize (run {} moves).allocator.blocks
  /-- The peak is the most that the live bytes have been. -/
  peak : IsGreatest (liveValues moves) (run {} moves).peak

section

variable {m : Machine} {begun : List Operation} (h : Accounted m begun) (hquiet : m.flights = [])

include h hquiet

/-- When all calls have returned, each total is what the operations come to. -/
theorem Accounted.toNat_total (total : Total) :
    (m.allocator.counters.total total).toNat =
      (begun.map (Operation.amount total)).sum % UInt64.size := by
  have htotal := h.totals total
  rw [hquiet, inFlight_nil, Nat.add_zero] at htotal
  rw [← htotal, Nat.mod_eq_of_lt (UInt64.toNat_lt_size _)]

/-- The live bytes are those of the live blocks then. -/
theorem Accounted.liveBytes : m.live = totalSize m.allocator.blocks := by
  rw [h.live, liveSize, hquiet, inFlight_nil, Nat.add_zero]

/-- **The totals and the live bytes depend on the operations alone**, in whatever order they
have begun and their steps have come. -/
theorem Accounted.counters_eq {m' : Machine} {begun' : List Operation} (h' : Accounted m' begun')
    (hquiet' : m'.flights = []) (hperm : begun'.Perm begun) :
    (∀ total, m'.allocator.counters.total total = m.allocator.counters.total total) ∧
      m'.allocator.counters.liveBytes = m.allocator.counters.liveBytes := by
  have hsum : ∀ measure : Operation → Nat, (begun'.map measure).sum = (begun.map measure).sum :=
    fun measure => (hperm.map measure).sum_eq
  constructor
  · intro total
    refine UInt64.toNat_inj.1 ?_
    rw [h.toNat_total hquiet, h'.toNat_total hquiet', hsum]
  · have hsizes := h.sizes
    have hsizes' := h'.sizes
    rw [hquiet, inFlight_nil] at hsizes
    rw [hquiet', inFlight_nil, hsum, hsum] at hsizes'
    refine Int64.toInt_inj.1 ?_
    show m'.live = m.live
    rw [h.liveBytes hquiet, h'.liveBytes hquiet']
    omega

end

theorem Accounted.tallies {moves : List Move} (h : Accounted (run {} moves) (operations {} moves))
    (hpeaked : Peaked (run {} moves) (liveValues moves)) (hquiet : (run {} moves).flights = []) :
    Tallies moves := by
  constructor
  case totalAllocs =>
    rw [← sum_map_eq_countP Operation.amount_allocs]
    exact h.toNat_total hquiet .allocs
  case totalFrees =>
    rw [← sum_map_eq_countP Operation.amount_frees]
    exact h.toNat_total hquiet .frees
  case totalAllocBytes =>
    rw [← funext Operation.amount_allocBytes]
    exact h.toNat_total hquiet .allocBytes
  case totalFreeBytes =>
    rw [← funext Operation.amount_freeBytes]
    exact h.toNat_total hquiet .freeBytes
  case liveBytes => exact h.liveBytes hquiet
  case peak =>
    have hpeaks : (run {} moves).peaks = [(run {} moves).peak] := by
      rw [peaks, hquiet]
      rfl
    constructor
    · exact hpeaked.attained _ (by rw [hpeaks]; exact List.mem_singleton_self _)
    · intro live hlive
      obtain ⟨peak, hpeak, hbound⟩ := hpeaked.bound live hlive
      rw [hpeaks, List.mem_singleton] at hpeak
      exact hpeak ▸ hbound

/-- **No update is lost**, however the steps of the calls are interleaved: the live bytes are
never negative; and once all calls have returned, the counters are exact, and the totals and
the live bytes are the same for every schedule of the same operations. -/
theorem interleaved_run {moves : List Move} (hfits : Fits moves) :
    (∀ before, before <+: moves → 0 ≤ (run {} before).live) ∧
      ((run {} moves).flights = [] → Tallies moves ∧
        ∀ moves', Fits moves' → (run {} moves').flights = [] →
          (operations {} moves').Perm (operations {} moves) →
          (∀ total, (run {} moves').allocator.counters.total total =
            (run {} moves).allocator.counters.total total) ∧
          (run {} moves').allocator.counters.liveBytes =
            (run {} moves).allocator.counters.liveBytes) := by
  have haccounted := accounted_run hfits
  refine ⟨fun before hbefore => ?_, fun hquiet => ⟨?_, fun moves' hfits' hquiet' hperm => ?_⟩⟩
  · have hearlier : Fits before := fun first hfirst => hfits first (hfirst.trans hbefore)
    rw [(accounted_run hearlier).live]
    exact Int.natCast_nonneg _
  · exact haccounted.tallies (peaked_run hfits) hquiet
  · exact haccounted.counters_eq hquiet (accounted_run hfits') hquiet' hperm

/-- One thread is slow to raise the peak: what it has seen is no longer the most when it does. -/
def slowRaise : List Move :=
  .call 1 (.alloc "a" ⟨100, 8⟩) :: List.replicate 3 (.advance 1) ++
    .call 2 (.alloc "b" ⟨50, 8⟩) :: List.replicate 5 (.advance 2) ++
    .call 2 (.dealloc "b") :: List.replicate 4 (.advance 2) ++ List.replicate 2 (.advance 1)

theorem interleaved_run_slowRaise :
    Fits slowRaise ∧ (run {} slowRaise).flights = [] ∧
      (run {} slowRaise).allocator.counters.peakLiveBytes = 150 ∧ Tallies slowRaise := by
  have hfits : Fits slowRaise := by
    have hinits : ∀ before ∈ slowRaise.inits, (run {} before).liveSize < 2 ^ 63 := by decide
    exact fun before hbefore => hinits before ((List.mem_inits before slowRaise).2 hbefore)
  have hquiet : (run {} slowRaise).flights = [] := by decide
  exact ⟨hfits, hquiet, by decide, ((interleaved_run hfits).2 hquiet).1⟩

end Machine

end ProfilingTargets.Heap
