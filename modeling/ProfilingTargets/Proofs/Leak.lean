import Mathlib
import ProfilingTargets.Leak
import ProfilingTargets.Proofs.Workload

/-!
# What the leaky worker does, run after run

A run pauses at the multiples of a number, so that it pauses as often as the quotient,
rounded up, says (`multiples_eq`). Where a run stands after some iterations is told from the
worker that it began with and from their number (`Worker.Stands`); each iteration takes this
on (`Worker.Stands.iterate`), and a run ends where all of them lead.

## What is proved

* `Worker.Stands.iterations`: what any number of iterations of the loop do.
* `Worker.new_eq_ok_iff` and its like: which plans have a worker, and what becomes of the
  others.
* `Worker.leaks_run`: for every plan, whether there is a worker for it; and for every worker
  and any number of runs, what it has leaked, and what the next run reports, says and sleeps.
-/

namespace ProfilingTargets.Leak

/-! ### Multiples -/

/-- The multiples of a number that are below another one. -/
def multiples (every n : Nat) : List Nat := (List.range n).filter (every ∣ ·)

theorem multiples_succ (every n : Nat) :
    multiples every (n + 1) = multiples every n ++ if every ∣ n then [n] else [] := by
  rw [multiples, List.range_succ, List.filter_append]
  by_cases h : every ∣ n <;> simp [multiples, h]

/-- The quotient rounded up grows at the multiples. -/
theorem ceil_succ {every : Nat} (h : 0 < every) (n : Nat) :
    (n + 1 + every - 1) / every = (n + every - 1) / every + if every ∣ n then 1 else 0 := by
  have hsucc : (n + every - 1 + 1) / every =
      (n + every - 1) / every + if every ∣ n + every - 1 + 1 then 1 else 0 := Nat.succ_div
  have hnext : n + every - 1 + 1 = n + every := by omega
  have hsum : n + 1 + every - 1 = n + every := by omega
  have hdvd : every ∣ n + every ↔ every ∣ n := Nat.dvd_add_self_right
  rw [hnext] at hsucc
  simp only [hdvd] at hsucc
  rw [hsum, hsucc]

/-- **The multiples are none, one, two times the number**, and so on, as many as the quotient
rounded up. -/
theorem multiples_eq {every : Nat} (h : 0 < every) (n : Nat) :
    multiples every n = (List.range ((n + every - 1) / every)).map (· * every) := by
  induction n with
  | zero =>
    rw [Nat.div_eq_of_lt (by omega : 0 + every - 1 < every)]
    rfl
  | succ n ih =>
    rw [multiples_succ, ceil_succ h, ih]
    by_cases hdvd : every ∣ n
    · obtain ⟨k, rfl⟩ := hdvd
      have hk : (every * k + every - 1) / every = k := by
        rw [Nat.add_sub_assoc h, Nat.mul_add_div h, Nat.div_eq_of_lt (by omega), Nat.add_zero]
      rw [if_pos (Nat.dvd_mul_right every k), if_pos (Nat.dvd_mul_right every k), hk,
        List.range_succ, List.map_append, List.map_singleton, Nat.mul_comm k]
    · rw [if_neg hdvd, if_neg hdvd, Nat.add_zero, List.append_nil]

namespace Worker

/-! ### The loop -/

/-- What a pause at an iteration does, where the sequence began the run with `len` texts: it
tells how many there are now, and sleeps. -/
def pauseAt (plan : Plan) (len i : Nat) : List Effect :=
  [.log (pausing i (len + i + 1)), .sleep plan.pause]

/-- **Where a run stands** after some iterations. -/
structure Stands (w : Worker) (i : Nat) (p : Progress) : Prop where
  /-- The payload has been appended as often. -/
  sequence : p.sequence.toList = w.sequence.toList ++ List.replicate i w.plan.payload
  /-- As many rounds have been done. -/
  work : p.work = { multiplies := w.plan.multiplies, calls := 6 * UInt64.ofNat i }
  /-- It has paused at the multiples. -/
  pauses : p.pauses = (multiples w.plan.throttleEvery.toNat i).length
  /-- Each pause has been announced and slept through. -/
  effects : p.effects.reverse =
    (multiples w.plan.throttleEvery.toNat i).flatMap (pauseAt w.plan w.sequence.size)

namespace Stands

variable {w : Worker} {i : Nat} {p : Progress}

theorem start (w : Worker) :
    Stands w 0 { sequence := w.sequence, work := { multiplies := w.plan.multiplies } } where
  sequence := (List.append_nil _).symm
  work := rfl
  pauses := rfl
  effects := rfl

/-- **An iteration appends the payload, does a round, and pauses at a multiple.** -/
theorem iterate (h : Stands w i p) : Stands w (i + 1) (Worker.iterate w.plan i p) := by
  have hsequence : (p.sequence.push w.plan.payload).toList =
      w.sequence.toList ++ List.replicate (i + 1) w.plan.payload := by
    rw [Array.toList_push, h.sequence, List.append_assoc, List.replicate_succ']
  have hsize : (p.sequence.push w.plan.payload).size = w.sequence.size + i + 1 := by
    rw [← Array.length_toList, hsequence, List.length_append, List.length_replicate,
      Array.length_toList, Nat.add_assoc]
  have hwork : p.work.round =
      { multiplies := w.plan.multiplies, calls := 6 * UInt64.ofNat (i + 1) } := by
    rw [Workload.round_eq, h.work, UInt64.ofNat_add, UInt64.mul_add]
    rfl
  unfold Worker.iterate
  by_cases hdvd : w.plan.throttleEvery.toNat ∣ i
  · rw [if_pos (Nat.mod_eq_zero_of_dvd hdvd)]
    constructor
    case sequence => exact hsequence
    case work => exact hwork
    case pauses =>
      rw [multiples_succ, if_pos hdvd, List.length_append, ← h.pauses]
      rfl
    case effects =>
      rw [multiples_succ, if_pos hdvd, List.flatMap_append, List.flatMap_singleton, ← h.effects,
        pauseAt, ← hsize]
      simp only [List.reverse_cons, List.append_assoc, List.singleton_append]
  · rw [if_neg (mt Nat.dvd_of_mod_eq_zero hdvd)]
    constructor
    case sequence => exact hsequence
    case work => exact hwork
    case pauses =>
      rw [multiples_succ, if_neg hdvd, List.append_nil]
      exact h.pauses
    case effects =>
      rw [multiples_succ, if_neg hdvd, List.append_nil]
      exact h.effects

/-- **So do any number of iterations.** -/
theorem iterations (h : Stands w i p) (left : Nat) :
    Stands w (i + left) (Worker.iterations w.plan left i p) := by
  induction left generalizing i p with
  | zero => exact h
  | succ left ih =>
    rw [Worker.iterations, ← Nat.add_assoc, Nat.add_right_comm]
    exact ih h.iterate

end Stands

/-- A run ends where all its iterations lead. -/
theorem stands_progress (w : Worker) : Stands w w.plan.iterations.toNat w.progress := by
  have hend := (Stands.start w).iterations w.plan.iterations.toNat
  rw [Nat.zero_add] at hend
  exact hend

/-! ### Runs -/

/-- A worker after some runs. -/
def after (w : Worker) : Nat → Worker
  | 0 => w
  | runs + 1 => (w.after runs).run.2.2

theorem plan_after (w : Worker) (runs : Nat) : (w.after runs).plan = w.plan := by
  induction runs with
  | zero => rfl
  | succ runs ih => exact ih

/-- **Nothing is trimmed, overwritten or reordered**, however often the worker runs. -/
theorem sequence_after (w : Worker) (runs : Nat) :
    (w.after runs).sequence.toList = w.sequence.toList ++
      List.replicate (runs * w.plan.iterations.toNat) w.plan.payload := by
  induction runs with
  | zero => rw [Nat.zero_mul, List.replicate_zero, List.append_nil]; rfl
  | succ runs ih =>
    have hrun : (w.after (runs + 1)).sequence = (w.after runs).progress.sequence := rfl
    rw [hrun, (stands_progress _).sequence, ih, plan_after, List.append_assoc,
      List.replicate_append_replicate, Nat.succ_mul]

/-- **What a worker is after some runs of a plan, and what it does in the next one.** -/
structure Leaks (plan : Plan) (runs : Nat) (w : Worker) : Prop where
  /-- The plan is what it was. -/
  samePlan : w.plan = plan
  /-- No iteration divides by zero. -/
  throttled : plan.throttleEvery ≠ 0
  /-- The sequence is the empty texts of the beginning, then the payload of every iteration. -/
  sequence : w.sequence.toList = List.replicate plan.initialSlots.toNat "" ++
    List.replicate (runs * plan.iterations.toNat) plan.payload
  /-- The run makes all iterations. -/
  iterations : w.run.1.iterations = plan.iterations
  /-- It reports the length of the sequence that it leaves. -/
  len : w.run.1.len = w.run.2.2.sequence.size
  /-- It makes six calls in each iteration, counted in a word that wraps. -/
  calls : w.run.1.calls = 6 * plan.iterations
  /-- That is their number, as long as a word can hold it. -/
  toNat_calls : 6 * plan.iterations.toNat < 2 ^ 64 →
    w.run.1.calls.toNat = 6 * plan.iterations.toNat
  /-- It pauses at every iteration whose number is a multiple. -/
  pauses : w.run.1.pauses = ((List.range plan.iterations.toNat).filter
    (plan.throttleEvery.toNat ∣ ·)).length
  /-- That is as often as the plan expects. -/
  expectedPauses : plan.expectedPauses = .ok w.run.1.pauses
  /-- Each pause is announced and then slept through, in the order of the multiples. -/
  effects : w.progress.effects.reverse = (List.range w.run.1.pauses).flatMap fun k =>
    [.log (pausing (k * plan.throttleEvery.toNat)
      (w.sequence.size + k * plan.throttleEvery.toNat + 1)), .sleep plan.pause]
  /-- What is said are these announcements. -/
  events : w.run.2.1 = (List.range w.run.1.pauses).map fun k =>
    pausing (k * plan.throttleEvery.toNat)
      (w.sequence.size + k * plan.throttleEvery.toNat + 1)
  /-- The sleeps last as long as so many pauses. -/
  paused : w.run.1.paused = ⟨w.run.1.pauses * plan.pause.nanos⟩

/-- What is said in some pauses. -/
theorem filterMap_event? (plan : Plan) (len : Nat) (indices : List Nat) :
    (indices.flatMap (pauseAt plan len)).filterMap Effect.event? =
      indices.map fun i => pausing i (len + i + 1) := by
  induction indices with
  | nil => rfl
  | cons i rest ih => rw [List.flatMap_cons, List.filterMap_append, ih]; rfl

/-- What is slept in some pauses. -/
theorem sum_nanos (plan : Plan) (len : Nat) (indices : List Nat) :
    ((indices.flatMap (pauseAt plan len)).map Effect.nanos).sum =
      indices.length * plan.pause.nanos := by
  induction indices with
  | nil => simp
  | cons i rest ih =>
    rw [List.flatMap_cons, List.map_append, List.sum_append, ih, List.length_cons]
    simp only [pauseAt, Effect.nanos, List.map_cons, List.map_nil, List.sum_cons, List.sum_nil]
    ring

/-- A worker can tell the multiples at which it pauses. -/
theorem throttleEvery_pos (w : Worker) : 0 < w.plan.throttleEvery.toNat :=
  Nat.pos_of_ne_zero fun h => w.throttled (UInt64.toNat_inj.1 h)

/-- A run pauses as often as its plan expects. -/
theorem expectedPauses_plan (w : Worker) : w.plan.expectedPauses = .ok w.progress.pauses := by
  have hpos := throttleEvery_pos w
  rw [Plan.expectedPauses, if_neg hpos.ne', (stands_progress w).pauses, multiples_eq hpos,
    List.length_map, List.length_range]

/-- The multiples at which a run pauses, in the order of its pauses. -/
theorem multiples_plan (w : Worker) :
    multiples w.plan.throttleEvery.toNat w.plan.iterations.toNat =
      (List.range w.progress.pauses).map (· * w.plan.throttleEvery.toNat) := by
  have hpos := throttleEvery_pos w
  rw [(stands_progress w).pauses, multiples_eq hpos, List.length_map, List.length_range]

/-- Every run of a worker does the same, from the sequence that the last one left. -/
theorem leaks_after (w : Worker) (runs : Nat)
    (hsequence : w.sequence.toList = List.replicate w.plan.initialSlots.toNat "") :
    Leaks w.plan runs (w.after runs) := by
  have hplan := plan_after w runs
  have hstands := stands_progress (w.after runs)
  have hmultiples := multiples_plan (w.after runs)
  have hcalls : (w.after runs).run.1.calls = 6 * w.plan.iterations := by
    show (w.after runs).progress.work.calls = _
    rw [hstands.work, hplan, UInt64.ofNat_toNat]
  constructor
  case samePlan => exact hplan
  case throttled => exact w.throttled
  case sequence => rw [sequence_after, hsequence]
  case iterations => exact congrArg Plan.iterations hplan
  case len => rfl
  case calls => exact hcalls
  case toNat_calls =>
    intro hlt
    rw [hcalls, UInt64.toNat_mul]
    exact Nat.mod_eq_of_lt hlt
  case pauses =>
    rw [← hplan]
    exact hstands.pauses
  case expectedPauses =>
    rw [← hplan]
    exact expectedPauses_plan (w.after runs)
  case effects =>
    rw [hstands.effects, hmultiples, hplan, List.flatMap_map]
    rfl
  case events =>
    show (w.after runs).progress.effects.reverse.filterMap Effect.event? = _
    rw [hstands.effects, filterMap_event?, hmultiples, hplan, List.map_map]
    rfl
  case paused =>
    have hsum : ((w.after runs).progress.effects.reverse.map Effect.nanos).sum =
        (w.after runs).progress.pauses * w.plan.pause.nanos := by
      rw [hstands.effects, sum_nanos, ← hstands.pauses, hplan]
    rw [List.sum_eq_foldl] at hsum
    exact congrArg Duration.mk hsum

/-! ### Whether there is a worker -/

theorem greatestAllocation_eq : greatestAllocation = 2 ^ 63 - 1 := rfl

/-- A plan is refused as no plan exactly if it would divide by zero. -/
theorem validate_eq_error_iff {plan : Plan} :
    (∃ why, plan.validate = .error why) ↔ plan.throttleEvery = 0 := by
  unfold Plan.validate
  by_cases hzero : plan.throttleEvery = 0 <;> simp [hzero]

/-- A worker is refused to the plans that are refused, and for their reason. -/
theorem new_eq_invalidArgument_iff {plan : Plan} {why : ArgumentError} :
    new plan = .error (.error (.invalidArgument why)) ↔ plan.validate = .error why := by
  unfold new Plan.validate
  by_cases hzero : plan.throttleEvery = 0
  · simp [hzero]
  · rw [dif_neg hzero, if_neg hzero]
    split <;> simp

/-- A worker that starts with more texts than there can be breaks off, if its plan is valid. -/
theorem new_eq_capacityOverflow_iff {plan : Plan} :
    new plan = .error (.panic .capacityOverflow) ↔
      plan.throttleEvery ≠ 0 ∧ plan.initialSlots.toNat * 24 > 2 ^ 63 - 1 := by
  unfold new
  by_cases hzero : plan.throttleEvery = 0
  · simp [hzero]
  · rw [dif_neg hzero, slotBytes, greatestAllocation_eq]
    split <;> simp_all

/-- Any other plan has its worker, which starts with the empty texts that the plan says. -/
theorem new_eq_ok_iff {plan : Plan} {w : Worker} :
    new plan = .ok w ↔ plan.initialSlots.toNat * 24 ≤ 2 ^ 63 - 1 ∧ w.plan = plan ∧
      w.sequence = Array.replicate plan.initialSlots.toNat "" := by
  obtain ⟨plan', throttled, sequence⟩ := w
  unfold new
  by_cases hzero : plan.throttleEvery = 0
  · rw [dif_pos hzero]
    refine ⟨nofun, ?_⟩
    rintro ⟨-, rfl, -⟩
    exact absurd hzero throttled
  · rw [dif_neg hzero, slotBytes, greatestAllocation_eq]
    split
    · next hmany =>
      refine ⟨nofun, ?_⟩
      rintro ⟨hfits, -⟩
      exact absurd hfits (Nat.not_le.2 hmany)
    · next hfew =>
      constructor
      · intro h
        cases h
        exact ⟨Nat.not_lt.1 hfew, rfl, rfl⟩
      · rintro ⟨-, hplan, hsequence⟩
        rw [Except.ok.injEq, mk.injEq]
        exact ⟨hplan.symm, hsequence.symm⟩

/-- **Whether there is a worker for a plan, and what all its runs do.** -/
structure Account (plan : Plan) : Prop where
  /-- A plan that would divide by zero is refused, whatever it would have allocated. -/
  invalid : (∃ why, new plan = .error (.error (.invalidArgument why))) ↔ plan.throttleEvery = 0
  /-- Any other plan breaks off if it starts with more than there can be. -/
  overflow : new plan = .error (.panic .capacityOverflow) ↔
    plan.throttleEvery ≠ 0 ∧ plan.initialSlots.toNat * 24 > 2 ^ 63 - 1
  /-- Else there is a worker. -/
  created : (∃ w, new plan = .ok w) ↔
    plan.throttleEvery ≠ 0 ∧ plan.initialSlots.toNat * 24 ≤ 2 ^ 63 - 1
  /-- It leaks what the plan says, however often it runs. -/
  runs : ∀ w, new plan = .ok w → ∀ runs, Leaks plan runs (w.after runs)

/-- **A leaky worker accounts exactly for all its runs**, whatever its plan is. -/
theorem leaks_run (plan : Plan) : Account plan := by
  constructor
  case invalid =>
    simp only [new_eq_invalidArgument_iff]
    exact validate_eq_error_iff
  case overflow => exact new_eq_capacityOverflow_iff
  case created =>
    constructor
    · rintro ⟨w, hw⟩
      obtain ⟨hfits, rfl, -⟩ := new_eq_ok_iff.1 hw
      exact ⟨w.throttled, hfits⟩
    · rintro ⟨hthrottled, hfits⟩
      exact ⟨⟨plan, hthrottled, _⟩, new_eq_ok_iff.2 ⟨hfits, rfl, rfl⟩⟩
  case runs =>
    intro w hw runs
    obtain ⟨-, rfl, hsequence⟩ := new_eq_ok_iff.1 hw
    refine leaks_after w runs ?_
    rw [hsequence]
    exact Array.toList_replicate

/-- Two runs from one slot, and the third. -/
example :
    let plan : Plan := { iterations := 3, initialSlots := 1, throttleEvery := 2, payload := "x" }
    (new plan).map (fun w => ((w.after 2).sequence, (w.after 2).run.1.len)) =
      .ok (#["", "x", "x", "x", "x", "x", "x"], 10) := by
  rfl

end Worker

end ProfilingTargets.Leak
