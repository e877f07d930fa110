import Mathlib.Data.List.Nodup
import ProfilingTargets.Process
import ProfilingTargets.Proofs.Server.Dispatch

/-!
# Jobs and their numbers

The captures of a process are known by numbers. This module says what each action does
to the jobs: a number is given once (`Numbered`), a job that changes its stage stands
where it stood among the others (`Numbered.split`), and only a job that has not ended
changes it (`Advances`). What one action can do to all of them is said once (`Change`):
a capture that has begun never gets back to where it has not (`Begun.run`), and a result
is final (`Finished.run`). A fact about every run comes from the fact about every step
(`run_induction`).
-/

namespace ProfilingTargets

/-- The stage of a capture that goes on no longer. -/
def Stage.IsEnded : Stage → Prop
  | .ended _ => True
  | _ => False

namespace Process

/-! ### Runs -/

@[simp] theorem run_cons (p : Process) (o : Outside) (a : Action)
    (actions : List (Outside × Action)) :
    p.run ((o, a) :: actions) = (p.step o a).run actions := rfl

theorem run_append (p : Process) (before after : List (Outside × Action)) :
    p.run (before ++ after) = (p.run before).run after := by
  simp only [run, List.foldl_append]

/-- **What every step keeps, every run keeps**; `allowed` says which actions there are. -/
theorem run_induction {invariant : Process → Prop} {allowed : Action → Prop}
    (hstep : ∀ p o a, invariant p → allowed a → invariant (p.step o a))
    {p : Process} (hp : invariant p) {actions : List (Outside × Action)}
    (hallowed : ∀ a ∈ actions, allowed a.2) : invariant (p.run actions) := by
  induction actions generalizing p with
  | nil => exact hp
  | cons head rest ih =>
    obtain ⟨o, a⟩ := head
    have ha : allowed a := hallowed (o, a) List.mem_cons_self
    exact ih (hstep p o a hp ha) fun b hb => hallowed b (List.mem_cons_of_mem _ hb)

theorem run_invariant {invariant : Process → Prop}
    (hstep : ∀ p o a, invariant p → invariant (p.step o a)) {p : Process} (hp : invariant p)
    (actions : List (Outside × Action)) : invariant (p.run actions) :=
  run_induction (fun p o a hp (_ : True) => hstep p o a hp) hp fun _ _ => trivial

/-! ### Stages -/

section

variable (p : Process) (n : Nat) (stage : Stage)

@[simp] theorem host_setStage : (p.setStage n stage).host = p.host := rfl

@[simp] theorem waiting_setStage : (p.setStage n stage).waiting = p.waiting := rfl

@[simp] theorem numbers_setStage :
    (p.setStage n stage).jobs.map (·.1) = p.jobs.map (·.1) := by
  simp [setStage, Function.comp_def]

end

section

variable (p : Process) (s : Sampler)

@[simp] theorem sampler_withSampler : (p.withSampler s).host.sampler = s := rfl

@[simp] theorem jobs_withSampler : (p.withSampler s).jobs = p.jobs := rfl

@[simp] theorem job?_withSampler (n : Nat) : (p.withSampler s).job? n = p.job? n := rfl

end

/-- Only the job of the number changes its stage. -/
theorem job?_setStage (p : Process) (n m : Nat) (stage : Stage) :
    (p.setStage n stage).job? m =
      (p.job? m).map fun job => if m = n then { job with stage := stage } else job := by
  simp only [job?, setStage]
  induction p.jobs with
  | nil => rfl
  | cons entry rest ih =>
    obtain ⟨k, job⟩ := entry
    by_cases hk : m = k
    · subst hk; simp
    · simp only [List.map_cons, List.lookup_cons, beq_eq_false_iff_ne.2 hk]
      exact ih

theorem job?_setStage_self {p : Process} {n : Nat} {job : Job} (h : p.job? n = some job)
    (stage : Stage) : (p.setStage n stage).job? n = some { job with stage := stage } := by
  simp [job?_setStage, h]

/-- A capture that is asked for takes the next number. -/
theorem job?_call (p : Process) (c : Capture) (m : Nat) :
    (p.call c).2.job? m = if m = p.nextJob then some { capture := c } else p.job? m := by
  by_cases hm : m = p.nextJob
  · simp [call, job?, hm]
  · simp [call, job?, List.lookup_cons, beq_eq_false_iff_ne.2 hm, hm]

theorem job?_call_self (p : Process) (c : Capture) :
    (p.call c).2.job? p.nextJob = some { capture := c } := by
  rw [job?_call, if_pos rfl]

/-! ### What the actions do to jobs -/

/-- A capture gets on: at most the stage of a job that has not ended differs, and the
sampler. No capture gets back to where it has not begun. -/
def Advances (n : Nat) (p q : Process) : Prop :=
  q = p ∨ ∃ job s stage, p.job? n = some job ∧ ¬ job.stage.IsEnded ∧ stage ≠ .queued ∧
    q = (p.withSampler s).setStage n stage

/-- Nothing that belongs to jobs and requests differs. -/
structure SameRequests (p q : Process) : Prop where
  /-- The jobs are the same. -/
  jobs : q.jobs = p.jobs
  /-- The next number is the same. -/
  nextJob : q.nextJob = p.nextJob
  /-- The requests that wait are the same. -/
  waiting : q.waiting = p.waiting
  /-- The lock is the same. -/
  locked : q.locked = p.locked

theorem sameRequests_startRecording (o : Outside) (name path : String) (frequency : Int32)
    (p : Process) : p.SameRequests (p.startRecording o name path frequency).2.2 := by
  unfold startRecording
  split <;> exact ⟨rfl, rfl, rfl, rfl⟩

theorem sameRequests_startOptional (o : Outside) (name : String) (path? : Option String)
    (frequency : Int32) (p : Process) :
    p.SameRequests (p.startOptional o name path? frequency).2.2 := by
  unfold startOptional
  split <;> exact ⟨rfl, rfl, rfl, rfl⟩

theorem sameRequests_finishRecording (o : Outside) (name : String) (p : Process) :
    p.SameRequests (p.finishRecording o name).2.2 := by
  unfold finishRecording
  split <;> exact ⟨rfl, rfl, rfl, rfl⟩

theorem sameRequests_dropRecording (o : Outside) (name : String) (p : Process) :
    p.SameRequests (p.dropRecording o name).2.2 := by
  unfold dropRecording
  split <;> exact ⟨rfl, rfl, rfl, rfl⟩

/-- A sampler that is running refuses a capture. -/
theorem beginJob_of_running {p : Process} {n : Nat} {c : Capture}
    (h : p.job? n = some ⟨c, .queued⟩) (hrunning : p.host.sampler.running = true) :
    p.beginJob n = ([Sampler.starting],
      p.setStage n (.ended (.error (.error (.profiler .running))))) := by
  simp only [beginJob, h, Capture.begin, Sampler.start, hrunning, if_true]
  rfl

/-- A sampler that is not running starts for a capture at any frequency but zero. -/
theorem beginJob_of_idle {p : Process} {n : Nat} {c : Capture}
    (h : p.job? n = some ⟨c, .queued⟩) (hidle : p.host.sampler.running = false)
    (hfrequency : c.frequency ≠ 0) :
    p.beginJob n = ([Sampler.starting, c.started],
      (p.withSampler { running := true }).setStage n .sampling) := by
  simp only [beginJob, h, Capture.begin, Sampler.start, hidle, Bool.false_eq_true, if_false,
    hfrequency]

theorem beginJob_of_not_queued {p : Process} {n : Nat}
    (h : ∀ c, p.job? n ≠ some ⟨c, .queued⟩) : p.beginJob n = ([], p) := by
  unfold beginJob
  split
  · next c hc => exact absurd hc (h c)
  · rfl

theorem completeJob_of_not_sampling {o : Outside} {p : Process} {n : Nat}
    (h : ∀ c, p.job? n ≠ some ⟨c, .sampling⟩) : p.completeJob o n = ([], p) := by
  unfold completeJob
  split
  · next c hc => exact absurd hc (h c)
  · rfl

theorem advances_beginJob (p : Process) (n : Nat) : p.Advances n (p.beginJob n).2 := by
  unfold beginJob
  split
  · next c h =>
    split
    · exact .inr ⟨_, _, _, h, not_false, Stage.noConfusion, rfl⟩
    · exact .inr ⟨_, _, _, h, not_false, Stage.noConfusion, rfl⟩
  · exact .inl rfl

theorem advances_completeJob (o : Outside) (p : Process) (n : Nat) :
    p.Advances n (p.completeJob o n).2 := by
  unfold completeJob
  split
  · next c h => exact .inr ⟨_, _, _, h, not_false, Stage.noConfusion, rfl⟩
  · exact .inl rfl

theorem completeJob_of_sampling {p : Process} {n : Nat} {c : Capture}
    (h : p.job? n = some ⟨c, .sampling⟩) (o : Outside) :
    ∃ result, p.completeJob o n = ([Sampler.stopping],
      (p.withSampler { running := false }).setStage n (.ended result)) := by
  simp only [completeJob, h, Capture.complete]
  split <;> exact ⟨_, rfl⟩

section

variable {p : Process} {view : Server.View} {request : Http.Request}

/-- A request that is answered at once leaves everything as it was. -/
theorem receive_of_respond {response : Http.Response}
    (h : Server.dispatch view p.locked request = .respond response) :
    p.receive view request = (.answered response, [], p) := by
  simp only [receive, h]

/-- Whoever is answered at once was to be answered so. -/
theorem dispatch_of_answered {response : Http.Response}
    (h : (p.receive view request).1 = .answered response) :
    Server.dispatch view p.locked request = .respond response := by
  unfold receive at h
  split at h
  · cases h
    assumption
  · cases h
  · cases h

/-- Whoever waits for a capture was to be captured for, and waits for the next number. -/
theorem dispatch_of_capturing {n : Nat} (h : (p.receive view request).1 = .capturing n) :
    n = p.nextJob ∧
      ∃ format seconds, Server.dispatch view p.locked request = .capture format seconds := by
  unfold receive at h
  split at h
  · cases h
  · cases h
  · next format seconds hdispatch =>
    cases h
    exact ⟨rfl, format, seconds, hdispatch⟩

/-- A request for a capture takes the lock, asks for the capture, and waits for it. -/
theorem receive_of_capture {format : ProfileFormat} {seconds : Nat}
    (h : Server.dispatch view p.locked request = .capture format seconds) :
    p.receive view request = (.capturing p.nextJob, [requested format seconds],
      { (p.call { format := format, duration := .ofSeconds seconds }).2 with
        waiting := p.nextJob :: p.waiting, locked := true }) := by
  simp only [receive, h]
  rfl

end

/-- **What a request does when it arrives**: nothing, or it takes the lock, asks for a
capture at the usual frequency, and waits for it. -/
theorem receive_cases (view : Server.View) (request : Http.Request) (p : Process) :
    (p.receive view request).2.2 = p ∨
      ∃ c : Capture, c.frequency = Sampler.defaultFrequency ∧ p.locked = false ∧
        (p.receive view request).2.2 =
          { (p.call c).2 with waiting := p.nextJob :: p.waiting, locked := true } := by
  unfold receive
  split
  · exact .inl rfl
  · exact .inl rfl
  · next hcapture => exact .inr ⟨_, rfl, Server.locked_of_dispatch hcapture, rfl⟩

/-- An answer that is given releases its request. -/
theorem answer_cases (p : Process) (n : Nat) :
    (p.answer n).2.2 = p ∨
      ∃ result, p.result? n = some result ∧ n ∈ p.waiting ∧ (p.answer n).2.2 = p.release n := by
  unfold answer
  split
  · next hwaiting =>
    split
    · next result hresult => exact .inr ⟨result, hresult, by simpa using hwaiting, rfl⟩
    · exact .inl rfl
  · exact .inl rfl

/-- Whoever waits for a capture that has ended is answered, and lets go of the lock. -/
theorem answer_of_result {p : Process} {n : Nat} (hn : n ∈ p.waiting)
    {result : Except Failure Captured} (hresult : p.result? n = some result) :
    p.answer n = (some (responseTo result).1, (responseTo result).2, p.release n) := by
  simp only [answer, List.contains_iff_mem, hn, if_true, hresult]

theorem hangUp_cases (p : Process) (n : Nat) :
    p.hangUp n = p ∨ (n ∈ p.waiting ∧ p.hangUp n = p.release n) := by
  unfold hangUp
  split
  · next hwaiting => exact .inr ⟨by simpa using hwaiting, rfl⟩
  · exact .inl rfl

theorem result?_eq_some_iff {p : Process} {n : Nat} {result : Except Failure Captured} :
    p.result? n = some result ↔ ∃ c, p.job? n = some ⟨c, .ended result⟩ := by
  unfold result?
  split
  · next c result' h => simp [h, eq_comm]
  · next h =>
    simp only [reduceCtorEq, false_iff, not_exists]
    intro c hc
    exact h _ _ hc

/-! ### Numbers -/

/-- **Every job has a number of its own**, below the next one to be given. -/
structure Numbered (p : Process) : Prop where
  /-- No number is given twice. -/
  nodup : (p.jobs.map (·.1)).Nodup
  /-- The next number is free. -/
  fresh : ∀ n ∈ p.jobs.map (·.1), n < p.nextJob

theorem Numbered.of_eq {p q : Process} (hp : p.Numbered)
    (hnumbers : q.jobs.map (·.1) = p.jobs.map (·.1)) (hnext : q.nextJob = p.nextJob) :
    q.Numbered := by
  constructor
  · rw [hnumbers]; exact hp.nodup
  · rw [hnumbers, hnext]; exact hp.fresh

theorem numbered_start (host : Host) : Numbered { host := host } :=
  ⟨List.nodup_nil, by simp⟩

theorem Numbered.call {p : Process} (hp : p.Numbered) (c : Capture) : (p.call c).2.Numbered := by
  have hnew : p.nextJob ∉ p.jobs.map (·.1) := fun h => Nat.lt_irrefl _ (hp.fresh _ h)
  constructor
  · exact List.nodup_cons.2 ⟨hnew, hp.nodup⟩
  · intro n hn
    simp only [Process.call, List.map_cons, List.mem_cons] at hn ⊢
    rcases hn with rfl | hn
    · exact Nat.lt_succ_self _
    · exact Nat.lt_succ_of_lt (hp.fresh n hn)

/-- **The place of a job**: the other jobs stand before and after it, whatever stage it
gets to. -/
theorem Numbered.split {p : Process} (hp : p.Numbered) {n : Nat} {job : Job}
    (h : p.job? n = some job) :
    ∃ before after, p.jobs = before ++ (n, job) :: after ∧
      ∀ stage, (p.setStage n stage).jobs =
        before ++ (n, { job with stage := stage }) :: after := by
  obtain ⟨before, after, heq, -⟩ := List.lookup_eq_some_iff.1 h
  refine ⟨before, after, heq, fun stage => ?_⟩
  have hnodup := hp.nodup
  rw [heq, List.map_append, List.map_cons, List.nodup_middle, List.nodup_cons,
    List.mem_append, not_or] at hnodup
  obtain ⟨⟨hbefore, hafter⟩, -⟩ := hnodup
  -- no other job has this number, so the change passes all of them by
  have hother : ∀ jobs : List (Nat × Job), n ∉ jobs.map (·.1) →
      (({ p with jobs := jobs } : Process).setStage n stage).jobs = jobs := by
    intro jobs hjobs
    refine (List.map_congr_left fun entry hentry => ?_).trans (List.map_id _)
    have hne : entry.1 ≠ n := fun h => hjobs (h ▸ List.mem_map_of_mem hentry)
    simp [hne]
  simp only [setStage] at hother
  simp only [setStage, heq, List.map_append, List.map_cons, hother before hbefore,
    hother after hafter, if_true]

/-! ### How far captures are -/

/-- **What one action can do to the captures**: nothing, or one more is asked for, or one of
them gets on. -/
inductive Change (p q : Process) : Prop where
  /-- The captures stay as they are. -/
  | same (jobs : q.jobs = p.jobs) (nextJob : q.nextJob = p.nextJob)
  /-- A capture is asked for. -/
  | called (c : Capture) (jobs : q.jobs = (p.call c).2.jobs)
    (nextJob : q.nextJob = p.nextJob + 1)
  /-- The capture of a number gets on. -/
  | advanced (n : Nat) (advances : p.Advances n q)

theorem Change.of_sameRequests {p q : Process} (h : p.SameRequests q) : Change p q :=
  .same h.jobs h.nextJob

/-- **Every action changes the captures in one of these ways.** -/
theorem Change.of_step (p : Process) (o : Outside) (a : Action) : Change p (p.step o a) := by
  cases a with
  | startRecording => exact of_sameRequests (sameRequests_startRecording ..)
  | startOptional => exact of_sameRequests (sameRequests_startOptional ..)
  | finishRecording => exact of_sameRequests (sameRequests_finishRecording ..)
  | dropRecording => exact of_sameRequests (sameRequests_dropRecording ..)
  | call c => exact .called c rfl rfl
  | receive view request =>
    rcases p.receive_cases view request with h | ⟨c, -, -, h⟩ <;> rw [step, h]
    · exact .same rfl rfl
    · exact .called c rfl rfl
  | beginJob n => exact .advanced n (p.advances_beginJob n)
  | completeJob n => exact .advanced n (p.advances_completeJob o n)
  | answer n =>
    rcases p.answer_cases n with h | ⟨-, -, -, h⟩ <;> rw [step, h]
    · exact .same rfl rfl
    · exact .same rfl rfl
  | hangUp n =>
    rcases p.hangUp_cases n with h | ⟨-, h⟩ <;> rw [step, h]
    · exact .same rfl rfl
    · exact .same rfl rfl

/-- A job of a number that has been given, with its stage in a set of stages. -/
structure StageIn (stages : Stage → Prop) (n : Nat) (p : Process) : Prop where
  /-- The number has been given. -/
  given : n < p.nextJob
  /-- The stage is one of these. -/
  job : ∃ c stage, p.job? n = some ⟨c, stage⟩ ∧ stages stage

/-- **What a capture does not leave by getting on, it never leaves.** -/
theorem StageIn.step {stages : Stage → Prop} {n : Nat} {p : Process} (h : p.StageIn stages n)
    (hstages : ∀ stage next : Stage, stages stage → ¬ stage.IsEnded → next ≠ .queued → stages next)
    (o : Outside) (a : Action) :
    (p.step o a).StageIn stages n := by
  obtain ⟨hgiven, c, stage, hjob, hstage⟩ := h
  have hchange := Change.of_step p o a
  revert hchange
  generalize p.step o a = q
  intro hchange
  cases hchange with
  | same jobs nextJob =>
    refine ⟨by rw [nextJob]; exact hgiven, c, stage, ?_, hstage⟩
    rw [job?, jobs]
    exact hjob
  | called c' jobs nextJob =>
    refine ⟨by rw [nextJob]; exact Nat.lt_succ_of_lt hgiven, c, stage, ?_, hstage⟩
    have hcall := p.job?_call c' n
    rw [if_neg (Nat.ne_of_lt hgiven), hjob] at hcall
    rw [job?, jobs]
    exact hcall
  | advanced m advances =>
    rcases advances with rfl | ⟨job, s, next, hm, hgoing, hnext, rfl⟩
    · exact ⟨hgiven, c, stage, hjob, hstage⟩
    by_cases hmn : n = m
    · subst hmn
      rw [hm] at hjob
      cases hjob
      refine ⟨hgiven, c, next, ?_, hstages stage next hstage hgoing hnext⟩
      rw [job?_setStage, job?_withSampler, hm, Option.map_some, if_pos rfl]
    · refine ⟨hgiven, c, stage, ?_, hstage⟩
      rw [job?_setStage, job?_withSampler, hjob, Option.map_some, if_neg hmn]

theorem StageIn.run {stages : Stage → Prop} {n : Nat} {p : Process} (h : p.StageIn stages n)
    (hstages : ∀ stage next : Stage, stages stage → ¬ stage.IsEnded → next ≠ .queued → stages next)
    (actions : List (Outside × Action)) :
    (p.run actions).StageIn stages n :=
  run_invariant (fun _ o a hq => hq.step hstages o a) h actions

/-- **A capture has ended**, with this result. -/
def Finished (n : Nat) (result : Except Failure Captured) : Process → Prop :=
  StageIn (· = .ended result) n

/-- A capture has begun. -/
def Begun (n : Nat) : Process → Prop := StageIn (· ≠ .queued) n

theorem Finished.result {n : Nat} {result : Except Failure Captured} {p : Process}
    (h : p.Finished n result) : p.result? n = some result := by
  obtain ⟨c, stage, hjob, rfl⟩ := h.job
  exact result?_eq_some_iff.2 ⟨c, hjob⟩

/-- **A result is final**: nothing that is done changes it. -/
theorem Finished.run {n : Nat} {result : Except Failure Captured} {p : Process}
    (h : p.Finished n result) (actions : List (Outside × Action)) :
    (p.run actions).Finished n result := by
  refine StageIn.run h ?_ actions
  rintro _ next rfl hgoing -
  exact absurd trivial hgoing

/-- What has begun has begun for good. -/
theorem Begun.run {n : Nat} {p : Process} (h : p.Begun n) (actions : List (Outside × Action)) :
    (p.run actions).Begun n :=
  StageIn.run h (fun _ _ _ _ hnext => hnext) actions

end Process

end ProfilingTargets
