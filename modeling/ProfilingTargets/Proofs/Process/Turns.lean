import ProfilingTargets.Proofs.FileSystem
import ProfilingTargets.Proofs.Process.Ownership

/-!
# What one action can do

Whatever is done to a process, at whatever frequency, changes who owns the sampler in one
of four ways (`Turn`): not at all, or a recording or a capture is granted it, or one of
them gives it back. The log tells which: a grant is announced, and so is the end of
sampling.

## What is proved

* `Held.step`: every action is a turn, and keeps the sampler to one owner at most;
  `held_run`: so does every run.
* `Held.log_balance`: in the log of a run there are as many grants as ends of sampling,
  but for the one that still owns the sampler.
-/

namespace ProfilingTargets.Process

/-! ### The log -/

/-- What is said in the course of an action. -/
def said (p : Process) (o : Outside) : Action → List Log.Event
  | .startRecording name path frequency => (p.startRecording o name path frequency).2.1
  | .startOptional name path? frequency => (p.startOptional o name path? frequency).2.1
  | .finishRecording name => (p.finishRecording o name).2.1
  | .dropRecording name => (p.dropRecording o name).2.1
  | .receive view request => (p.receive view request).2.1
  | .beginJob n => (p.beginJob n).1
  | .completeJob n => (p.completeJob o n).1
  | .answer n => (p.answer n).2.1
  | .call _ | .hangUp _ => []

/-- What is said in the course of some actions. -/
def log (p : Process) : List (Outside × Action) → List Log.Event
  | [] => []
  | (o, a) :: actions => p.said o a ++ (p.step o a).log actions

/-- Whether an event announces that a recording or a capture has started. -/
def announces (event : Log.Event) : Bool :=
  event.message = "cpu profiling started" || event.message = "cpu capture started"

/-- How many starts some events announce, and how many ends of sampling. -/
def tally (events : List Log.Event) : Nat × Nat :=
  (events.countP announces, events.countP (· = Sampler.stopping))

theorem tally_append (before after : List Log.Event) :
    tally (before ++ after) =
      ((tally before).1 + (tally after).1, (tally before).2 + (tally after).2) := by
  simp only [tally, List.countP_append]

theorem tally_starting : tally [Sampler.starting] = (0, 0) := by decide

theorem tally_stopping : tally [Sampler.stopping] = (0, 1) := by decide

theorem tally_started (path : String) (frequency : Int32) :
    tally [Sampler.starting, Recording.started path frequency] = (1, 0) := by
  simp [tally, announces, Recording.started, Sampler.starting, Sampler.stopping]

theorem tally_capture_started (c : Capture) : tally [Sampler.starting, c.started] = (1, 0) := by
  simp [tally, announces, Capture.started, Sampler.starting, Sampler.stopping]

theorem tally_disabled (path : String) (e : Error) :
    tally [Recording.disabled path e] = (0, 0) := by
  simp [tally, announces, Recording.disabled, Sampler.stopping]

theorem tally_writeFailed (path : String) (e : Error) :
    tally [Recording.writeFailed path e] = (0, 0) := by
  simp [tally, announces, Recording.writeFailed, Sampler.stopping]

/-- A recording that is written out announces the end of sampling, and nothing else. -/
theorem tally_writeOut (o : Outside) {r : Recording} (h : r.pending = true) (host : Host) :
    tally (Recording.writeOut o r host).2.1 = (0, 1) := by
  simp only [Recording.writeOut, h, if_true]
  split
  · exact tally_stopping
  · split
    · exact tally_stopping
    · simp [tally, announces, Recording.written, Sampler.stopping]

theorem tally_finish (o : Outside) {r : Recording} (h : r.pending = true) (host : Host) :
    tally (Recording.finish o r host).2.1 = (0, 1) := by
  rw [Recording.finish_eq]
  exact tally_writeOut o h host

/-- So does one that is dropped; that it could not be written is another matter. -/
theorem tally_drop (o : Outside) {r : Recording} (h : r.pending = true) (host : Host) :
    tally (Recording.drop o r host).1 = (0, 1) := by
  have hwritten := tally_writeOut o h host
  simp only [Recording.drop, h, if_true]
  split
  · next heq =>
    rw [heq] at hwritten
    exact hwritten
  · next heq =>
    rw [heq] at hwritten
    rw [tally_append, tally_writeFailed]
    exact hwritten

/-- A start that need not succeed announces what the start does. -/
theorem tally_startOptional (o : Outside) (path : String) (frequency : Int32) (host : Host) :
    tally (Recording.startOptional o (some path) frequency host).2.1 =
      tally (Recording.start o path frequency host).2.1 := by
  simp only [Recording.startOptional]
  split
  · next heq => rw [heq]
  · next heq => rw [heq, tally_append, tally_disabled]; rfl
  · next heq => rw [heq]

/-- Requests that arrive announce nothing. -/
theorem tally_receive (view : Server.View) (request : Http.Request) (p : Process) :
    tally (p.receive view request).2.1 = (0, 0) := by
  unfold receive
  split
  · rfl
  · rfl
  · simp [tally, announces, requested, Sampler.stopping]

/-- Neither do answers. -/
theorem tally_answer (n : Nat) (p : Process) : tally (p.answer n).2.1 = (0, 0) := by
  have hresponse : ∀ result, tally (responseTo result).2 = (0, 0) := by
    intro result
    rcases result with (e | e) | c
    · simp [responseTo, tally, announces, captureFailed, Sampler.stopping]
    · rfl
    · rfl
  unfold answer
  split
  · split
    · exact hresponse _
    · rfl
  · rfl

/-! ### Turns -/

/-- At most, a file has been created. -/
def MayCreate (fs fs' : FileSystem) : Prop :=
  fs' = fs ∨ ∃ path h, fs.create path = .ok (h, fs')

/-- **What one action can do**: nothing about who owns the sampler, or grant it to a
recording or a capture, or end its owner. -/
inductive Turn (p q : Process) (events : List Log.Event) : Prop where
  /-- Nobody is granted the sampler and nobody gives it back, though a recording that does
  not start may create its file, and what breaks off may leave the sampler running. -/
  | still (owners : q.owners = p.owners) (recordings : q.recordings = p.recordings)
    (files : MayCreate p.host.files q.host.files)
    (running : p.host.sampler.running = true → q.host.sampler.running = true)
    (announced : tally events = (0, 0))
  /-- A recording has started, and is the only one. -/
  | recording (name : String) (r : Recording) (idle : p.host.sampler.running = false)
    (free : p.owners = []) (owners : q.owners = [.recording name])
    (recordings : q.recordings = [(name, r)])
    (created : p.host.files.create (Utf8.encode r.path.toList) = .ok (r.file, q.host.files))
    (announced : tally events = (1, 0))
  /-- A capture has started. -/
  | capture (n : Nat) (idle : p.host.sampler.running = false) (free : p.owners = [])
    (owners : q.owners = [.capture n]) (recordings : q.recordings = [])
    (announced : tally events = (1, 0))
  /-- A recording or a capture has ended. -/
  | ended (owner : Owner) (owned : p.owners = [owner]) (owners : q.owners = [])
    (recordings : q.recordings = []) (announced : tally events = (0, 1))

theorem Turn.of_tally {p q : Process} {events events' : List Log.Event} (h : Turn p q events)
    (heq : tally events' = tally events) : Turn p q events' := by
  cases h with
  | still owners recordings files running announced =>
    exact .still owners recordings files running (heq.trans announced)
  | recording name r idle free owners recordings created announced =>
    exact .recording name r idle free owners recordings created (heq.trans announced)
  | capture n idle free owners recordings announced =>
    exact .capture n idle free owners recordings (heq.trans announced)
  | ended owner owned owners recordings announced =>
    exact .ended owner owned owners recordings (heq.trans announced)

theorem Turn.refl (p : Process) : Turn p p [] := .still rfl rfl (.inl rfl) id rfl

theorem create_of_createFile {o : Outside} {path : String} {fs : FileSystem}
    {created : Handle × FileSystem} (h : Recording.createFile o path fs = .ok created) :
    fs.create (Utf8.encode path.toList) = .ok created := by
  unfold Recording.createFile at h
  split at h
  · cases h
  · exact h

/-- A sampler that is not running breaks off at frequency zero, and runs then. -/
theorem beginJob_of_zero {p : Process} {n : Nat} {c : Capture}
    (h : p.job? n = some ⟨c, .queued⟩) (hidle : p.host.sampler.running = false)
    (hzero : c.frequency = 0) :
    p.beginJob n = ([Sampler.starting],
      (p.withSampler { running := true }).setStage n (.ended (.error (.panic .divideByZero)))) := by
  simp only [beginJob, h, Capture.begin, Sampler.start, hidle, Bool.false_eq_true, if_false, hzero,
    if_true]

/-- A recording that need not start leaves the process as one does that has to. -/
theorem startOptional_process (o : Outside) (name path : String) (frequency : Int32)
    (p : Process) :
    (p.startOptional o name (some path) frequency).2.2 =
      (p.startRecording o name path frequency).2.2 := by
  simp only [Process.startOptional, Process.startRecording, Recording.startOptional]
  rcases Recording.start o path frequency p.host with ⟨(e | e) | r, events, host⟩ <;> rfl

namespace Held

variable {p : Process}

theorem startRecording (hp : p.Held) (o : Outside) (name path : String) (frequency : Int32) :
    Turn p (p.startRecording o name path frequency).2.2
        (Recording.start o path frequency p.host).2.1 ∧
      (p.startRecording o name path frequency).2.2.Held := by
  cases hfile : Recording.createFile o path p.host.files with
  | error e =>
    have hstart : Recording.start o path frequency p.host = _ :=
      Recording.start_of_not_created hfile
    rw [startRecording_of_error hstart, hstart]
    exact ⟨.refl p, hp⟩
  | ok created =>
    obtain ⟨file, files⟩ := created
    have hcreate := create_of_createFile hfile
    have hfiles : MayCreate p.host.files files := .inr ⟨_, _, hcreate⟩
    cases hr : p.host.sampler.running with
    | true =>
      have hstart : Recording.start o path frequency p.host = _ :=
        Recording.start_of_running hfile hr
      rw [startRecording_of_error hstart, hstart]
      exact ⟨.still rfl rfl hfiles id tally_starting, hp.withFiles files⟩
    | false =>
      by_cases hzero : frequency = 0
      · subst hzero
        have hstart := Recording.start_of_zero hfile hr
        rw [startRecording_of_error hstart, hstart]
        exact ⟨.still rfl rfl hfiles (fun _ => rfl) tally_starting, hp.withRunning hr files⟩
      · have hstart := Recording.start_of_idle hfile hr hzero
        obtain ⟨howners, hkept, hq⟩ :=
          hp.keep hr files name (r := ⟨path, file, frequency, true⟩) rfl
        rw [startRecording_of_ok hstart, hstart]
        exact ⟨.recording name _ hr (hp.owners_eq_nil hr) howners hkept hcreate
          (tally_started path frequency), hq⟩

/-- The one recording ends, and says so. -/
theorem ended (hp : p.Held) {name : String} {r : Recording} (h : p.recording? name = some r)
    (host : Host) {events : List Log.Event} (htally : tally events = (0, 1)) :
    Turn p { p.withoutRecording name with host := host } events ∧
      Held { p.withoutRecording name with host := host } := by
  obtain ⟨howners, hnone, hq⟩ := hp.withoutRecording h host
  obtain ⟨hrecordings, hcaptures, hpending⟩ := hp.of_recording? h
  have howned : p.owners = [.recording name] :=
    owners_of_recordings hrecordings hcaptures (by simp [Recording.owner?, hpending])
  exact ⟨.ended (.recording name) howned howners hnone htally, hq⟩

theorem finishRecording (hp : p.Held) (o : Outside) (name : String) :
    Turn p (p.finishRecording o name).2.2 (p.finishRecording o name).2.1 ∧
      (p.finishRecording o name).2.2.Held := by
  unfold Process.finishRecording
  split
  · exact ⟨.refl p, hp⟩
  · next r h => exact hp.ended h _ (tally_finish o (hp.of_recording? h).2.2 p.host)

theorem dropRecording (hp : p.Held) (o : Outside) (name : String) :
    Turn p (p.dropRecording o name).2.2 (p.dropRecording o name).2.1 ∧
      (p.dropRecording o name).2.2.Held := by
  unfold Process.dropRecording
  split
  · exact ⟨.refl p, hp⟩
  · next r h => exact hp.ended h _ (tally_drop o (hp.of_recording? h).2.2 p.host)

theorem beginJob (hp : p.Held) (n : Nat) :
    Turn p (p.beginJob n).2 (p.beginJob n).1 ∧ (p.beginJob n).2.Held := by
  by_cases h : ∃ c, p.job? n = some ⟨c, .queued⟩
  · obtain ⟨c, hc⟩ := h
    cases hr : p.host.sampler.running with
    | true =>
      rw [beginJob_of_running hc hr]
      obtain ⟨howners, hq⟩ := hp.refuse hc (.error (.error (.profiler .running)))
      exact ⟨.still howners rfl (.inl rfl) id tally_starting, hq⟩
    | false =>
      by_cases hzero : c.frequency = 0
      · rw [beginJob_of_zero hc hr hzero]
        have hp' := hp.withRunning hr p.host.files
        obtain ⟨howners, hq⟩ := hp'.refuse hc (.error (.panic .divideByZero))
        exact ⟨.still howners rfl (.inl rfl) (fun _ => rfl) tally_starting, hq⟩
      · rw [beginJob_of_idle hc hr hzero]
        obtain ⟨howners, hq⟩ := hp.begin hr hc
        exact ⟨.capture n hr (hp.owners_eq_nil hr) howners (hp.recordings_eq_nil hr)
          (tally_capture_started c), hq⟩
  · rw [beginJob_of_not_queued (not_exists.1 h)]
    exact ⟨.refl p, hp⟩

theorem completeJob (hp : p.Held) (o : Outside) (n : Nat) :
    Turn p (p.completeJob o n).2 (p.completeJob o n).1 ∧ (p.completeJob o n).2.Held := by
  by_cases h : ∃ c, p.job? n = some ⟨c, .sampling⟩
  · obtain ⟨c, hc⟩ := h
    obtain ⟨result, hresult⟩ := completeJob_of_sampling hc o
    rw [hresult]
    obtain ⟨howners, hq⟩ := hp.complete hc result
    exact ⟨.ended (.capture n) (hp.of_sampling hc) howners
      (hp.recordings_of_sampling hc) tally_stopping, hq⟩
  · rw [completeJob_of_not_sampling (not_exists.1 h)]
    exact ⟨.refl p, hp⟩

/-- **Every action is a turn**, and keeps the sampler to one owner at most. -/
theorem step (hp : p.Held) (o : Outside) (a : Action) :
    Turn p (p.step o a) (p.said o a) ∧ (p.step o a).Held := by
  cases a with
  | startRecording name path frequency =>
    obtain ⟨hturn, hq⟩ := hp.startRecording o name path frequency
    refine ⟨hturn.of_tally (congrArg tally ?_), hq⟩
    rw [Process.said, Process.startRecording]
    split <;> next heq => rw [heq]
  | startOptional name path? frequency =>
    cases path? with
    | none => exact ⟨.refl p, hp⟩
    | some path =>
      obtain ⟨hturn, hq⟩ := hp.startRecording o name path frequency
      rw [Process.step, startOptional_process]
      refine ⟨hturn.of_tally ?_, hq⟩
      rw [← tally_startOptional, Process.said, Process.startOptional]
      split <;> next heq => rw [heq]
  | finishRecording name => exact hp.finishRecording o name
  | dropRecording name => exact hp.dropRecording o name
  | call c => exact ⟨.still rfl rfl (.inl rfl) id rfl, hp.call c⟩
  | receive view request =>
    have htally := tally_receive view request p
    rcases p.receive_cases view request with h | ⟨c, -, -, h⟩ <;> rw [Process.step, h]
    · exact ⟨.still rfl rfl (.inl rfl) id htally, hp⟩
    · exact ⟨.still rfl rfl (.inl rfl) id htally, (hp.call c).withRequests _ _⟩
  | beginJob n => exact hp.beginJob n
  | completeJob n => exact hp.completeJob o n
  | answer n =>
    have htally := tally_answer n p
    rcases p.answer_cases n with h | ⟨-, -, -, h⟩ <;> rw [Process.step, h]
    · exact ⟨.still rfl rfl (.inl rfl) id htally, hp⟩
    · exact ⟨.still rfl rfl (.inl rfl) id htally, hp.withRequests _ _⟩
  | hangUp n =>
    rcases p.hangUp_cases n with h | ⟨-, h⟩ <;> rw [Process.step, h]
    · exact ⟨.refl p, hp⟩
    · exact ⟨.still rfl rfl (.inl rfl) id rfl, hp.withRequests _ _⟩

end Held

/-! ### Runs -/

theorem held_start (host : Host) : Held { host := host } :=
  ⟨numbered_start host, by simp, Nat.zero_le _⟩

/-- **At every frequency, the sampler has one owner at most** after every run. -/
theorem held_run (host : Host) (actions : List (Outside × Action)) :
    (({ host := host } : Process).run actions).Held :=
  run_invariant (fun _ o a hp => (hp.step o a).2) (held_start host) actions

/-- An announced start makes an owner, and an announced end unmakes one. -/
theorem Turn.balance {p q : Process} {events : List Log.Event} (h : Turn p q events) :
    (tally events).1 + p.owners.length = (tally events).2 + q.owners.length := by
  cases h with
  | still owners recordings files running announced => rw [announced, owners]
  | recording name r idle free owners recordings created announced =>
    simp [announced, free, owners]
  | capture n idle free owners recordings announced => simp [announced, free, owners]
  | ended owner owned owners recordings announced => simp [announced, owned, owners]

/-- **Sampling ends as often as it starts**, but for the owner that is left: the log of a run
announces as many starts as ends, and one start more while somebody owns the sampler. -/
theorem Held.log_balance {p : Process} (hp : p.Held) (actions : List (Outside × Action)) :
    (tally (p.log actions)).1 + p.owners.length =
      (tally (p.log actions)).2 + (p.run actions).owners.length := by
  induction actions generalizing p with
  | nil => rfl
  | cons head rest ih =>
    obtain ⟨o, a⟩ := head
    obtain ⟨hturn, hq⟩ := hp.step o a
    have hstep := hturn.balance
    have hrest := ih hq
    rw [log, tally_append, run_cons]
    dsimp only
    omega

end ProfilingTargets.Process
