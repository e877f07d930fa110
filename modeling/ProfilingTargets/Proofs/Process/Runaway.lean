import ProfilingTargets.Proofs.Process.Turns

/-!
# What is left of a start that fails

A recording or a capture that fails leaves the sampler as it was, be it that the file
cannot be created, that the sampler is running already, or that no report can be made. It
does not if it breaks off: at frequency zero a sampler that is not running is marked
running, and the division that comes next ends the start. Nobody owns a sampler that runs
away in this manner, so that nobody ever stops it.

## What is proved

* `Attempt.after_of_failed`: an attempt that fails and does not break off leaves the
  sampler as it was; `Attempt.after_of_breaksOff`: one that breaks off leaves it running.
* `Stray.step`, `Stray.run`: a sampler that runs for nobody does so ever after.
* `failures_run`: after every run, a failed attempt leaves the sampler as it was exactly if
  it does not break off; then a later start is granted as it would have been before, and
  otherwise none ever is.
-/

namespace ProfilingTargets

/-! ### Attempts -/

/-- An attempt to have the sampler run. -/
inductive Attempt where
  /-- A recording. -/
  | recording (path : String) (frequency : Int32)
  /-- A recording that need not start. -/
  | optional (path? : Option String) (frequency : Int32)
  /-- A capture that nothing comes in between. -/
  | capture (c : Capture)

namespace Attempt

/-- The attempt makes a recording that goes on, or the result of a capture. -/
def Succeeds (o : Outside) (host : Host) : Attempt → Prop
  | .recording path frequency => ∃ r, (Recording.start o path frequency host).1 = .ok r
  | .optional path? frequency =>
    ∃ r, (Recording.startOptional o path? frequency host).1 = .ok (some r)
  | .capture c => ∃ captured, (c.run o host.sampler).1 = .ok captured

/-- The host after the attempt. -/
def after (o : Outside) (host : Host) : Attempt → Host
  | .recording path frequency => (Recording.start o path frequency host).2.2
  | .optional path? frequency => (Recording.startOptional o path? frequency host).2.2
  | .capture c => { host with sampler := (c.run o host.sampler).2.2 }

/-- The attempt divides by its frequency when it has marked the sampler running: it gets
that far if the sampler is not running, and if its file, if it has one, can be created. -/
def BreaksOff (o : Outside) (host : Host) : Attempt → Prop
  | .recording path frequency | .optional (some path) frequency =>
    frequency = 0 ∧ host.sampler.running = false ∧
      ∃ created, Recording.createFile o path host.files = .ok created
  | .optional none _ => False
  | .capture c => c.frequency = 0 ∧ host.sampler.running = false

end Attempt

theorem Sampler.eq_mk {s : Sampler} {running : Bool} (h : s.running = running) :
    s = { running := running } := by
  cases s
  cases h
  rfl

namespace Recording

variable {o : Outside} {path : String} {frequency : Int32} {host : Host}

/-- A recording starts at a frequency other than zero exactly if its file can be created and
the sampler is not running. -/
theorem start_eq_ok_iff (hfrequency : frequency ≠ 0) {created : Handle × FileSystem}
    (hfile : createFile o path host.files = .ok created) :
    (∃ r, (start o path frequency host).1 = .ok r) ↔ host.sampler.running = false := by
  cases hr : host.sampler.running with
  | true => simp [start_of_running hfile hr]
  | false => simp [start_of_idle hfile hr hfrequency]

/-- A file can still be created where one could be. -/
theorem createFile_of_keeps {fs fs' : FileSystem} (h : fs.Keeps fs')
    {created : Handle × FileSystem} (hfile : createFile o path fs = .ok created) :
    ∃ created', createFile o path fs' = .ok created' := by
  unfold createFile at hfile ⊢
  split at hfile
  · cases hfile
  · exact h.create hfile

end Recording

open Process (MayCreate)

namespace Attempt

variable {o : Outside} {host : Host}

/-! #### Recordings that need not start -/

theorem after_optional (o : Outside) (host : Host) (path : String) (frequency : Int32) :
    (Attempt.optional (some path) frequency).after o host =
      (Attempt.recording path frequency).after o host :=
  Recording.host_startOptional o path frequency host

theorem succeeds_optional_iff (path : String) (frequency : Int32) :
    (Attempt.optional (some path) frequency).Succeeds o host ↔
      (Attempt.recording path frequency).Succeeds o host :=
  exists_congr fun _ => Recording.startOptional_eq_some_iff

/-! #### What fails -/

theorem after_recording_of_failed {path : String} {frequency : Int32}
    (hfailed : ¬ (Attempt.recording path frequency).Succeeds o host)
    (hwhole : ¬ (Attempt.recording path frequency).BreaksOff o host) :
    ((Attempt.recording path frequency).after o host).sampler = host.sampler ∧
      MayCreate host.files ((Attempt.recording path frequency).after o host).files := by
  rw [after]
  cases hfile : Recording.createFile o path host.files with
  | error e =>
    rw [Recording.start_of_not_created hfile]
    exact ⟨rfl, .inl rfl⟩
  | ok created =>
    obtain ⟨file, files⟩ := created
    cases hr : host.sampler.running with
    | true =>
      rw [Recording.start_of_running hfile hr]
      exact ⟨rfl, .inr ⟨_, _, Process.create_of_createFile hfile⟩⟩
    | false =>
      by_cases hzero : frequency = 0
      · exact absurd ⟨hzero, hr, _, hfile⟩ hwhole
      · exact absurd ((Recording.start_eq_ok_iff hzero hfile).2 hr) hfailed

theorem after_capture_of_failed {c : Capture} (hfailed : ¬ (Attempt.capture c).Succeeds o host)
    (hwhole : ¬ (Attempt.capture c).BreaksOff o host) :
    ((Attempt.capture c).after o host).sampler = host.sampler := by
  cases hr : host.sampler.running with
  | true => simp [after, Capture.run, Capture.begin, Sampler.start, hr]
  | false =>
    by_cases hzero : c.frequency = 0
    · exact absurd ⟨hzero, hr⟩ hwhole
    · simp only [Succeeds, after, Capture.run, Capture.begin, Sampler.start, hr,
        Bool.false_eq_true, if_false, hzero, Capture.complete] at hfailed ⊢
      -- the report fails, and the sampler, which had been idle, is stopped
      cases hreport : o.unreported with
      | some e => exact (Sampler.eq_mk hr).symm
      | none => simp [hreport, Except.mapError] at hfailed

/-- **What fails leaves the sampler as it was**, unless it breaks off. -/
theorem after_of_failed {a : Attempt} (hfailed : ¬ a.Succeeds o host)
    (hwhole : ¬ a.BreaksOff o host) :
    (a.after o host).sampler = host.sampler ∧ MayCreate host.files (a.after o host).files := by
  cases a with
  | recording path frequency => exact after_recording_of_failed hfailed hwhole
  | optional path? frequency =>
    cases path? with
    | none => exact ⟨rfl, .inl rfl⟩
    | some path =>
      rw [after_optional]
      rw [succeeds_optional_iff] at hfailed
      exact after_recording_of_failed hfailed hwhole
  | capture c => exact ⟨after_capture_of_failed hfailed hwhole, .inl rfl⟩

theorem after_recording_of_breaksOff {path : String} {frequency : Int32}
    (h : (Attempt.recording path frequency).BreaksOff o host) :
    host.sampler.running = false ∧ ¬ (Attempt.recording path frequency).Succeeds o host ∧
      ∃ files, (Attempt.recording path frequency).after o host = ⟨{ running := true }, files⟩ := by
  obtain ⟨rfl, hr, ⟨file, files⟩, hfile⟩ := h
  rw [Succeeds, after, Recording.start_of_zero hfile hr]
  exact ⟨hr, by simp, files, rfl⟩

/-- **What breaks off fails, and leaves the sampler running.** -/
theorem after_of_breaksOff {a : Attempt} (h : a.BreaksOff o host) :
    host.sampler.running = false ∧ ¬ a.Succeeds o host ∧
      ∃ files, a.after o host = ⟨{ running := true }, files⟩ := by
  cases a with
  | recording path frequency => exact after_recording_of_breaksOff h
  | optional path? frequency =>
    cases path? with
    | none => exact h.elim
    | some path =>
      rw [after_optional, succeeds_optional_iff]
      exact after_recording_of_breaksOff h
  | capture c =>
    obtain ⟨hzero, hr⟩ := h
    refine ⟨hr, ?_, host.files, ?_⟩ <;>
      simp [Succeeds, after, Capture.run, Capture.begin, Sampler.start, hr, hzero]

end Attempt

namespace Process

theorem MayCreate.keeps {fs fs' : FileSystem} (h : MayCreate fs fs') : fs.Keeps fs' := by
  rcases h with rfl | ⟨path, handle, hcreate⟩
  · exact .refl _
  · exact FileSystem.keeps_create hcreate

/-! ### A sampler that runs for nobody -/

/-- **The sampler is running, and nobody owns it.** -/
structure Stray (p : Process) : Prop where
  /-- Whatever owners there are besides, there is one at most. -/
  held : p.Held
  /-- The sampler is running. -/
  running : p.host.sampler.running = true
  /-- Nobody owns it. -/
  free : p.owners = []

/-- **Nothing stops a sampler that runs for nobody.** -/
theorem Stray.step {p : Process} (hp : p.Stray) (o : Outside) (a : Action) :
    (p.step o a).Stray := by
  obtain ⟨hturn, hheld⟩ := hp.held.step o a
  cases hturn with
  | still owners recordings files running announced =>
    exact ⟨hheld, running hp.running, owners.trans hp.free⟩
  | recording name r idle free owners recordings created announced =>
    rw [hp.running] at idle
    cases idle
  | capture n idle free owners recordings announced =>
    rw [hp.running] at idle
    cases idle
  | ended owner owned owners recordings announced =>
    rw [hp.free] at owned
    cases owned

theorem Stray.run {p : Process} (hp : p.Stray) (actions : List (Outside × Action)) :
    (p.run actions).Stray := by
  have hstep : ∀ (q : Process) (o : Outside) (a : Action), q.Stray → (q.step o a).Stray :=
    fun _ o a hq => hq.step o a
  exact run_invariant hstep hp actions

/-- **Every start is refused**, although nobody owns the sampler. -/
structure Refuses (p : Process) : Prop where
  /-- The sampler is running. -/
  running : p.host.sampler.running = true
  /-- Nobody owns it. -/
  free : p.owners = []
  /-- A recording whose file can be created is refused, at every frequency. -/
  startRecording : ∀ o name path frequency created,
    Recording.createFile o path p.host.files = .ok created →
    (p.startRecording o name path frequency).1 = .error (.error (.profiler .running))
  /-- One that need not start does not. -/
  startOptional : ∀ o name path? frequency, (p.startOptional o name path? frequency).1 = .ok none
  /-- A capture is refused. -/
  beginJob : ∀ n c, p.job? n = some ⟨c, .queued⟩ →
    (p.beginJob n).2.result? n = some (.error (.error (.profiler .running)))

theorem Stray.refuses {p : Process} (hp : p.Stray) : p.Refuses := by
  refine ⟨hp.running, hp.free, ?_, ?_, ?_⟩
  · intro o name path frequency created hfile
    rw [startRecording_of_error (Recording.start_of_running hfile hp.running)]
  · intro o name path? frequency
    cases path? with
    | none => rfl
    | some path =>
      cases hfile : Recording.createFile o path p.host.files with
      | error e =>
        rw [startOptional_of_none
          (Recording.startOptional_of_error (Recording.start_of_not_created hfile))]
      | ok created =>
        rw [startOptional_of_none
          (Recording.startOptional_of_error (Recording.start_of_running hfile hp.running))]
  · intro n c h
    rw [beginJob_of_running h hp.running]
    exact result?_eq_some_iff.2 ⟨c, job?_setStage_self h _⟩

theorem Held.stray {p : Process} (hp : p.Held) {a : Attempt} {o : Outside}
    (h : a.BreaksOff o p.host) : Stray { p with host := a.after o p.host } := by
  obtain ⟨hidle, -, files, hafter⟩ := Attempt.after_of_breaksOff h
  rw [hafter]
  exact ⟨hp.withRunning hidle files, rfl, hp.owners_eq_nil hidle⟩

/-! ### Failures -/

/-- **What failed attempts leave** of a process. -/
structure Failures (p : Process) : Prop where
  /-- What fails leaves the sampler as it was exactly if it does not break off. -/
  running_iff : ∀ (a : Attempt) o, ¬ a.Succeeds o p.host →
    ((a.after o p.host).sampler.running = p.host.sampler.running ↔ ¬ a.BreaksOff o p.host)
  /-- A later start, with a file that can be created, is then granted exactly if it would
  have been before. -/
  later : ∀ (a : Attempt) o, ¬ a.Succeeds o p.host → ¬ a.BreaksOff o p.host →
    ∀ o' path frequency created, frequency ≠ 0 →
      Recording.createFile o' path p.host.files = .ok created →
      ((Attempt.recording path frequency).Succeeds o' (a.after o p.host) ↔
        (Attempt.recording path frequency).Succeeds o' p.host)
  /-- What breaks off fails on an idle sampler, and no start is ever granted again. -/
  breaksOff : ∀ (a : Attempt) o, a.BreaksOff o p.host →
    ¬ a.Succeeds o p.host ∧ p.host.sampler.running = false ∧
      ∀ actions, (({ p with host := a.after o p.host } : Process).run actions).Refuses
  /-- A capture that others come in between is no different when it does not begin. -/
  refused : ∀ n c, p.job? n = some ⟨c, .queued⟩ →
    (p.beginJob n).2.job? n ≠ some ⟨c, .sampling⟩ →
    ((p.beginJob n).2.host.sampler.running = p.host.sampler.running ↔
      ¬ (c.frequency = 0 ∧ p.host.sampler.running = false))
  /-- When it has begun, and ends at last, with a result or without, the sampler is as it
  was, whatever was done in between. -/
  ended : ∀ n c, p.job? n = some ⟨c, .queued⟩ → (p.beginJob n).2.job? n = some ⟨c, .sampling⟩ →
    ∀ actions o, ((p.beginJob n).2.run actions).job? n = some ⟨c, .sampling⟩ →
      (((p.beginJob n).2.run actions).completeJob o n).2.host.sampler.running =
        p.host.sampler.running

theorem sampling_of_beginJob {p : Process} {n : Nat} {c : Capture}
    (h : p.job? n = some ⟨c, .queued⟩) (hidle : p.host.sampler.running = false)
    (hfrequency : c.frequency ≠ 0) : (p.beginJob n).2.job? n = some ⟨c, .sampling⟩ := by
  rw [beginJob_of_idle h hidle hfrequency]
  exact job?_setStage_self h .sampling

/-- A capture begins on an idle sampler only. -/
theorem idle_of_sampling {p : Process} {n : Nat} {c : Capture}
    (h : p.job? n = some ⟨c, .queued⟩)
    (hbegun : (p.beginJob n).2.job? n = some ⟨c, .sampling⟩) : p.host.sampler.running = false := by
  cases hr : p.host.sampler.running with
  | false => rfl
  | true =>
    rw [beginJob_of_running h hr, job?_setStage_self h] at hbegun
    cases hbegun

/-- **Failures leave what they found**, but for those that break off. -/
theorem Held.failures {p : Process} (hp : p.Held) : p.Failures := by
  constructor
  case running_iff =>
    intro a o hfailed
    constructor
    · intro hsame hbroken
      obtain ⟨hidle, -, files, hafter⟩ := Attempt.after_of_breaksOff hbroken
      rw [hafter, hidle] at hsame
      cases hsame
    · intro hwhole
      rw [(Attempt.after_of_failed hfailed hwhole).1]
  case later =>
    intro a o hfailed hwhole o' path frequency created hfrequency hfile
    obtain ⟨hsampler, hfiles⟩ := Attempt.after_of_failed hfailed hwhole
    obtain ⟨created', hfile'⟩ := Recording.createFile_of_keeps hfiles.keeps hfile
    rw [Attempt.Succeeds, Attempt.Succeeds, Recording.start_eq_ok_iff hfrequency hfile',
      Recording.start_eq_ok_iff hfrequency hfile, hsampler]
  case breaksOff =>
    intro a o hbroken
    obtain ⟨hidle, hfailed, -⟩ := Attempt.after_of_breaksOff hbroken
    exact ⟨hfailed, hidle, fun actions => ((hp.stray hbroken).run actions).refuses⟩
  case refused =>
    intro n c h hrefused
    cases hr : p.host.sampler.running with
    | true => simp [beginJob_of_running h hr, hr]
    | false =>
      by_cases hzero : c.frequency = 0
      · simp [beginJob_of_zero h hr hzero, hzero]
      · exact absurd (sampling_of_beginJob h hr hzero) hrefused
  case ended =>
    intro n c h hbegun actions o hsampling
    obtain ⟨result, hresult⟩ := completeJob_of_sampling hsampling o
    rw [hresult, idle_of_sampling h hbegun]
    rfl

/-- **A start that fails leaves the sampler as it was**, after whatever else has been done to
the process, exactly if it does not break off at frequency zero; if it does, nothing that is
done later gets the sampler to start again. -/
theorem failures_run (host : Host) (actions : List (Outside × Action)) :
    (({ host := host } : Process).run actions).Failures :=
  (held_run host actions).failures

/-- A recording at frequency zero is no recording, and yet the next one is refused that would
have started before. -/
theorem refused_after_zero :
    let host : Host := { files := ⟨[], []⟩ }
    let broken : Attempt := .recording "a.prof" 0
    let next : Attempt := .recording "b.prof" 100
    host.sampler.running = false ∧ ¬ broken.Succeeds {} host ∧
      (broken.after {} host).sampler.running = true ∧ next.Succeeds {} host ∧
      ¬ next.Succeeds {} (broken.after {} host) := by
  intro host broken next
  have hcreated : ∃ created, Recording.createFile {} "a.prof" host.files = .ok created :=
    ⟨_, rfl⟩
  have hbroken : broken.BreaksOff {} host := ⟨rfl, rfl, hcreated⟩
  obtain ⟨hidle, hfailed, files, hafter⟩ := Attempt.after_of_breaksOff hbroken
  refine ⟨rfl, hfailed, by rw [hafter], ⟨_, rfl⟩, ?_⟩
  rintro ⟨r, hr⟩
  have hrefused : (Recording.start {} "b.prof" 100 (broken.after {} host)).1 =
      .error (.error (.profiler .running)) := by decide +kernel
  rw [hrefused] at hr
  cases hr

end Process

end ProfilingTargets
