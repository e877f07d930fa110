import ProfilingTargets.Proofs.Process.Turns

/-!
# Profiles are written once, and completely

The file of a recording is empty from its start to its end, whatever else is started in
the meantime: a start that is refused empties the file of its path once more, and while a
recording goes on every other start is refused. The end of the recording is the one time
that something is written through its handle, so that the file then holds the profile and
nothing else.

## What is proved

* `Ready.turn`, `ready_run`: after every run, the file of every recording is ready.
* `endings_run`: after every run, a recording that is finished with success has filled its
  file with its profile; one that is dropped does the same, and only logs what finishing
  it would have reported; neither can be done again; and the log announces as many ends
  of sampling as starts.
-/

namespace ProfilingTargets.Process

/-! ### Files -/

/-- The file of every recording is ready. -/
def Ready (p : Process) : Prop := ∀ entry ∈ p.recordings, entry.2.Opened p.host.files

/-- **Whatever is done**, the files of recordings stay ready. -/
theorem Ready.turn {p q : Process} {events : List Log.Event} (hp : p.Ready)
    (h : Turn p q events) : q.Ready := by
  cases h with
  | still owners recordings files running announced =>
    intro entry hentry
    rw [recordings] at hentry
    rcases files with heq | ⟨path, handle, hcreate⟩
    · rw [heq]
      exact hp entry hentry
    · exact (hp entry hentry).create hcreate
  | recording name r idle free owners recordings created announced =>
    intro entry hentry
    rw [recordings, List.mem_singleton] at hentry
    rw [hentry]
    exact Recording.opened_of_create created
  | capture n idle free owners recordings announced =>
    intro entry hentry
    rw [recordings] at hentry
    cases hentry
  | ended owner owned owners recordings announced =>
    intro entry hentry
    rw [recordings] at hentry
    cases hentry

theorem ready_run (host : Host) (actions : List (Outside × Action)) :
    (({ host := host } : Process).run actions).Held ∧
      (({ host := host } : Process).run actions).Ready := by
  have hstep : ∀ (p : Process) (o : Outside) (a : Action),
      p.Held ∧ p.Ready → (p.step o a).Held ∧ (p.step o a).Ready := by
    rintro p o a ⟨hheld, hready⟩
    obtain ⟨hturn, hq⟩ := hheld.step o a
    exact ⟨hq, hready.turn hturn⟩
  have hstart : Ready { host := host } := by
    intro entry hentry
    cases hentry
  exact run_invariant hstep ⟨held_start host, hstart⟩ actions

theorem Ready.opened {p : Process} (hp : p.Ready) {name : String} {r : Recording}
    (h : p.recording? name = some r) : r.Opened p.host.files := by
  obtain ⟨before, after, heq, -⟩ := List.lookup_eq_some_iff.1 h
  have hentry : (name, r) ∈ p.recordings := by simp [heq]
  exact hp (name, r) hentry

/-! ### Ends -/

section

variable {p : Process} {name : String} {r : Recording}

/-- A recording that is finished is written out. -/
theorem finishRecording_eq (h : p.recording? name = some r) (o : Outside) :
    p.finishRecording o name =
      (some (r.writeOut o p.host).1, (r.writeOut o p.host).2.1,
        { p.withoutRecording name with host := (r.writeOut o p.host).2.2.2 }) := by
  simp only [finishRecording, h, Recording.finish_eq]

theorem dropRecording_eq (h : p.recording? name = some r) (o : Outside) :
    p.dropRecording o name = (true, (r.drop o p.host).1,
      { p.withoutRecording name with host := (r.drop o p.host).2 }) := by
  simp only [dropRecording, h]

/-- A recording that is dropped leaves the process as one does that is finished. -/
theorem dropRecording_process (h : p.recording? name = some r) (hpending : r.pending = true)
    (o : Outside) : (p.dropRecording o name).2.2 = (p.finishRecording o name).2.2 := by
  rw [finishRecording_eq h, dropRecording_eq h]
  cases hresult : (r.writeOut o p.host).1 with
  | error e => rw [Recording.drop_of_error hpending hresult]
  | ok w => rw [Recording.drop_of_ok hpending hresult]

theorem finishRecording_of_none (h : p.recording? name = none) (o : Outside) :
    p.finishRecording o name = (none, [], p) := by
  simp only [finishRecording, h]

theorem dropRecording_of_none (h : p.recording? name = none) (o : Outside) :
    p.dropRecording o name = (false, [], p) := by
  simp only [dropRecording, h]

theorem recording?_withoutRecording (p : Process) (name : String) (host : Host) :
    ({ p.withoutRecording name with host := host } : Process).recording? name = none := by
  rw [recording?, List.lookup_eq_none_iff]
  intro entry hentry
  simp only [withoutRecording, List.mem_filter, bne_iff_ne] at hentry
  exact bne_iff_ne.2 (Ne.symm hentry.2)

end

/-- **A recording is written once, and completely**: what finishing it and dropping it do. -/
structure Endings (p : Process) : Prop where
  /-- A recording that is finished with success has a profile of at least one byte, and its
  file holds that profile and nothing else. -/
  finished : ∀ o name r w, p.recording? name = some r →
    (p.finishRecording o name).1 = some (.ok w) →
    w.profile = r.profile o ∧ 0 < w.bytes ∧ w.bytes = w.profile.encode.length ∧
      (p.finishRecording o name).2.2.host.files.find (Utf8.encode r.path.toList) =
        .ok (.file w.profile.encode)
  /-- It is finished with success exactly if its path is that of a file and the world has
  nothing against it. -/
  succeeds : ∀ o name r, p.recording? name = some r →
    ((∃ w, (p.finishRecording o name).1 = some (.ok w)) ↔
      o.Permits ∧ ∃ content,
        p.host.files.find (Utf8.encode r.path.toList) = .ok (.file content))
  /-- Dropped, it leaves all as if it had been finished, -/
  dropped : ∀ o name, (p.dropRecording o name).2.2 = (p.finishRecording o name).2.2
  /-- and says no more if it could be written. -/
  quiet : ∀ o name r w, p.recording? name = some r →
    (p.finishRecording o name).1 = some (.ok w) →
    p.dropRecording o name = (true, (p.finishRecording o name).2)
  /-- If it could not, dropping it logs one error; finishing it, which returns the error,
  logs none. -/
  failed : ∀ o name r e, p.recording? name = some r →
    (p.finishRecording o name).1 = some (.error e) →
    (p.finishRecording o name).2.1 = [Sampler.stopping] ∧
      (p.dropRecording o name).1 = true ∧
      (p.dropRecording o name).2.1 = [Sampler.stopping, Recording.writeFailed r.path e]
  /-- What is left of it when it has been written out, with success or without, says and
  does nothing when it is dropped, whoever has the sampler by then. -/
  inert : ∀ o (r : Recording) o' host',
    (r.writeOut o p.host).2.2.1.drop o' host' = ([], host')
  /-- It can neither be finished nor dropped again. -/
  once : ∀ o name o', (p.finishRecording o name).2.2.finishRecording o' name =
      (none, [], (p.finishRecording o name).2.2) ∧
    (p.finishRecording o name).2.2.dropRecording o' name =
      (false, [], (p.finishRecording o name).2.2)

/-- **Recordings whose files are ready end well.** -/
theorem Held.endings {p : Process} (hp : p.Held) (hready : p.Ready) : p.Endings := by
  have hpending : ∀ {name r}, p.recording? name = some r → r.pending = true :=
    fun h => (hp.of_recording? h).2.2
  constructor
  case finished =>
    intro o name r w h hw
    rw [finishRecording_eq h] at hw ⊢
    have hopen := hready.opened h
    obtain ⟨ho, hfile⟩ :=
      Recording.permits_of_writeOut (hpending h) hopen (Option.some.inj hw)
    have hvacant : p.host.files.Vacant r.file.location := .inr ⟨[], hfile⟩
    rw [Recording.writeOut_of_permits ho (hpending h) hopen hfile] at hw ⊢
    cases hw
    refine ⟨rfl, List.length_pos_iff.2 (Profile.encode_ne_nil _), rfl, ?_⟩
    exact FileSystem.find_of_leadsTo (hopen.leads.keeps (FileSystem.keeps_put hvacant _))
      (FileSystem.at?_put_self hvacant _)
  case succeeds =>
    intro o name r h
    have hopen := hready.opened h
    rw [finishRecording_eq h, hopen.find_eq_file_iff]
    constructor
    · rintro ⟨w, hw⟩
      exact Recording.permits_of_writeOut (hpending h) hopen (Option.some.inj hw)
    · rintro ⟨ho, hfile⟩
      exact ⟨_, by rw [Recording.writeOut_of_permits ho (hpending h) hopen hfile]⟩
  case dropped =>
    intro o name
    cases h : p.recording? name with
    | none => rw [dropRecording_of_none h, finishRecording_of_none h]
    | some r => exact dropRecording_process h (hpending h) o
  case quiet =>
    intro o name r w h hw
    rw [finishRecording_eq h] at hw ⊢
    rw [dropRecording_eq h, Recording.drop_of_ok (hpending h) (Option.some.inj hw)]
  case failed =>
    intro o name r e h he
    rw [finishRecording_eq h] at he ⊢
    have hevents := Recording.events_writeOut_of_error (hpending h) (Option.some.inj he)
    rw [dropRecording_eq h, Recording.drop_of_error (hpending h) (Option.some.inj he)]
    exact ⟨hevents, rfl, by rw [hevents]; rfl⟩
  case inert =>
    intro o r o' host'
    exact Recording.drop_of_not_pending (Recording.pending_writeOut o r p.host)
  case once =>
    intro o name o'
    have hgone : (p.finishRecording o name).2.2.recording? name = none := by
      cases h : p.recording? name with
      | none => rw [finishRecording_of_none h, h]
      | some r =>
        rw [finishRecording_eq h]
        exact recording?_withoutRecording p name _
    exact ⟨finishRecording_of_none hgone o', dropRecording_of_none hgone o'⟩

/-- **Profiles are written once, and completely**: whatever recordings have been started,
finished and dropped before, and whatever their files held, a recording that is finished
with success fills its file with its profile, dropping it does the same, and neither can be
done twice. All along, sampling has ended as often as it has started, but for the owner that
is left. -/
theorem endings_run (host : Host) (actions : List (Outside × Action)) :
    (({ host := host } : Process).run actions).Endings ∧
      (({ host := host } : Process).run actions).owners.length ≤ 1 ∧
      (tally (log { host := host } actions)).1 =
        (tally (log { host := host } actions)).2 +
          (({ host := host } : Process).run actions).owners.length := by
  obtain ⟨hheld, hready⟩ := ready_run host actions
  exact ⟨hheld.endings hready, hheld.length_owners_le, (held_start host).log_balance actions⟩

/-- A file that was longer before, and that a refused start has emptied again in the
meantime, holds the profile alone. -/
example :
    let path := "cpu.prof"
    let old : Bytes := List.replicate 100 0x2A
    let host : Host := { files := ⟨[([Utf8.encode path.toList], .file old)], []⟩ }
    let actions : List (Outside × Action) :=
      [({}, .startRecording "a" path 100), ({}, .startRecording "b" path 100),
        ({}, .finishRecording "a")]
    (({ host := host } : Process).run actions).host.files.find (Utf8.encode path.toList) =
      .ok (.file (Profile.encode ⟨100, 0, ⟨0⟩, {}⟩)) := by
  decide +kernel

end ProfilingTargets.Process
