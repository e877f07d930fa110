import ProfilingTargets.Proofs.Process.Jobs
import ProfilingTargets.Proofs.Recording

/-!
# Who keeps the sampler running

The sampler runs for an owner: a recording that has not ended, or a capture that is
sampling, whether or not anybody still waits for it. This module proves that the
sampler is running exactly while it has an owner, and that it never has two.

## What is proved

* `Held`: whatever the frequencies, the sampler runs for whoever owns it, and nobody owns
  it besides.
* `Owned.step`: at frequencies other than zero, every action keeps the invariant
  `Owned`, which ties the owners to the sampler; `owned_run`: so does every run.
* `exclusive_run`: after every run the sampler has at most one owner and runs exactly
  for it; a start is granted exactly if there is no owner and else leaves the owner
  alone; the end of a recording, good or bad, leaves the sampler idle.
-/

namespace ProfilingTargets

/-- Who keeps the sampler running. -/
inductive Owner where
  /-- The recording of a name. -/
  | recording (name : String)
  /-- The capture of a number. -/
  | capture (n : Nat)
  deriving DecidableEq

/-- A recording owns the sampler until it has ended. -/
def Recording.owner? (name : String) (r : Recording) : Option Owner :=
  if r.pending then some (.recording name) else none

/-- A capture owns the sampler while it samples. -/
def Stage.owner? (n : Nat) : Stage → Option Owner
  | .sampling => some (.capture n)
  | _ => none

namespace Process

/-- The owners among the recordings. -/
def recordingOwners (p : Process) : List Owner :=
  p.recordings.filterMap fun entry => entry.2.owner? entry.1

/-- The owners among the captures. -/
def captureOwners (p : Process) : List Owner :=
  p.jobs.filterMap fun entry => entry.2.stage.owner? entry.1

/-- The owners of the sampler. -/
def owners (p : Process) : List Owner := p.recordingOwners ++ p.captureOwners

/-- **The sampler is running for whoever owns it**, and has no second owner. -/
structure Held (p : Process) : Prop where
  /-- Every capture has a number of its own. -/
  numbered : p.Numbered
  /-- No recording is kept beyond its end. -/
  pending : ∀ entry ∈ p.recordings, entry.2.pending = true
  /-- A sampler that runs has one owner at most, and one that does not has none. -/
  owners_le : p.owners.length ≤ p.host.sampler.running.toNat

/-- **The sampler is running exactly while it has an owner, and has no second one.** -/
structure Owned (p : Process) : Prop where
  /-- Every capture has a number of its own. -/
  numbered : p.Numbered
  /-- No recording is kept beyond its end. -/
  pending : ∀ entry ∈ p.recordings, entry.2.pending = true
  /-- No capture is asked for at frequency zero. -/
  paced : ∀ n c, p.job? n = some ⟨c, .queued⟩ → c.frequency ≠ 0
  /-- A sampler that runs has one owner, and one that does not has none. -/
  owners : p.owners.length = p.host.sampler.running.toNat

theorem Owned.held {p : Process} (hp : p.Owned) : p.Held :=
  ⟨hp.numbered, hp.pending, Nat.le_of_eq hp.owners⟩

/-! ### Owners -/

/-- Where no capture owns the sampler, the owners are those among the recordings. -/
theorem owners_of_recordings {p : Process} {recordings : List (String × Recording)}
    {owners : List Owner} (hrecordings : p.recordings = recordings)
    (hcaptures : p.captureOwners = [])
    (howners : (recordings.filterMap fun entry => entry.2.owner? entry.1) = owners) :
    p.owners = owners := by
  rw [Process.owners, recordingOwners, hrecordings, howners, hcaptures, List.append_nil]

/-- **A capture that changes its stage changes nobody's ownership but its own.** -/
theorem Numbered.captureOwners_setStage {p : Process} (hp : p.Numbered) {n : Nat} {job : Job}
    (h : p.job? n = some job) :
    ∃ before after, p.captureOwners = before ++ ((job.stage.owner? n).toList ++ after) ∧
      ∀ stage, (p.setStage n stage).captureOwners =
        before ++ ((stage.owner? n).toList ++ after) := by
  have hcons : ∀ (entry : Nat × Job) (rest : List (Nat × Job)),
      (entry :: rest).filterMap (fun entry => entry.2.stage.owner? entry.1) =
        (entry.2.stage.owner? entry.1).toList ++
          rest.filterMap (fun entry => entry.2.stage.owner? entry.1) := by
    intro entry rest
    cases hentry : entry.2.stage.owner? entry.1 <;> simp [hentry]
  obtain ⟨before, after, heq, hset⟩ := hp.split h
  refine ⟨before.filterMap fun entry => entry.2.stage.owner? entry.1,
    after.filterMap fun entry => entry.2.stage.owner? entry.1, ?_, fun stage => ?_⟩
  · simp only [captureOwners, heq, List.filterMap_append, hcons]
  · simp only [captureOwners, hset, List.filterMap_append, hcons]

namespace Held

variable {p : Process}

theorem owners_eq_nil (hp : p.Held) (hidle : p.host.sampler.running = false) :
    p.owners = [] := by
  have hle := hp.owners_le
  rw [hidle] at hle
  exact List.eq_nil_of_length_eq_zero (Nat.le_zero.1 hle)

theorem length_owners_le (hp : p.Held) : p.owners.length ≤ 1 :=
  Nat.le_trans hp.owners_le (Bool.toNat_le _)

/-- Every recording owns the sampler. -/
theorem recordings_eq_nil_of_owners (hp : p.Held) (hnone : p.recordingOwners = []) :
    p.recordings = [] := by
  cases hr : p.recordings with
  | nil => rfl
  | cons entry rest =>
    have hpending := hp.pending entry (by simp [hr])
    simp [recordingOwners, hr, Recording.owner?, hpending] at hnone

/-- Without an owner there is no recording. -/
theorem recordings_eq_nil (hp : p.Held) (hidle : p.host.sampler.running = false) :
    p.recordings = [] :=
  hp.recordings_eq_nil_of_owners (List.append_eq_nil_iff.1 (hp.owners_eq_nil hidle)).1

/-- **A recording that has not ended is all there is**: there is no other recording, and
no capture samples. -/
theorem of_recording? (hp : p.Held) {name : String} {r : Recording}
    (h : p.recording? name = some r) :
    p.recordings = [(name, r)] ∧ p.captureOwners = [] ∧ r.pending = true := by
  obtain ⟨before, after, heq, -⟩ := List.lookup_eq_some_iff.1 h
  have hpending : ∀ entry ∈ p.recordings, entry.2.owner? entry.1 = some (.recording entry.1) :=
    fun entry hentry => by simp [Recording.owner?, hp.pending entry hentry]
  have hcount : p.recordingOwners.length = p.recordings.length := by
    rw [recordingOwners, List.filterMap_congr hpending]
    simp
  have hle := hp.length_owners_le
  rw [Process.owners, List.length_append, hcount, heq] at hle
  simp only [List.length_append, List.length_cons] at hle
  obtain rfl : before = [] := List.eq_nil_of_length_eq_zero (by omega)
  obtain rfl : after = [] := List.eq_nil_of_length_eq_zero (by omega)
  refine ⟨heq, List.eq_nil_of_length_eq_zero (by omega), hp.pending (name, r) ?_⟩
  simp [heq]

/-- **A capture that samples is all there is**: no recording goes on, and at whatever stage
the capture gets to, no other capture samples. -/
theorem captureOwners_setStage_of_sampling (hp : p.Held) {n : Nat} {c : Capture}
    (h : p.job? n = some ⟨c, .sampling⟩) :
    p.recordingOwners = [] ∧ p.captureOwners = [.capture n] ∧
      ∀ stage, (p.setStage n stage).captureOwners = (stage.owner? n).toList := by
  obtain ⟨before, after, heq, hset⟩ := hp.numbered.captureOwners_setStage h
  have hle := hp.length_owners_le
  rw [Process.owners, heq] at hle
  simp only [Stage.owner?, Option.toList, List.length_append, List.length_cons,
    List.length_nil] at hle
  have hrecordings : p.recordingOwners = [] := List.eq_nil_of_length_eq_zero (by omega)
  obtain rfl : before = [] := List.eq_nil_of_length_eq_zero (by omega)
  obtain rfl : after = [] := List.eq_nil_of_length_eq_zero (by omega)
  refine ⟨hrecordings, heq, fun stage => ?_⟩
  rw [hset, List.nil_append, List.append_nil]

/-- A capture that samples is the only owner. -/
theorem of_sampling (hp : p.Held) {n : Nat} {c : Capture}
    (h : p.job? n = some ⟨c, .sampling⟩) : p.owners = [.capture n] := by
  obtain ⟨hrecordings, hcaptures, -⟩ := hp.captureOwners_setStage_of_sampling h
  rw [Process.owners, hrecordings, hcaptures, List.nil_append]

/-- While a capture samples there is no recording. -/
theorem recordings_of_sampling (hp : p.Held) {n : Nat} {c : Capture}
    (h : p.job? n = some ⟨c, .sampling⟩) : p.recordings = [] :=
  hp.recordings_eq_nil_of_owners (hp.captureOwners_setStage_of_sampling h).1

end Held

theorem Owned.owners_eq_nil_iff {p : Process} (hp : p.Owned) :
    p.owners = [] ↔ p.host.sampler.running = false := by
  constructor
  · intro h
    have hlength := hp.owners
    rw [h] at hlength
    cases hr : p.host.sampler.running
    · rfl
    · simp [hr] at hlength
  · exact hp.held.owners_eq_nil

/-- A capture that samples is the only owner, and the sampler runs for it. -/
theorem Owned.of_sampling {p : Process} (hp : p.Owned) {n : Nat} {c : Capture}
    (h : p.job? n = some ⟨c, .sampling⟩) :
    p.owners = [.capture n] ∧ p.host.sampler.running = true := by
  have howners := hp.held.of_sampling h
  refine ⟨howners, ?_⟩
  have hlength := hp.owners
  rw [howners] at hlength
  cases hr : p.host.sampler.running
  · simp [hr] at hlength
  · rfl

/-! ### What starts and ends do to the owners -/

section

variable {o : Outside} {name path : String} {frequency : Int32} {p : Process}
  {failure : Failure} {r : Recording} {events : List Log.Event} {host : Host}

theorem startRecording_of_error
    (h : Recording.start o path frequency p.host = (.error failure, events, host)) :
    p.startRecording o name path frequency = (.error failure, events, { p with host := host }) := by
  simp only [startRecording, h]

theorem startRecording_of_ok
    (h : Recording.start o path frequency p.host = (.ok r, events, host)) :
    p.startRecording o name path frequency =
      (.ok r, events, { p with host := host }.keep name r) := by
  simp only [startRecording, h]

theorem startOptional_of_none {path? : Option String}
    (h : Recording.startOptional o path? frequency p.host = (.ok none, events, host)) :
    p.startOptional o name path? frequency = (.ok none, events, { p with host := host }) := by
  simp only [startOptional, h]

theorem startOptional_of_some {path? : Option String}
    (h : Recording.startOptional o path? frequency p.host = (.ok (some r), events, host)) :
    p.startOptional o name path? frequency =
      (.ok (some r), events, { p with host := host }.keep name r) := by
  simp only [startOptional, h]

end

namespace Held

variable {p : Process}

/-- The files have no part in this. -/
theorem withFiles (hp : p.Held) (files : FileSystem) :
    Held { p with host := ⟨p.host.sampler, files⟩ } :=
  ⟨⟨hp.numbered.nodup, hp.numbered.fresh⟩, hp.pending, hp.owners_le⟩

/-- The requests that wait have no part in this. -/
theorem withRequests (hp : p.Held) (waiting : List Nat) (locked : Bool) :
    Held { p with waiting := waiting, locked := locked } :=
  ⟨⟨hp.numbered.nodup, hp.numbered.fresh⟩, hp.pending, hp.owners_le⟩

/-- A sampler may run for nobody. -/
theorem withRunning (hp : p.Held) (hidle : p.host.sampler.running = false)
    (files : FileSystem) : Held { p with host := ⟨{ running := true }, files⟩ } := by
  refine ⟨⟨hp.numbered.nodup, hp.numbered.fresh⟩, hp.pending, ?_⟩
  have howners : ({ p with host := ⟨{ running := true }, files⟩ } : Process).owners = [] :=
    hp.owners_eq_nil hidle
  rw [howners]
  exact Nat.zero_le _

/-- A recording that starts on an idle sampler is its one owner. -/
theorem keep (hp : p.Held) (hidle : p.host.sampler.running = false) (files : FileSystem)
    (name : String) {r : Recording} (hr : r.pending = true) :
    ({ p with host := ⟨{ running := true }, files⟩ }.keep name r).owners = [.recording name] ∧
      ({ p with host := ⟨{ running := true }, files⟩ }.keep name r).recordings = [(name, r)] ∧
      ({ p with host := ⟨{ running := true }, files⟩ }.keep name r).Held := by
  have hrecordings := hp.recordings_eq_nil hidle
  have hcaptures : p.captureOwners = [] := (List.append_eq_nil_iff.1 (hp.owners_eq_nil hidle)).2
  have hkept : ({ p with host := ⟨{ running := true }, files⟩ }.keep name r).recordings =
      [(name, r)] := by
    simp [Process.keep, Process.withoutRecording, hrecordings]
  have howners : ({ p with host := ⟨{ running := true }, files⟩ }.keep name r).owners =
      [.recording name] :=
    owners_of_recordings hkept hcaptures (by simp [Recording.owner?, hr])
  refine ⟨howners, hkept, ⟨hp.numbered.nodup, hp.numbered.fresh⟩, ?_, by rw [howners]; exact Nat.le_refl _⟩
  intro entry hentry
  rw [hkept, List.mem_singleton] at hentry
  rw [hentry]
  exact hr

/-- The end of the one recording leaves no owner. -/
theorem withoutRecording (hp : p.Held) {name : String} {r : Recording}
    (h : p.recording? name = some r) (host : Host) :
    ({ p.withoutRecording name with host := host } : Process).owners = [] ∧
      ({ p.withoutRecording name with host := host } : Process).recordings = [] ∧
      Held { p.withoutRecording name with host := host } := by
  obtain ⟨hrecordings, hcaptures, -⟩ := hp.of_recording? h
  have hnone : ({ p.withoutRecording name with host := host } : Process).recordings = [] := by
    simp [Process.withoutRecording, hrecordings]
  have howners : ({ p.withoutRecording name with host := host } : Process).owners = [] :=
    owners_of_recordings hnone hcaptures rfl
  refine ⟨howners, hnone, ⟨hp.numbered.nodup, hp.numbered.fresh⟩, ?_, ?_⟩
  · rw [hnone]; simp
  · rw [howners]; exact Nat.zero_le _

/-- A capture that begins on an idle sampler is its one owner. -/
theorem begin (hp : p.Held) (hidle : p.host.sampler.running = false) {n : Nat} {c : Capture}
    (h : p.job? n = some ⟨c, .queued⟩) :
    ((p.withSampler { running := true }).setStage n .sampling).owners = [.capture n] ∧
      ((p.withSampler { running := true }).setStage n .sampling).Held := by
  obtain ⟨before, after, heq, hset⟩ := hp.numbered.captureOwners_setStage h
  have hnone := hp.owners_eq_nil hidle
  simp only [Process.owners, heq, List.append_eq_nil_iff] at hnone
  obtain ⟨hrecordings, rfl, -, rfl⟩ := hnone
  have hrecordings' : ((p.withSampler { running := true }).setStage n .sampling).recordingOwners =
      [] := hrecordings
  have hcaptures : ((p.withSampler { running := true }).setStage n .sampling).captureOwners =
      [.capture n] := hset .sampling
  have howners : ((p.withSampler { running := true }).setStage n .sampling).owners =
      [.capture n] := by
    rw [Process.owners, hrecordings', hcaptures, List.nil_append]
  exact ⟨howners, hp.numbered.of_eq (by simp) rfl, hp.pending, by rw [howners]; exact Nat.le_refl _⟩

/-- A capture that is refused leaves the owners as they are. -/
theorem refuse (hp : p.Held) {n : Nat} {c : Capture} (h : p.job? n = some ⟨c, .queued⟩)
    (result : Except Failure Captured) :
    (p.setStage n (.ended result)).owners = p.owners ∧ (p.setStage n (.ended result)).Held := by
  obtain ⟨before, after, heq, hset⟩ := hp.numbered.captureOwners_setStage h
  have howners : (p.setStage n (.ended result)).owners = p.owners := by
    have hrecordings : (p.setStage n (.ended result)).recordingOwners = p.recordingOwners := rfl
    rw [Process.owners, hrecordings, hset, Process.owners, heq]
    rfl
  exact ⟨howners, hp.numbered.of_eq (by simp) rfl, hp.pending,
    by rw [howners]; exact hp.owners_le⟩

/-- The end of a capture that sampled leaves no owner. -/
theorem complete (hp : p.Held) {n : Nat} {c : Capture} (h : p.job? n = some ⟨c, .sampling⟩)
    (result : Except Failure Captured) :
    ((p.withSampler { running := false }).setStage n (.ended result)).owners = [] ∧
      ((p.withSampler { running := false }).setStage n (.ended result)).Held := by
  obtain ⟨hrecordings, -, hset⟩ := hp.captureOwners_setStage_of_sampling h
  have hrecordings' : ((p.withSampler { running := false }).setStage n
      (.ended result)).recordingOwners = [] := hrecordings
  have hcaptures : ((p.withSampler { running := false }).setStage n
      (.ended result)).captureOwners = [] := hset (.ended result)
  have howners : ((p.withSampler { running := false }).setStage n (.ended result)).owners =
      [] := by
    rw [Process.owners, hrecordings', hcaptures]
    rfl
  exact ⟨howners, hp.numbered.of_eq (by simp) rfl, hp.pending, by rw [howners]; exact Nat.le_refl _⟩

theorem call (hp : p.Held) (c : Capture) : (p.call c).2.Held :=
  ⟨hp.numbered.call c, hp.pending, hp.owners_le⟩

end Held

namespace Owned

variable {p : Process}

/-- The files have no part in this. -/
theorem withFiles (hp : p.Owned) (files : FileSystem) :
    Owned { p with host := ⟨p.host.sampler, files⟩ } :=
  ⟨(hp.held.withFiles files).numbered, hp.pending, hp.paced, hp.owners⟩

/-- The requests that wait have no part in this. -/
theorem withRequests (hp : p.Owned) (waiting : List Nat) (locked : Bool) :
    Owned { p with waiting := waiting, locked := locked } :=
  ⟨(hp.held.withRequests waiting locked).numbered, hp.pending, hp.paced, hp.owners⟩

/-- A recording that starts on an idle sampler is its one owner. -/
theorem keep (hp : p.Owned) (hidle : p.host.sampler.running = false) (files : FileSystem)
    (name : String) {r : Recording} (hr : r.pending = true) :
    ({ p with host := ⟨{ running := true }, files⟩ }.keep name r).owners = [.recording name] ∧
      ({ p with host := ⟨{ running := true }, files⟩ }.keep name r).Owned := by
  obtain ⟨howners, -, hq⟩ := hp.held.keep hidle files name hr
  exact ⟨howners, hq.numbered, hq.pending, hp.paced, by rw [howners]; rfl⟩

/-- The end of the one recording leaves no owner. -/
theorem withoutRecording (hp : p.Owned) {name : String} {r : Recording}
    (h : p.recording? name = some r) {host : Host}
    (hidle : host.sampler = { running := false }) :
    Owned { p.withoutRecording name with host := host } := by
  obtain ⟨howners, -, hq⟩ := hp.held.withoutRecording h host
  exact ⟨hq.numbered, hq.pending, hp.paced, by rw [howners, hidle]; rfl⟩

/-- No capture that is already asked for is asked for anew. -/
theorem paced_setStage (hp : p.Owned) (n : Nat) {stage : Stage} (hstage : stage ≠ .queued)
    (m : Nat) (c : Capture) (h : (p.setStage n stage).job? m = some ⟨c, .queued⟩) :
    c.frequency ≠ 0 := by
  rw [job?_setStage, Option.map_eq_some_iff] at h
  obtain ⟨job, hjob, heq⟩ := h
  split at heq
  · cases heq; exact absurd rfl hstage
  · subst heq; exact hp.paced m c hjob

/-- A capture that begins on an idle sampler is its one owner. -/
theorem begin (hp : p.Owned) (hidle : p.host.sampler.running = false) {n : Nat} {c : Capture}
    (h : p.job? n = some ⟨c, .queued⟩) :
    ((p.withSampler { running := true }).setStage n .sampling).owners = [.capture n] ∧
      ((p.withSampler { running := true }).setStage n .sampling).Owned := by
  obtain ⟨howners, hq⟩ := hp.held.begin hidle h
  exact ⟨howners, hq.numbered, hq.pending, hp.paced_setStage n Stage.noConfusion,
    by rw [howners]; rfl⟩

/-- A capture that is refused leaves the owners as they are. -/
theorem refuse (hp : p.Owned) {n : Nat} {c : Capture} (h : p.job? n = some ⟨c, .queued⟩)
    (result : Except Failure Captured) :
    (p.setStage n (.ended result)).owners = p.owners ∧ (p.setStage n (.ended result)).Owned := by
  obtain ⟨howners, hq⟩ := hp.held.refuse h result
  exact ⟨howners, hq.numbered, hq.pending, hp.paced_setStage n Stage.noConfusion,
    by rw [howners]; exact hp.owners⟩

/-- The end of a capture that sampled leaves no owner. -/
theorem complete (hp : p.Owned) {n : Nat} {c : Capture} (h : p.job? n = some ⟨c, .sampling⟩)
    (result : Except Failure Captured) :
    ((p.withSampler { running := false }).setStage n (.ended result)).Owned := by
  obtain ⟨howners, hq⟩ := hp.held.complete h result
  exact ⟨hq.numbered, hq.pending, hp.paced_setStage n Stage.noConfusion, by rw [howners]; rfl⟩

end Owned

/-! ### Steps and runs -/

/-- An action at a frequency other than zero. -/
def Action.IsPaced : Action → Prop
  | .startRecording _ _ frequency => frequency ≠ 0
  | .startOptional _ _ frequency => frequency ≠ 0
  | .call c => c.frequency ≠ 0
  | _ => True

/-- **A start that is granted exactly if the sampler has no owner.** It takes the process
from `p` to `q`; if it is granted, `owner` is the only owner, and if it is `refused`, the
owner there is keeps the sampler running. -/
structure Grant (p q : Process) (owner : Owner) (granted refused : Prop) : Prop where
  /-- Only an owner stands in the way. -/
  granted_iff : granted ↔ p.owners = []
  /-- Who is granted the sampler owns it. -/
  taken : granted → q.owners = [owner] ∧ q.host.sampler.running = true
  /-- Who is refused leaves it to its owner. -/
  spared : ¬ granted → refused ∧ q.owners = p.owners ∧ q.host.sampler.running = true

namespace Owned

variable {p : Process}

theorem startRecording_of_not_created {o : Outside} {path : String} {e : IoError}
    (hfile : Recording.createFile o path p.host.files = .error e) (name : String)
    (frequency : Int32) :
    p.startRecording o name path frequency = (.error (.error (.io e)), [], p) :=
  startRecording_of_error (Recording.start_of_not_created hfile)

theorem startRecording (hp : p.Owned) {o : Outside} {path : String} {file : Handle}
    {files : FileSystem} (hfile : Recording.createFile o path p.host.files = .ok (file, files))
    (name : String) {frequency : Int32} (hfrequency : frequency ≠ 0) :
    Grant p (p.startRecording o name path frequency).2.2 (.recording name)
        (∃ r, (p.startRecording o name path frequency).1 = .ok r)
        ((p.startRecording o name path frequency).1 = .error (.error (.profiler .running))) ∧
      (p.startRecording o name path frequency).2.2.Owned := by
  cases hr : p.host.sampler.running with
  | true =>
    have hbusy : p.owners ≠ [] := fun h => by simp [hp.owners_eq_nil_iff.1 h] at hr
    rw [startRecording_of_error (Recording.start_of_running hfile hr)]
    exact ⟨⟨by simp [hbusy], by simp, fun _ => ⟨rfl, rfl, hr⟩⟩, hp.withFiles files⟩
  | false =>
    rw [startRecording_of_ok (Recording.start_of_idle hfile hr hfrequency)]
    obtain ⟨howners, hq⟩ := hp.keep hr files name (r := ⟨path, file, frequency, true⟩) rfl
    exact ⟨⟨by simp [hp.held.owners_eq_nil hr], fun _ => ⟨howners, rfl⟩, by simp⟩, hq⟩

theorem startOptional_of_not_created {o : Outside} {path : String} {e : IoError}
    (hfile : Recording.createFile o path p.host.files = .error e) (name : String)
    (frequency : Int32) :
    p.startOptional o name (some path) frequency =
      (.ok none, [Recording.disabled path (.io e)], p) :=
  startOptional_of_none
    (Recording.startOptional_of_error (Recording.start_of_not_created hfile))

theorem startOptional (hp : p.Owned) {o : Outside} {path : String} {file : Handle}
    {files : FileSystem} (hfile : Recording.createFile o path p.host.files = .ok (file, files))
    (name : String) {frequency : Int32} (hfrequency : frequency ≠ 0) :
    Grant p (p.startOptional o name (some path) frequency).2.2 (.recording name)
        (∃ r, (p.startOptional o name (some path) frequency).1 = .ok (some r))
        ((p.startOptional o name (some path) frequency).1 = .ok none ∧
          (p.startOptional o name (some path) frequency).2.1 =
            [Sampler.starting, Recording.disabled path (.profiler .running)]) ∧
      (p.startOptional o name (some path) frequency).2.2.Owned := by
  cases hr : p.host.sampler.running with
  | true =>
    have hbusy : p.owners ≠ [] := fun h => by simp [hp.owners_eq_nil_iff.1 h] at hr
    rw [startOptional_of_none
      (Recording.startOptional_of_error (Recording.start_of_running hfile hr))]
    exact ⟨⟨by simp [hbusy], by simp, fun _ => ⟨⟨rfl, rfl⟩, rfl, hr⟩⟩, hp.withFiles files⟩
  | false =>
    rw [startOptional_of_some
      (Recording.startOptional_of_ok (Recording.start_of_idle hfile hr hfrequency))]
    obtain ⟨howners, hq⟩ := hp.keep hr files name (r := ⟨path, file, frequency, true⟩) rfl
    exact ⟨⟨by simp [hp.held.owners_eq_nil hr], fun _ => ⟨howners, rfl⟩, by simp⟩, hq⟩

theorem beginJob (hp : p.Owned) {n : Nat} {c : Capture} (h : p.job? n = some ⟨c, .queued⟩) :
    Grant p (p.beginJob n).2 (.capture n) ((p.beginJob n).2.job? n = some ⟨c, .sampling⟩)
        ((p.beginJob n).2.result? n = some (.error (.error (.profiler .running)))) ∧
      (p.beginJob n).2.Owned := by
  cases hr : p.host.sampler.running with
  | true =>
    have hbusy : p.owners ≠ [] := fun h => by simp [hp.owners_eq_nil_iff.1 h] at hr
    rw [beginJob_of_running h hr]
    obtain ⟨howners, hq⟩ := hp.refuse h (.error (.error (.profiler .running)))
    have hended := job?_setStage_self h (.ended (.error (.error (.profiler .running))))
    exact ⟨⟨by simp [hbusy, hended], by simp [hended],
      fun _ => ⟨result?_eq_some_iff.2 ⟨c, hended⟩, howners, hr⟩⟩, hq⟩
  | false =>
    rw [beginJob_of_idle h hr (hp.paced n c h)]
    obtain ⟨howners, hq⟩ := hp.begin hr h
    have hsampling : ((p.withSampler { running := true }).setStage n .sampling).job? n =
        some ⟨c, .sampling⟩ := job?_setStage_self h .sampling
    exact ⟨⟨by simp [hp.held.owners_eq_nil hr, hsampling], fun _ => ⟨howners, rfl⟩,
      fun hn => absurd hsampling hn⟩, hq⟩

theorem finishRecording (hp : p.Owned) (o : Outside) (name : String) :
    (p.finishRecording o name).2.2.Owned := by
  unfold Process.finishRecording
  split
  · exact hp
  · next r h => exact hp.withoutRecording h (Recording.sampler_finish (hp.held.of_recording? h).2.2)

theorem dropRecording (hp : p.Owned) (o : Outside) (name : String) :
    (p.dropRecording o name).2.2.Owned := by
  unfold Process.dropRecording
  split
  · exact hp
  · next r h =>
    exact hp.withoutRecording h (Recording.sampler_drop (hp.held.of_recording? h).2.2)

theorem call (hp : p.Owned) {c : Capture} (hc : c.frequency ≠ 0) : (p.call c).2.Owned := by
  refine ⟨hp.numbered.call c, hp.pending, fun n c' h => ?_, hp.owners⟩
  rw [job?_call] at h
  split at h
  · cases h; exact hc
  · exact hp.paced n c' h

/-- **Every action keeps the sampler to its one owner.** -/
theorem step (hp : p.Owned) (o : Outside) {a : Action} (ha : a.IsPaced) : (p.step o a).Owned := by
  cases a with
  | startRecording name path frequency =>
    cases hfile : Recording.createFile o path p.host.files with
    | error e => simpa only [Process.step, startRecording_of_not_created hfile] using hp
    | ok created => exact (hp.startRecording hfile name ha).2
  | startOptional name path? frequency =>
    cases path? with
    | none => exact hp
    | some path =>
      cases hfile : Recording.createFile o path p.host.files with
      | error e => simpa only [Process.step, startOptional_of_not_created hfile] using hp
      | ok created => exact (hp.startOptional hfile name ha).2
  | finishRecording name => exact hp.finishRecording o name
  | dropRecording name => exact hp.dropRecording o name
  | call c => exact hp.call ha
  | receive view request =>
    rcases p.receive_cases view request with h | ⟨c, hc, -, h⟩ <;> simp only [Process.step, h]
    · exact hp
    · exact (hp.call (by rw [hc]; decide)).withRequests _ _
  | beginJob n =>
    by_cases h : ∃ c, p.job? n = some ⟨c, .queued⟩
    · exact (hp.beginJob h.choose_spec).2
    · simpa only [Process.step, beginJob_of_not_queued (not_exists.1 h)] using hp
  | completeJob n =>
    by_cases h : ∃ c, p.job? n = some ⟨c, .sampling⟩
    · obtain ⟨c, hc⟩ := h
      obtain ⟨result, hresult⟩ := completeJob_of_sampling hc o
      simpa only [Process.step, hresult] using hp.complete hc result
    · simpa only [Process.step, completeJob_of_not_sampling (not_exists.1 h)] using hp
  | answer n =>
    rcases p.answer_cases n with h | ⟨-, -, -, h⟩ <;> simp only [Process.step, h]
    · exact hp
    · exact hp.withRequests _ _
  | hangUp n =>
    rcases p.hangUp_cases n with h | ⟨-, h⟩ <;> simp only [Process.step, h]
    · exact hp
    · exact hp.withRequests _ _

end Owned

theorem owned_start {host : Host} (hidle : host.sampler.running = false) :
    Owned { host := host } :=
  ⟨numbered_start host, by simp, by simp [job?], by simp [owners, recordingOwners, captureOwners, hidle]⟩

/-- **So does every run**, from an idle sampler. -/
theorem owned_run {host : Host} (hidle : host.sampler.running = false)
    {actions : List (Outside × Action)} (hpaced : ∀ a ∈ actions, a.2.IsPaced) :
    (({ host := host } : Process).run actions).Owned :=
  run_induction (fun _ o _ hp ha => hp.step o ha) (owned_start hidle) hpaced

/-! ### One owner -/

/-- **The sampler belongs to one owner at most**, is there for whoever comes when it has
none, and for nobody else. -/
structure Exclusive (p : Process) : Prop where
  /-- There are no two owners. -/
  length_owners_le : p.owners.length ≤ 1
  /-- The sampler runs for its owner, and for nothing else. -/
  running_iff : p.host.sampler.running = true ↔ ∃ owner, owner ∈ p.owners
  /-- A recording whose file can be created starts exactly if there is no owner. -/
  startRecording : ∀ o name path frequency created,
    Recording.createFile o path p.host.files = .ok created → frequency ≠ 0 →
    Grant p (p.startRecording o name path frequency).2.2 (.recording name)
      (∃ r, (p.startRecording o name path frequency).1 = .ok r)
      ((p.startRecording o name path frequency).1 = .error (.error (.profiler .running)))
  /-- So does one that need not start; a refusal is logged. -/
  startOptional : ∀ o name path frequency created,
    Recording.createFile o path p.host.files = .ok created → frequency ≠ 0 →
    Grant p (p.startOptional o name (some path) frequency).2.2 (.recording name)
      (∃ r, (p.startOptional o name (some path) frequency).1 = .ok (some r))
      ((p.startOptional o name (some path) frequency).1 = .ok none ∧
        (p.startOptional o name (some path) frequency).2.1 =
          [Sampler.starting, Recording.disabled path (.profiler .running)])
  /-- So does a capture, asked for from within or by a client. -/
  beginJob : ∀ n c, p.job? n = some ⟨c, .queued⟩ →
    Grant p (p.beginJob n).2 (.capture n) ((p.beginJob n).2.job? n = some ⟨c, .sampling⟩)
      ((p.beginJob n).2.result? n = some (.error (.error (.profiler .running))))
  /-- A recording whose file cannot be created leaves all as it is. -/
  notCreated : ∀ o name path frequency e,
    Recording.createFile o path p.host.files = .error e →
    p.startRecording o name path frequency = (.error (.error (.io e)), [], p) ∧
      p.startOptional o name (some path) frequency =
        (.ok none, [Recording.disabled path (.io e)], p)
  /-- A recording that is finished, with success or without, leaves the sampler idle. -/
  finishRecording : ∀ o name r, p.recording? name = some r →
    (p.finishRecording o name).2.2.host.sampler.running = false
  /-- So does one that is dropped. -/
  dropRecording : ∀ o name r, p.recording? name = some r →
    (p.dropRecording o name).2.2.host.sampler.running = false

theorem Owned.running_iff {p : Process} (hp : p.Owned) :
    p.host.sampler.running = true ↔ ∃ owner, owner ∈ p.owners := by
  rw [← Bool.not_eq_false, ← not_iff_not.2 hp.owners_eq_nil_iff]
  exact ⟨List.exists_mem_of_ne_nil _, fun ⟨_, h⟩ => List.ne_nil_of_mem h⟩

theorem sampler_finishRecording {p : Process} {name : String} {r : Recording}
    (h : p.recording? name = some r) (hr : r.pending = true) (o : Outside) :
    (p.finishRecording o name).2.2.host.sampler = { running := false } := by
  simp only [finishRecording, h, Recording.sampler_finish hr]

theorem sampler_dropRecording {p : Process} {name : String} {r : Recording}
    (h : p.recording? name = some r) (hr : r.pending = true) (o : Outside) :
    (p.dropRecording o name).2.2.host.sampler = { running := false } := by
  simp only [dropRecording, h, Recording.sampler_drop hr]

/-- **The sampler is running exactly while it has one owner**, whatever the order in which
recordings, captures, clients and the world get on. -/
theorem exclusive_run {host : Host} (hidle : host.sampler.running = false)
    {actions : List (Outside × Action)} (hpaced : ∀ a ∈ actions, a.2.IsPaced) :
    (({ host := host } : Process).run actions).Exclusive := by
  have hp := owned_run hidle hpaced
  constructor
  case length_owners_le => exact hp.held.length_owners_le
  case running_iff => exact hp.running_iff
  case startRecording =>
    intro o name path frequency created hfile hfrequency
    exact (hp.startRecording hfile name hfrequency).1
  case startOptional =>
    intro o name path frequency created hfile hfrequency
    exact (hp.startOptional hfile name hfrequency).1
  case beginJob => exact fun n c h => (hp.beginJob h).1
  case notCreated =>
    intro o name path frequency e hfile
    exact ⟨Owned.startRecording_of_not_created hfile name frequency,
      Owned.startOptional_of_not_created hfile name frequency⟩
  case finishRecording =>
    intro o name r h
    rw [sampler_finishRecording h (hp.held.of_recording? h).2.2]
  case dropRecording =>
    intro o name r h
    rw [sampler_dropRecording h (hp.held.of_recording? h).2.2]

/-- A capture begins while a recording goes on, is refused, and begins anew when the
recording has failed to be written. -/
theorem exclusive_run_failed_finish :
    let host : Host := { files := ⟨[], []⟩ }
    let c : Capture := { format := .pprof, duration := .ofSeconds 1 }
    let actions : List (Outside × Action) :=
      [({}, .startRecording "r" "cpu.prof" 100), ({}, .call c), ({}, .beginJob 0),
        ({ reporting := some .creating }, .finishRecording "r"), ({}, .call c), ({}, .beginJob 1)]
    host.sampler.running = false ∧ (∀ a ∈ actions, a.2.IsPaced) ∧
      (({ host := host } : Process).run actions).owners = [.capture 1] ∧
      (({ host := host } : Process).run actions).Exclusive := by
  intro host c actions
  have hpaced : ∀ a ∈ actions, a.2.IsPaced := by
    simp [actions, Action.IsPaced, c, Sampler.defaultFrequency]
  exact ⟨rfl, hpaced, by decide, exclusive_run rfl hpaced⟩

end Process

end ProfilingTargets
