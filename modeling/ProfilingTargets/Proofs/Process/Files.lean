import ProfilingTargets.Proofs.Process.Admission
import ProfilingTargets.Proofs.Process.Writing

/-!
# When the file of a recording is written

A recording that ends lets go of the sampler, and writes its file only then; captures and
requests may get on in between. In `Process` the end is one action. This module proves that
to captures and requests, and to the file, this is no different from two: whoever has no part
in files does the same over any files (`step_withFiles`) and leaves them as they are
(`files_run`), and what is written depends on the files alone (`Recording.writeOut_congr`).

## What is proved

* `run_withFiles`: over other files, captures and requests come to the same, and say the same.
* `run_finishRecording`, `run_dropRecording`: a recording that ends in one action and one that
  is written later, after any actions of captures and requests, leave the same process, and
  the recording has the same result; what is said and noticed in between is the same.

What other recordings do in between is not covered: one that starts on the same path would
empty the file before it is written.
-/

namespace ProfilingTargets

/-- **What comes of writing out depends on the files alone.** -/
theorem Recording.writeOut_congr (o : Outside) {r : Recording} (h : r.pending = true)
    {host host' : Host} (hfiles : host'.files = host.files) :
    r.writeOut o host' = r.writeOut o host := by
  simp only [writeOut, h, if_true, Sampler.stop, hfiles]

namespace Process

/-- The process with other files. -/
def withFiles (p : Process) (files : FileSystem) : Process :=
  { p with host := { p.host with files := files } }

/-- An action of captures and requests. -/
def Action.IsFileless : Action → Prop
  | .startRecording _ _ _ | .startOptional _ _ _ | .finishRecording _ | .dropRecording _ => False
  | _ => True

/-! ### Other files -/

section

variable (p : Process) (files : FileSystem)

theorem receive_withFiles (view : Server.View) (request : Http.Request) :
    (p.withFiles files).receive view request =
      ((p.receive view request).1, (p.receive view request).2.1,
        (p.receive view request).2.2.withFiles files) := by
  have hlocked : (p.withFiles files).locked = p.locked := rfl
  simp only [receive, hlocked]
  split <;> rfl

theorem beginJob_withFiles (n : Nat) :
    (p.withFiles files).beginJob n = ((p.beginJob n).1, (p.beginJob n).2.withFiles files) := by
  have hjob : (p.withFiles files).job? n = p.job? n := rfl
  have hsampler : (p.withFiles files).host.sampler = p.host.sampler := rfl
  simp only [beginJob, hjob, hsampler]
  split
  · split <;> rfl
  · rfl

theorem completeJob_withFiles (o : Outside) (n : Nat) :
    (p.withFiles files).completeJob o n =
      ((p.completeJob o n).1, (p.completeJob o n).2.withFiles files) := by
  have hjob : (p.withFiles files).job? n = p.job? n := rfl
  have hsampler : (p.withFiles files).host.sampler = p.host.sampler := rfl
  simp only [completeJob, hjob, hsampler]
  split <;> rfl

theorem answer_withFiles (n : Nat) :
    (p.withFiles files).answer n =
      ((p.answer n).1, (p.answer n).2.1, (p.answer n).2.2.withFiles files) := by
  have hwaiting : (p.withFiles files).waiting = p.waiting := rfl
  have hresult : (p.withFiles files).result? n = p.result? n := rfl
  simp only [answer, hwaiting, hresult]
  split
  · split <;> rfl
  · rfl

theorem hangUp_withFiles (n : Nat) :
    (p.withFiles files).hangUp n = (p.hangUp n).withFiles files := by
  have hwaiting : (p.withFiles files).waiting = p.waiting := rfl
  simp only [hangUp, hwaiting]
  split <;> rfl

/-- **Captures and requests do, say and let be noticed the same over any files.** -/
theorem step_withFiles (o : Outside) {a : Action} (ha : a.IsFileless) :
    (p.withFiles files).step o a = (p.step o a).withFiles files ∧
      (p.withFiles files).said o a = p.said o a ∧
      (p.withFiles files).noticed a = p.noticed a := by
  cases a with
  | startRecording | startOptional | finishRecording | dropRecording => exact ha.elim
  | call c => exact ⟨rfl, rfl, rfl⟩
  | receive view request =>
    simp only [step, said, noticed, receive_withFiles, and_self]
  | beginJob n => simp only [step, said, noticed, beginJob_withFiles, and_self]
  | completeJob n => simp only [step, said, noticed, completeJob_withFiles, and_self]
  | answer n => simp only [step, said, noticed, answer_withFiles, and_self]
  | hangUp n => simp only [step, said, noticed, hangUp_withFiles, and_self]

end

section

variable {p : Process} {actions : List (Outside × Action)}

/-- So does a run. -/
theorem run_withFiles (hactions : ∀ a ∈ actions, a.2.IsFileless) (files : FileSystem) :
    (p.withFiles files).run actions = (p.run actions).withFiles files ∧
      (p.withFiles files).log actions = p.log actions ∧
      (p.withFiles files).notices actions = p.notices actions := by
  induction actions generalizing p with
  | nil => exact ⟨rfl, rfl, rfl⟩
  | cons head rest ih =>
    obtain ⟨o, a⟩ := head
    have ha := hactions (o, a) List.mem_cons_self
    obtain ⟨hstep, hsaid, hnoticed⟩ := p.step_withFiles files o ha
    obtain ⟨hrun, hlog, hnotices⟩ :=
      ih (p := p.step o a) fun b hb => hactions b (List.mem_cons_of_mem _ hb)
    rw [run_cons, run_cons, log, log, notices, notices, hstep, hsaid, hnoticed, hrun, hlog,
      hnotices]
    exact ⟨rfl, rfl, rfl⟩

/-- Captures and requests leave the files as they are. -/
theorem files_run (hactions : ∀ a ∈ actions, a.2.IsFileless) :
    (p.run actions).host.files = p.host.files := by
  -- it is run over its own files
  exact congrArg (·.host.files) (run_withFiles hactions p.host.files).1

end

/-! ### The two halves of an end -/

/-- **The first half of a recording's end**: the sampler is let go of, and nothing has been
written yet. -/
def letGo (p : Process) (name : String) : Process :=
  (p.withoutRecording name).withSampler p.host.sampler.stop

section

variable {p : Process} {name : String} {r : Recording}

/-- The other half is to write the file. -/
theorem finishRecording_eq_withFiles (h : p.recording? name = some r) (hpending : r.pending = true)
    (o : Outside) :
    (p.finishRecording o name).2.2 =
      (p.letGo name).withFiles (r.writeOut o p.host).2.2.2.files := by
  have hsampler := Recording.sampler_writeOut o hpending p.host
  rw [finishRecording_eq h]
  generalize (r.writeOut o p.host).2.2.2 = host at hsampler ⊢
  obtain ⟨sampler, files⟩ := host
  cases hsampler
  rfl

/-- **It makes no difference when the file of a recording is written**: whatever captures and
requests do between the two halves of its end, the process comes to what it comes to if the
end is one action, and the recording to the same result. -/
theorem run_finishRecording (h : p.recording? name = some r) (hpending : r.pending = true)
    (o : Outside) {actions : List (Outside × Action)}
    (hactions : ∀ a ∈ actions, a.2.IsFileless) :
    let q := (p.letGo name).run actions
    (p.finishRecording o name).1 = some (r.writeOut o q.host).1 ∧
      (p.finishRecording o name).2.2.run actions =
        q.withFiles (r.writeOut o q.host).2.2.2.files ∧
      (p.finishRecording o name).2.2.log actions = (p.letGo name).log actions ∧
      (p.finishRecording o name).2.2.notices actions = (p.letGo name).notices actions := by
  intro q
  have hwritten : r.writeOut o q.host = r.writeOut o p.host :=
    Recording.writeOut_congr o hpending (files_run hactions)
  rw [hwritten, finishRecording_eq_withFiles h hpending]
  exact ⟨by rw [finishRecording_eq h], run_withFiles hactions _⟩

/-- Nor does it if the recording is dropped. -/
theorem run_dropRecording (h : p.recording? name = some r) (hpending : r.pending = true)
    (o : Outside) {actions : List (Outside × Action)}
    (hactions : ∀ a ∈ actions, a.2.IsFileless) :
    let q := (p.letGo name).run actions
    (p.dropRecording o name).2.2.run actions = q.withFiles (r.writeOut o q.host).2.2.2.files := by
  rw [dropRecording_process h hpending]
  exact (run_finishRecording h hpending o hactions).2.1

end

end Process

end ProfilingTargets
