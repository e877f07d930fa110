import ProfilingTargets.Proofs.Process.Admission
import ProfilingTargets.Proofs.Text.Split
import ProfilingTargets.Proofs.Text.Utf8

/-!
# Every request gets its answer

A request is answered at once, or it waits for a capture. A capture comes to its end by two
steps of its own thread, whatever else is done in between and in whatever state the sampler
and the lock are; so whoever waits for it is answered. One request alone is left without an
answer: that for the command line of a process with an argument that is no Unicode text.

## What is proved

* `waits_run`: whoever waits goes on waiting until it is answered or its client hangs up.
* `comesToAnswer`: a capture that is asked for comes to its request's answer.
* `answers`: which requests are answered, for any process and anything that can be seen of
  it; and that the command line, where it is shown, can be read back from the answer.
-/

namespace ProfilingTargets.Process

/-! ### Waiting for a capture -/

/-- **A request has been served**: it has been answered, or its client has hung up, or its
answer is at hand. -/
def Served (n : Nat) (told : List Notice) (p : Process) : Prop :=
  (∃ notice ∈ told, notice.Settles n) ∨ ∃ response, (p.answer n).1 = some response

/-- **A capture comes to its request's answer**, whatever else is done: when its thread has
begun, the request has been served or the capture samples, and when it has sampled, the
request has been served. -/
def ComesToAnswer (n : Nat) (p : Process) : Prop :=
  ∀ actions o, (o, .beginJob n) ∈ actions →
    Served n (p.notices actions) (p.run actions) ∨
      (∃ c, (p.run actions).job? n = some ⟨c, .sampling⟩) ∧
        ∀ o' more, Served n (p.notices (actions ++ (o', .completeJob n) :: more))
          (p.run (actions ++ (o', .completeJob n) :: more))

section

variable {p : Process} {n : Nat}

/-- Whoever waits goes on waiting until it is answered or its client hangs up. -/
theorem waits_run (hn : n ∈ p.waiting) (actions : List (Outside × Action)) :
    (∃ notice ∈ p.notices actions, notice.Settles n) ∨ n ∈ (p.run actions).waiting := by
  induction actions generalizing p with
  | nil => exact .inr hn
  | cons head rest ih =>
    obtain ⟨o, a⟩ := head
    have hstep : (∃ notice ∈ p.noticed a, notice.Settles n) ∨ n ∈ (p.step o a).waiting := by
      have hprogress := Progress.of_step p o a
      revert hprogress
      generalize p.step o a = q
      generalize p.noticed a = notice?
      intro hprogress
      cases hprogress with
      | silent waiting => exact .inr (waiting ▸ hn)
      | admitted waiting => exact .inr (waiting ▸ List.mem_cons_of_mem _ hn)
      | settled m notice settles waiting =>
        by_cases hm : m = n
        · exact .inl ⟨notice, rfl, (settles n).2 hm⟩
        · rw [waiting]
          exact .inr (List.mem_filter.2 ⟨hn, bne_iff_ne.2 (Ne.symm hm)⟩)
    rw [notices, run_cons]
    rcases hstep with ⟨notice, hnotice, hsettles⟩ | hwaits
    · exact .inl ⟨notice, List.mem_append_left _ (Option.mem_toList.2 hnotice), hsettles⟩
    · rcases ih hwaits with ⟨notice, hnotice, hsettles⟩ | hlater
      · exact .inl ⟨notice, List.mem_append_right _ hnotice, hsettles⟩
      · exact .inr hlater

/-- Whoever waits for a capture has been served when it has ended. -/
theorem served_of_finished (hn : n ∈ p.waiting) {actions : List (Outside × Action)}
    {result : Except Failure Captured} (h : (p.run actions).Finished n result) :
    Served n (p.notices actions) (p.run actions) := by
  rcases waits_run hn actions with hsettled | hwaits
  · exact .inl hsettled
  · exact .inr ⟨_, congrArg Prod.fst (answer_of_result hwaits h.result)⟩

/-- A capture whose thread begins has begun. -/
theorem begun_beginJob (hgiven : n < p.nextJob) {c : Capture} {stage : Stage}
    (hjob : p.job? n = some ⟨c, stage⟩) : (p.beginJob n).2.Begun n := by
  cases stage with
  | queued =>
    unfold beginJob
    rw [hjob]
    dsimp only
    split
    · exact ⟨hgiven, c, _, job?_setStage_self hjob _, Stage.noConfusion⟩
    · exact ⟨hgiven, c, _, job?_setStage_self hjob _, Stage.noConfusion⟩
  | sampling =>
    rw [beginJob_of_not_queued (by simp [hjob])]
    exact ⟨hgiven, c, _, hjob, Stage.noConfusion⟩
  | ended result =>
    rw [beginJob_of_not_queued (by simp [hjob])]
    exact ⟨hgiven, c, _, hjob, Stage.noConfusion⟩

/-- **A capture that somebody waits for comes to an answer.** -/
theorem comesToAnswer (hn : n ∈ p.waiting) (hgiven : n < p.nextJob) {c : Capture}
    {stage : Stage} (hjob : p.job? n = some ⟨c, stage⟩) : p.ComesToAnswer n := by
  intro actions o hmem
  obtain ⟨before, between, rfl⟩ := List.append_of_mem hmem
  have hbegun : (p.run (before ++ (o, .beginJob n) :: between)).Begun n := by
    have hasked : p.StageIn (fun _ => True) n := ⟨hgiven, c, stage, hjob, trivial⟩
    have hbefore := hasked.run (fun _ _ _ _ _ => trivial) before
    obtain ⟨c', stage', hjob', -⟩ := hbefore.job
    rw [run_append, run_cons]
    exact (begun_beginJob hbefore.given hjob').run between
  generalize before ++ (o, .beginJob n) :: between = actions at hbegun ⊢
  obtain ⟨c', stage', hjob', hstage⟩ := hbegun.job
  cases stage' with
  | queued => exact absurd rfl hstage
  | ended result => exact .inl (served_of_finished hn ⟨hbegun.given, c', _, hjob', rfl⟩)
  | sampling =>
    refine .inr ⟨⟨c', hjob'⟩, fun o' more => ?_⟩
    obtain ⟨result, hcomplete⟩ := completeJob_of_sampling hjob' o'
    have hfinished : ((p.run actions).completeJob o' n).2.Finished n result := by
      rw [hcomplete]
      exact ⟨hbegun.given, c', _, job?_setStage_self hjob' _, rfl⟩
    have hlater : (p.run (actions ++ (o', .completeJob n) :: more)).Finished n result := by
      rw [run_append, run_cons]
      exact hfinished.run more
    exact served_of_finished hn hlater

end

/-! ### Answers -/

/-- A request asks for the command line of a process with an argument that is no text. -/
def AsksUnreadable (view : Server.View) (request : Http.Request) : Prop :=
  Server.IsRoute request.path .cmdline ∧ request.method = "GET" ∧
    ∃ a ∈ view.arguments, Utf8.decode? a = none

/-- **Which requests are answered**, in any process of which this can be seen. -/
structure Answers (p : Process) (view : Server.View) : Prop where
  /-- A request is answered at once, or waits for a capture that comes to its answer. -/
  answered : ∀ request, ¬ AsksUnreadable view request →
    (∃ response, p.receive view request = (.answered response, [], p)) ∨
      ∃ n, (p.receive view request).1 = .capturing n ∧
        (p.receive view request).2.2.ComesToAnswer n
  /-- Where an argument is no text, a request for the command line is left without answer. -/
  panicked : ∀ request, AsksUnreadable view request →
    ∃ e, p.receive view request = (.panicked e, [], p)
  /-- Else the answer, cut at every NUL, is the list of the arguments again. -/
  commandLine : view.arguments ≠ [] → (∀ a ∈ view.arguments, 0 ∉ a) →
    (∀ a ∈ view.arguments, (Utf8.decode? a).isSome) →
    ∀ request, Server.IsRoute request.path .cmdline → request.method = "GET" →
    ∃ response, p.receive view request = (.answered response, [], p) ∧
      response.status = 200 ∧ Split.splitOn 0 response.body.bytes = view.arguments

/-- Arguments that are texts without a NUL are read back from where they stand together. -/
theorem splitOn_commandLine {arguments : List Bytes} (hne : arguments ≠ [])
    (hzero : ∀ a ∈ arguments, 0 ∉ a) (htext : ∀ a ∈ arguments, (Utf8.decode? a).isSome) :
    Split.splitOn 0
      (Utf8.encode (['\x00'].intercalate (arguments.map Utf8.decodeLossy))) = arguments := by
  have hwritten : (arguments.map Utf8.decodeLossy).map Utf8.encode = arguments := by
    rw [List.map_map]
    exact (List.map_congr_left fun a ha => Utf8.encode_decodeLossy (htext a ha)).trans
      (List.map_id _)
  have hnul : Utf8.encode ['\x00'] = [0] := rfl
  rw [Utf8.encode_intercalate, hwritten, hnul]
  exact Split.splitOn_intercalate hne hzero

/-- **Every request gets its answer but one**: that for the command line of a process with an
argument that is no text. This holds whatever the arguments, the counters and the threads
are, and whatever has become of the sampler and of the lock. -/
theorem answers (p : Process) (view : Server.View) : Answers p view := by
  have hpanic : ∀ request, AsksUnreadable view request ↔
      ∃ e, Server.dispatch view p.locked request = .panic e :=
    fun request => Server.dispatch_eq_panic_iff.symm
  constructor
  case answered =>
    intro request hreadable
    cases hdispatch : Server.dispatch view p.locked request with
    | respond response => exact .inl ⟨response, receive_of_respond hdispatch⟩
    | panic e => exact absurd ((hpanic request).2 ⟨e, hdispatch⟩) hreadable
    | capture format seconds =>
      rw [receive_of_capture hdispatch]
      refine .inr ⟨p.nextJob, rfl, ?_⟩
      exact comesToAnswer List.mem_cons_self (Nat.lt_succ_self _) (job?_call_self p _)
  case panicked =>
    intro request hunreadable
    obtain ⟨e, hdispatch⟩ := (hpanic request).1 hunreadable
    exact ⟨e, by simp only [receive, hdispatch]⟩
  case commandLine =>
    intro hne hzero htext request hroute hmethod
    have hdispatch : Server.dispatch view p.locked request = _ :=
      (Server.dispatch_of_route hroute hmethod).trans (Server.commandLine_of_unicode htext)
    exact ⟨_, receive_of_respond hdispatch, rfl, splitOn_commandLine hne hzero htext⟩

/-- A request for the command line. -/
def commandLineRequest : Http.Request := { method := "GET", path := "/debug/pprof/cmdline".toList }

/-- **An argument that is no text leaves the command line without an answer**, and so a
request to a process that is otherwise as it should be. -/
theorem not_answered_odd_argument :
    let p : Process := { host := { files := ⟨[], []⟩ } }
    let view : Server.View := { blank with arguments := [[0x61], [0xFF]] }
    view.arguments ≠ [] ∧ (∀ a ∈ view.arguments, 0 ∉ a) ∧
      (p.receive view commandLineRequest).1 = .panicked (.notUnicode [0xFF]) := by
  refine ⟨by decide, by decide, by decide⟩

end ProfilingTargets.Process
