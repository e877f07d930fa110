import ProfilingTargets.Proofs.Http.Wire
import ProfilingTargets.Proofs.Process.Jobs

/-!
# Requests and their answers

A request is decided on by its path, its method, the seconds it asks for and the lock, in
this order; its headers and its body are not looked at. Whatever the decision, if it is not
to capture, then nothing has happened: the process is as it was, and nothing is said. A
request that is captured for is answered later, in the form that it asked for or with an
error.

## What is proved

* `Asked.step`, `Asked.run`: a capture remains what was asked for, its result has the form
  that was, and it breaks off at frequency zero only.
* `result?_ne_panic`: no client waits for a capture that breaks off.
* `precedence`: the order of refusals, and what each of them says, in every process.
* `precedence_of_message`: of the bytes of a request, only the first line counts for it.
-/

namespace ProfilingTargets

/-- A stage that a capture can get to: what is handed out has the form that was asked for, and
only at frequency zero does sampling break off. -/
def Stage.Suits (c : Capture) : Stage → Prop
  | .ended (.ok captured) => captured.format = c.format
  | .ended (.error (.panic _)) => c.frequency = 0
  | _ => True

theorem Capture.frequency_of_begin {c : Capture} {s : Sampler} {e : Panic}
    (h : (c.begin s).1 = .error (.panic e)) : c.frequency = 0 := by
  by_contra hfrequency
  cases hr : s.running <;>
    simp [Capture.begin, Sampler.start, hr, hfrequency] at h

theorem Capture.format_of_complete {c : Capture} {o : Outside} {s : Sampler}
    {captured : Captured} (h : (c.complete o s).1 = .ok captured) :
    captured.format = c.format := by
  unfold Capture.complete at h
  split at h
  · cases h
  · cases h
    rfl

namespace Process

/-! ### What a capture hands out -/

/-- **A capture is the one that was asked for**, at a stage that suits it. -/
structure Asked (n : Nat) (c : Capture) (p : Process) : Prop where
  /-- The number has been given. -/
  given : n < p.nextJob
  /-- The capture of that number. -/
  job : ∃ stage, p.job? n = some ⟨c, stage⟩ ∧ stage.Suits c

namespace Asked

variable {n : Nat} {c : Capture} {p q : Process}

theorem of_jobs (hp : p.Asked n c) (hjobs : q.jobs = p.jobs) (hnext : q.nextJob = p.nextJob) :
    q.Asked n c := by
  constructor
  · rw [hnext]
    exact hp.given
  · rw [job?, hjobs]
    exact hp.job

/-- What is known of the capture of that number is known of this one. -/
theorem suits (hp : p.Asked n c) {c' : Capture} {stage : Stage}
    (h : p.job? n = some ⟨c', stage⟩) : c' = c ∧ stage.Suits c := by
  obtain ⟨_, hjob, hsuits⟩ := hp.job
  rw [h] at hjob
  cases hjob
  exact ⟨rfl, hsuits⟩

theorem call (hp : p.Asked n c) (other : Capture) : (p.call other).2.Asked n c := by
  refine ⟨Nat.lt_succ_of_lt hp.given, ?_⟩
  rw [job?_call, if_neg (Nat.ne_of_lt hp.given)]
  exact hp.job

/-- A capture gets to a stage; it may be this one. -/
theorem setStage (hp : p.Asked n c) (m : Nat) (s : Sampler) {stage : Stage}
    (hstage : m = n → stage.Suits c) : ((p.withSampler s).setStage m stage).Asked n c := by
  obtain ⟨before, hjob, hbefore⟩ := hp.job
  refine ⟨hp.given, ?_⟩
  rw [job?_setStage, job?_withSampler, hjob, Option.map_some]
  by_cases hm : n = m
  · rw [if_pos hm]
    exact ⟨stage, rfl, hstage hm.symm⟩
  · rw [if_neg hm]
    exact ⟨before, rfl, hbefore⟩

theorem beginJob (hp : p.Asked n c) (m : Nat) : (p.beginJob m).2.Asked n c := by
  unfold Process.beginJob
  split
  · next c' hjob =>
    split
    · exact hp.setStage m _ fun _ => trivial
    · next failure _ _ hbegin =>
      refine hp.setStage m _ fun hm => ?_
      subst hm
      obtain ⟨rfl, -⟩ := hp.suits hjob
      cases failure with
      | error e => trivial
      | panic e => exact Capture.frequency_of_begin (congrArg Prod.fst hbegin)
  · exact hp

theorem completeJob (hp : p.Asked n c) (o : Outside) (m : Nat) :
    (p.completeJob o m).2.Asked n c := by
  unfold Process.completeJob
  split
  · next c' hjob =>
    refine hp.setStage m _ fun hm => ?_
    subst hm
    obtain ⟨rfl, -⟩ := hp.suits hjob
    cases hresult : (c'.complete o p.host.sampler).1 with
    | error e => trivial
    | ok captured => exact Capture.format_of_complete hresult
  · exact hp

/-- **Nothing that is done makes another capture of it.** -/
theorem step (hp : p.Asked n c) (o : Outside) (a : Action) : (p.step o a).Asked n c := by
  have hsame : ∀ {q : Process}, p.SameRequests q → q.Asked n c :=
    fun h => hp.of_jobs h.jobs h.nextJob
  cases a with
  | startRecording => exact hsame (sameRequests_startRecording ..)
  | startOptional => exact hsame (sameRequests_startOptional ..)
  | finishRecording => exact hsame (sameRequests_finishRecording ..)
  | dropRecording => exact hsame (sameRequests_dropRecording ..)
  | call other => exact hp.call other
  | receive view request =>
    rcases p.receive_cases view request with h | ⟨other, -, -, h⟩ <;> rw [Process.step, h]
    · exact hp
    · exact (hp.call other).of_jobs rfl rfl
  | beginJob m => exact hp.beginJob m
  | completeJob m => exact hp.completeJob o m
  | answer m =>
    rcases p.answer_cases m with h | ⟨-, -, -, h⟩ <;> rw [Process.step, h]
    · exact hp
    · exact hp.of_jobs rfl rfl
  | hangUp m =>
    rcases p.hangUp_cases m with h | ⟨-, h⟩ <;> rw [Process.step, h]
    · exact hp
    · exact hp.of_jobs rfl rfl

theorem run (hp : p.Asked n c) (actions : List (Outside × Action)) :
    (p.run actions).Asked n c := by
  have hstep : ∀ (q : Process) (o : Outside) (a : Action),
      q.Asked n c → (q.step o a).Asked n c := fun _ o a hq => hq.step o a
  exact run_invariant hstep hp actions

/-- **An answer is the profile in the form that was asked for**, or an error in words. -/
theorem answer (hp : p.Asked n c) {response : Http.Response}
    (h : (p.answer n).1 = some response) :
    response.status = 200 ∧ response.contentType = some c.format.contentType ∨
      response.status = 500 ∧ response.contentType = some Http.Response.plainText := by
  unfold Process.answer at h
  split at h
  · split at h
    · next result hresult =>
      cases h
      obtain ⟨c', hjob⟩ := result?_eq_some_iff.1 hresult
      obtain ⟨-, hsuits⟩ := hp.suits hjob
      rcases result with (e | e) | captured
      · exact .inr ⟨rfl, rfl⟩
      · exact .inr ⟨rfl, rfl⟩
      · have hformat : captured.format = c.format := hsuits
        exact .inl ⟨rfl, by rw [← hformat]⟩
    · cases h
  · cases h

end Asked

section

variable {p : Process} {view : Server.View} {request : Http.Request}

/-- A request that is captured for asks for this capture, at the usual frequency. -/
theorem asked_receive {format : ProfileFormat} {seconds : Nat}
    (h : Server.dispatch view p.locked request = .capture format seconds) :
    (p.receive view request).2.2.Asked p.nextJob
      { format := format, duration := .ofSeconds seconds } := by
  rw [receive_of_capture h]
  exact ⟨Nat.lt_succ_self _, .queued, job?_call_self p _, trivial⟩

/-- **No client waits for a capture that breaks off**: at the usual frequency none does,
whatever is done in the meantime. -/
theorem result?_ne_panic {n : Nat} (h : (p.receive view request).1 = .capturing n)
    (actions : List (Outside × Action)) (e : Panic) :
    ((p.receive view request).2.2.run actions).result? n ≠ some (.error (.panic e)) := by
  obtain ⟨rfl, format, seconds, hdispatch⟩ := dispatch_of_capturing h
  have hasked := (asked_receive hdispatch).run actions
  intro hresult
  obtain ⟨c, hjob⟩ := result?_eq_some_iff.1 hresult
  have hzero : Sampler.defaultFrequency = 0 := (hasked.suits hjob).2
  exact absurd hzero (by decide)

end

/-! ### What becomes of a request -/

/-- **The order in which a request is decided on**, and what each decision says and does. -/
structure Precedence (p : Process) : Prop where
  /-- A path that is no route is refused first, whatever the method, the query and the lock. -/
  unknown : ∀ view request, (∀ e, ¬ Server.IsRoute request.path e) →
    p.receive view request =
      (.answered (.text 404 ("unknown profile: ".toList ++ request.path ++ ['\n'])), [], p)
  /-- Then a method but `GET`, whatever the query and the lock. -/
  method : ∀ view request e, Server.IsRoute request.path e → request.method ≠ "GET" →
    p.receive view request =
      (.answered
        { Http.Response.fixed 405 "only GET is supported\n" with allow := some "GET" }, [], p)
  /-- Then, for a capture, a query whose seconds are in error, whatever the lock. -/
  seconds : ∀ view request e format why, Server.IsRoute request.path e →
    request.method = "GET" → e.format? = some format →
    Server.Seconds.ofQuery request.query = .error why →
    p.receive view request =
      (.answered (.text 400 ((Error.invalidArgument why).message.toList ++ ['\n'])), [], p)
  /-- Then, for a capture, the lock. -/
  busy : ∀ view request e format n, Server.IsRoute request.path e →
    request.method = "GET" → e.format? = some format →
    Server.Seconds.ofQuery request.query = .ok n → p.locked = true →
    p.receive view request =
      (.answered (.fixed 409 "a cpu profile is already being captured\n"), [], p)
  /-- Only then a capture is asked for, which takes the lock, and whose request waits. -/
  captured : ∀ view request e format n, Server.IsRoute request.path e →
    request.method = "GET" → e.format? = some format →
    Server.Seconds.ofQuery request.query = .ok n → p.locked = false →
    p.receive view request = (.capturing p.nextJob, [requested format n],
      { (p.call { format := format, duration := .ofSeconds n }).2 with
        waiting := p.nextJob :: p.waiting, locked := true })
  /-- What captures nothing answers at once, whatever the query and the lock; only where the
  threads cannot be listed is the answer none of success. -/
  others : ∀ view request e, Server.IsRoute request.path e → request.method = "GET" →
    e.format? = none →
    (e = .cmdline → ∀ a ∈ view.arguments, (Utf8.decode? a).isSome) →
    ∃ body, p.receive view request =
      (.answered (.text (if e = .threads ∧ view.threads.isOk = false then 500 else 200) body),
        [], p)
  /-- Whatever is answered at once is a text, and neither changes anything nor is logged. -/
  answered : ∀ view request response, (p.receive view request).1 = .answered response →
    response.contentType = some "text/plain; charset=utf-8" ∧
      (p.receive view request).2 = ([], p)
  /-- A request that is captured for is answered with the profile, in the form of its path,
  or with an error, which is a text. -/
  later : ∀ view request e format n, Server.IsRoute request.path e → request.method = "GET" →
    e.format? = some format → Server.Seconds.ofQuery request.query = .ok n →
    p.locked = false → ∀ actions response,
    (((p.receive view request).2.2.run actions).answer p.nextJob).1 = some response →
    response.status = 200 ∧ response.contentType = some format.contentType ∨
      response.status = 500 ∧ response.contentType = some "text/plain; charset=utf-8"
  /-- Two requests of one method and one path come to the same, if their queries ask for the
  same seconds, or if the method or the path is none that captures. -/
  heedless : ∀ view request request', request'.method = request.method →
    request'.path = request.path →
    (Server.Seconds.ofQuery request'.query = Server.Seconds.ofQuery request.query ∨
      request.method ≠ "GET" ∨ ∀ e, Server.IsRoute request.path e → e.format? = none) →
    p.receive view request' = p.receive view request

/-- **Requests are decided on in one order**, whatever has become of the process. -/
theorem precedence (p : Process) : p.Precedence := by
  have hcapture : ∀ view request e format n, Server.IsRoute request.path e →
      request.method = "GET" → e.format? = some format →
      Server.Seconds.ofQuery request.query = .ok n → p.locked = false →
      Server.dispatch view p.locked request = .capture format n := by
    intro view request e format n hroute hmethod hformat hseconds hfree
    rw [Server.dispatch_of_route hroute hmethod, Server.dispatchEndpoint_of_format hformat,
      Server.dispatchCapture, hseconds, hfree]
    rfl
  constructor
  case unknown => exact fun view request h => receive_of_respond (Server.dispatch_of_unknown h)
  case method =>
    exact fun view request e hroute hmethod =>
      receive_of_respond (Server.dispatch_of_method hroute hmethod)
  case seconds =>
    intro view request e format why hroute hmethod hformat hseconds
    refine receive_of_respond ?_
    rw [Server.dispatch_of_route hroute hmethod, Server.dispatchEndpoint_of_format hformat,
      Server.dispatchCapture, hseconds]
    rfl
  case busy =>
    intro view request e format n hroute hmethod hformat hseconds hlocked
    refine receive_of_respond ?_
    rw [Server.dispatch_of_route hroute hmethod, Server.dispatchEndpoint_of_format hformat,
      Server.dispatchCapture, hseconds, hlocked]
    rfl
  case captured =>
    intro view request e format n hroute hmethod hformat hseconds hfree
    refine receive_of_capture ?_
    exact hcapture view request e format n hroute hmethod hformat hseconds hfree
  case others =>
    intro view request e hroute hmethod hformat hunicode
    obtain ⟨body, hbody⟩ := Server.dispatchEndpoint_of_no_format hformat hunicode
    refine ⟨body, receive_of_respond ?_⟩
    rw [Server.dispatch_of_route hroute hmethod]
    exact hbody p.locked request.query
  case answered =>
    intro view request response h
    have hdispatch := dispatch_of_answered h
    rw [receive_of_respond hdispatch]
    exact ⟨Server.contentType_of_dispatch hdispatch, rfl⟩
  case later =>
    intro view request e format n hroute hmethod hformat hseconds hfree actions response hanswer
    have hasked := asked_receive
      (hcapture view request e format n hroute hmethod hformat hseconds hfree)
    exact (hasked.run actions).answer hanswer
  case heedless =>
    intro view request request' hmethod hpath hquery
    simp only [receive, Server.dispatch_congr hmethod hpath hquery]

/-- **Requests are decided on in one order, and refused without a trace**: by the path, then
by the method, then by the seconds, then by the lock. What a request is taken for depends on
the first line of its message, and on no header and no body. -/
theorem precedence_of_message (p : Process) :
    p.Precedence ∧ ∀ first headers headers' body body', Http.Wire.IsLine first →
      (∀ line ∈ headers, Http.Wire.isHeader line = true) →
      (∀ line ∈ headers', Http.Wire.isHeader line = true) →
      Http.Wire.read? (Http.Wire.message first headers body) =
        Http.Wire.read? (Http.Wire.message first headers' body') :=
  ⟨p.precedence, fun _ _ _ body body' hfirst hheaders hheaders' =>
    Http.Wire.read?_message hfirst hheaders hheaders' body body'⟩

/-- Where all four reasons hold at once, the path is what the answer is about. -/
example :
    let p : Process := { host := { files := ⟨[], []⟩ }, locked := true }
    let view : Server.View := { arguments := [], counters := {}, now := [], threads := .ok [] }
    let query := Utf8.encode "seconds=0".toList
    (p.receive view { method := "POST", path := "/debug".toList, query := some query }).1 =
      .answered (.fixed 404 "unknown profile: /debug\n") := by
  decide

end Process

end ProfilingTargets
