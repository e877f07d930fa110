import ProfilingTargets.Proofs.Process.Ownership

/-!
# The lock of the debug server

A request for a capture takes the server's lock and lets go of it when it is answered or
its client hangs up. Its capture owns the sampler from when it begins to when it ends.
The two are not the same time: a client that hangs up frees the lock and not the sampler.

## What is proved

* `Locked.step`, `locked_run`: the lock is held exactly while a request waits, and no
  two wait.
* `attended_run`: in a process that only serves, a capture that goes on is waited for,
  unless its client has hung up.
* `receive_while_sampling`: a request that comes while a capture samples is told so
  exactly if a request waits; if none does, the client of that capture has hung up, and
  the new request gets as far as the sampler, which refuses it.
-/

namespace ProfilingTargets.Process

/-! ### The lock -/

/-- **The lock is held exactly while a request waits**, and no second one waits. -/
structure Locked (p : Process) : Prop where
  /-- One request waits if the lock is held, and else none. -/
  length_waiting : p.waiting.length = p.locked.toNat

theorem Locked.waiting_eq_nil {p : Process} (hp : p.Locked) (hfree : p.locked = false) :
    p.waiting = [] := by
  have hlength := hp.length_waiting
  rw [hfree] at hlength
  exact List.eq_nil_of_length_eq_zero hlength

theorem Locked.locked_iff {p : Process} (hp : p.Locked) :
    p.locked = true ↔ p.waiting ≠ [] := by
  have hlength := hp.length_waiting
  cases hl : p.locked <;> rw [hl] at hlength
  · simp [List.eq_nil_of_length_eq_zero hlength]
  · simp only [true_iff, ne_eq]
    rintro hnil
    simp [hnil] at hlength

/-- The request that waits is the only one. -/
theorem Locked.waiting_eq {p : Process} (hp : p.Locked) {n : Nat} (hn : n ∈ p.waiting) :
    p.waiting = [n] := by
  have hle : p.waiting.length ≤ 1 := hp.length_waiting ▸ Bool.toNat_le _
  have hpos : 0 < p.waiting.length := List.length_pos_of_mem hn
  obtain ⟨m, hm⟩ := List.length_eq_one_iff.1 (Nat.le_antisymm hle hpos)
  rw [hm] at hn ⊢
  rw [List.mem_singleton.1 hn]

theorem Locked.of_sameRequests {p q : Process} (h : p.SameRequests q) (hp : p.Locked) :
    q.Locked := by
  constructor
  rw [h.waiting, h.locked]
  exact hp.length_waiting

theorem Locked.of_advances {p q : Process} {n : Nat} (h : p.Advances n q) (hp : p.Locked) :
    q.Locked := by
  rcases h with rfl | ⟨-, -, -, -, -, -, rfl⟩
  · exact hp
  · exact ⟨hp.length_waiting⟩

theorem Locked.release {p : Process} (hp : p.Locked) {n : Nat} (hn : n ∈ p.waiting) :
    (p.release n).Locked := by
  constructor
  simp [Process.release, hp.waiting_eq hn]

/-- **Every action keeps the lock with the request that waits.** -/
theorem Locked.step {p : Process} (hp : p.Locked) (o : Outside) (a : Action) :
    (p.step o a).Locked := by
  cases a with
  | startRecording => exact hp.of_sameRequests (sameRequests_startRecording ..)
  | startOptional => exact hp.of_sameRequests (sameRequests_startOptional ..)
  | finishRecording => exact hp.of_sameRequests (sameRequests_finishRecording ..)
  | dropRecording => exact hp.of_sameRequests (sameRequests_dropRecording ..)
  | call c => exact ⟨hp.length_waiting⟩
  | receive view request =>
    rcases p.receive_cases view request with h | ⟨c, -, hfree, h⟩ <;> simp only [Process.step, h]
    · exact hp
    · constructor
      simp [hp.waiting_eq_nil hfree]
  | beginJob n => exact hp.of_advances (p.advances_beginJob n)
  | completeJob n => exact hp.of_advances (p.advances_completeJob o n)
  | answer n =>
    rcases p.answer_cases n with h | ⟨-, -, hn, h⟩ <;> simp only [Process.step, h]
    · exact hp
    · exact hp.release hn
  | hangUp n =>
    rcases p.hangUp_cases n with h | ⟨hn, h⟩ <;> simp only [Process.step, h]
    · exact hp
    · exact hp.release hn

theorem Locked.run {p : Process} (hp : p.Locked) (actions : List (Outside × Action)) :
    (p.run actions).Locked :=
  run_invariant (fun _ o a hq => hq.step o a) hp actions

theorem locked_run (host : Host) (actions : List (Outside × Action)) :
    (({ host := host } : Process).run actions).Locked :=
  Locked.run ⟨rfl⟩ actions

/-! ### Who waits for a capture -/

/-- An action of the server or of a client: nothing else uses the sampler. -/
def Action.IsServer : Action → Prop
  | .receive _ _ | .beginJob _ | .completeJob _ | .answer _ | .hangUp _ => True
  | _ => False

theorem Action.IsServer.isPaced {a : Action} (h : a.IsServer) : a.IsPaced := by
  cases a <;> trivial

/-- In the course of some actions, the client of a number hangs up. -/
def HangsUp (n : Nat) (actions : List (Outside × Action)) : Prop :=
  ∃ a ∈ actions, a.2 = .hangUp n

/-- **A capture that goes on is waited for**, unless its client is `gone`. -/
def Attended (gone : Nat → Prop) (p : Process) : Prop :=
  ∀ n job, p.job? n = some job → job.stage.IsEnded ∨ n ∈ p.waiting ∨ gone n

theorem Attended.mono {gone gone' : Nat → Prop} {p : Process} (hp : p.Attended gone)
    (h : ∀ n, gone n → gone' n) : p.Attended gone' :=
  fun n job hjob => (hp n job hjob).imp_right (Or.imp_right (h n))

theorem Attended.of_advances {gone : Nat → Prop} {p q : Process} {n : Nat}
    (h : p.Advances n q) (hp : p.Attended gone) : q.Attended gone := by
  rcases h with rfl | ⟨job, s, stage, hn, hgoing, -, rfl⟩
  · exact hp
  intro m other hm
  rw [job?_setStage, Option.map_eq_some_iff] at hm
  obtain ⟨before, hbefore, heq⟩ := hm
  split at heq
  · next hmn =>
    subst hmn
    rw [job?_withSampler, hn] at hbefore
    cases hbefore
    exact .inr ((hp m job hn).resolve_left hgoing)
  · subst heq
    exact hp m before hbefore

/-- A request that no longer waits has an answer, or its client is gone. -/
theorem Attended.release {gone : Nat → Prop} {p : Process} (hp : p.Attended gone) {n : Nat}
    (h : ∀ job, p.job? n = some job → job.stage.IsEnded ∨ gone n) :
    (p.release n).Attended gone := by
  intro m job hm
  by_cases hmn : m = n
  · subst hmn
    exact (h job hm).imp_right .inr
  · refine (hp m job hm).imp_right (Or.imp_left fun hwaiting => ?_)
    simp [Process.release, hwaiting, hmn]

/-- **An action of the server lets go of no capture that goes on**, and a client that
hangs up only of its own. -/
theorem Attended.step {gone : Nat → Prop} {p : Process} (hp : p.Attended gone)
    (o : Outside) {a : Action} (ha : a.IsServer) :
    (p.step o a).Attended fun n => gone n ∨ a = .hangUp n := by
  have hmono : ∀ q : Process, q.Attended gone → q.Attended fun n => gone n ∨ a = .hangUp n :=
    fun q hq => hq.mono fun n => .inl
  cases a with
  | startRecording | startOptional | finishRecording | dropRecording | call => exact ha.elim
  | receive view request =>
    refine hmono _ ?_
    rcases p.receive_cases view request with h | ⟨c, -, -, h⟩ <;> simp only [Process.step, h]
    · exact hp
    · intro n job hn
      have hcall : (p.call c).2.job? n = some job := hn
      rw [job?_call] at hcall
      split at hcall
      · next hnew => exact .inr (.inl (hnew ▸ List.mem_cons_self))
      · exact (hp n job hcall).imp_right (Or.imp_left (List.mem_cons_of_mem _))
  | beginJob n => exact hmono _ (hp.of_advances (p.advances_beginJob n))
  | completeJob n => exact hmono _ (hp.of_advances (p.advances_completeJob o n))
  | answer n =>
    refine hmono _ ?_
    rcases p.answer_cases n with h | ⟨result, hresult, -, h⟩ <;> simp only [Process.step, h]
    · exact hp
    · obtain ⟨c, hc⟩ := result?_eq_some_iff.1 hresult
      refine hp.release fun job hjob => .inl ?_
      rw [hc] at hjob
      cases hjob
      trivial
  | hangUp n =>
    rcases p.hangUp_cases n with h | ⟨-, h⟩ <;> simp only [Process.step, h]
    · exact hmono p hp
    · exact (hmono p hp).release fun _ _ => .inr (.inr rfl)

/-- **So does a run**: whose capture goes on and is not waited for has hung up. -/
theorem attended_run {gone : Nat → Prop} {p : Process} (hp : p.Attended gone)
    {actions : List (Outside × Action)} (hserver : ∀ a ∈ actions, a.2.IsServer) :
    (p.run actions).Attended fun n => gone n ∨ HangsUp n actions := by
  induction actions generalizing p gone with
  | nil => exact hp.mono fun n => .inl
  | cons head rest ih =>
    obtain ⟨o, a⟩ := head
    have hstep := hp.step o (hserver (o, a) List.mem_cons_self)
    refine (ih hstep fun b hb => hserver b (List.mem_cons_of_mem _ hb)).mono ?_
    rintro n ((hgone | rfl) | ⟨b, hb, hn⟩)
    · exact .inl hgone
    · exact .inr ⟨_, List.mem_cons_self, rfl⟩
    · exact .inr ⟨b, List.mem_cons_of_mem _ hb, hn⟩

/-- **Whoever does not hang up waits** until the capture has ended. -/
theorem mem_waiting_run {p : Process} {n : Nat} (hn : n ∈ p.waiting)
    {actions : List (Outside × Action)} (hserver : ∀ a ∈ actions, a.2.IsServer)
    (hstays : ¬ HangsUp n actions) {job : Job} (hjob : (p.run actions).job? n = some job)
    (hgoing : ¬ job.stage.IsEnded) : n ∈ (p.run actions).waiting := by
  -- of all clients, only this one has to be there still
  have hattended : p.Attended (· ≠ n) := by
    intro m _ _
    by_cases hm : m = n
    · exact .inr (.inl (hm ▸ hn))
    · exact .inr (.inr hm)
  rcases attended_run hattended hserver n job hjob with hended | hwaiting | hne | hgone
  · exact absurd hended hgoing
  · exact hwaiting
  · exact absurd rfl hne
  · exact absurd hgone hstays

/-- A server that only serves keeps the sampler to one owner. -/
theorem owned_run_of_isServer {host : Host} (hidle : host.sampler.running = false)
    {actions : List (Outside × Action)} (hserver : ∀ a ∈ actions, a.2.IsServer) :
    (({ host := host } : Process).run actions).Owned :=
  owned_run hidle fun a ha => (hserver a ha).isPaced

/-! ### Requests while a capture samples -/

theorem receive_of_locked {p : Process} (hlocked : p.locked = true) {request : Http.Request}
    {format : ProfileFormat} {seconds : Nat}
    (hask : Server.AsksCapture request format seconds) (view : Server.View) :
    p.receive view request = (.answered Server.alreadyCapturing, [], p) :=
  receive_of_respond (by rw [Server.dispatch_of_asks hask, if_pos hlocked])

theorem receive_of_free {p : Process} (hfree : p.locked = false) {request : Http.Request}
    {format : ProfileFormat} {seconds : Nat}
    (hask : Server.AsksCapture request format seconds) (view : Server.View) :
    p.receive view request = (.capturing p.nextJob, [requested format seconds],
      { (p.call { format := format, duration := .ofSeconds seconds }).2 with
        waiting := p.nextJob :: p.waiting, locked := true }) :=
  receive_of_capture (by rw [Server.dispatch_of_asks hask, if_neg (by simp [hfree])])

/-- **A capture that begins while another samples is answered with the sampler's refusal.** -/
theorem answer_beginJob_of_running {p : Process} (hrunning : p.host.sampler.running = true)
    {n : Nat} {c : Capture} (hqueued : p.job? n = some ⟨c, .queued⟩) (hwaiting : n ∈ p.waiting) :
    ((p.beginJob n).2.answer n).1 = some (Server.failed 500 (.profiler .running)) := by
  rw [beginJob_of_running hqueued hrunning]
  have hended := job?_setStage_self hqueued (.ended (.error (.error (.profiler .running))))
  simp only [answer, waiting_setStage, List.contains_iff_mem, hwaiting, if_true,
    result?_eq_some_iff.2 ⟨c, hended⟩, responseTo]

/-- **A request for a capture that comes while a capture samples** is told so exactly if a
request waits. If none does, then the client of the capture that samples has hung up, and
the new request gets past the lock: the sampler refuses it if that capture still samples
when its own begins, and it is answered 500. -/
theorem receive_while_sampling {host : Host} (hidle : host.sampler.running = false)
    {actions : List (Outside × Action)} (hserver : ∀ a ∈ actions, a.2.IsServer)
    {n : Nat} {c : Capture}
    (hsampling : (({ host := host } : Process).run actions).job? n = some ⟨c, .sampling⟩)
    {request : Http.Request} {format : ProfileFormat} {seconds : Nat}
    (hask : Server.AsksCapture request format seconds) (view : Server.View) :
    let p := ({ host := host } : Process).run actions
    ((p.receive view request).1 = .answered Server.alreadyCapturing ↔ p.waiting ≠ []) ∧
    (p.waiting = [] → HangsUp n actions ∧
      (p.receive view request).1 = .capturing p.nextJob ∧
      ∀ more : List (Outside × Action), (∀ a ∈ more, a.2.IsServer) →
        ¬ HangsUp p.nextJob more →
        let q := (p.receive view request).2.2.run more
        q.job? n = some ⟨c, .sampling⟩ → ∀ c', q.job? p.nextJob = some ⟨c', .queued⟩ →
          ((q.beginJob p.nextJob).2.answer p.nextJob).1 =
            some (Server.failed 500 (.profiler .running))) := by
  intro p
  have hlock : p.Locked := locked_run host actions
  have hfree : p.waiting = [] → p.locked = false := by
    intro hnone
    simpa [hnone] using hlock.locked_iff.not
  refine ⟨?_, fun hnone => ⟨?_, ?_, ?_⟩⟩
  · cases hl : p.locked with
    | true => simp [receive_of_locked hl hask, hlock.locked_iff.1 hl]
    | false => simp [receive_of_free hl hask, hlock.waiting_eq_nil hl]
  · have hattended : p.Attended fun m => False ∨ HangsUp m actions :=
      attended_run (fun _ _ h => by simp [job?] at h) hserver
    rcases hattended n _ hsampling with hended | hwaiting | hfalse | hgone
    · exact hended.elim
    · simp [hnone] at hwaiting
    · exact hfalse.elim
    · exact hgone
  · rw [receive_of_free (hfree hnone) hask]
  · intro more hmore hstays q hstill c' hqueued
    have hwaits : p.nextJob ∈ (p.receive view request).2.2.waiting := by
      simp [receive_of_free (hfree hnone) hask]
    have hwaiting : p.nextJob ∈ q.waiting :=
      mem_waiting_run hwaits hmore hstays hqueued not_false
    have hall : q = ({ host := host } : Process).run
        (actions ++ ({}, .receive view request) :: more) := by
      rw [run_append, run_cons]
      rfl
    have howned : q.Owned := by
      rw [hall]
      refine owned_run_of_isServer hidle fun a ha => ?_
      rcases List.mem_append.1 ha with ha | ha
      · exact hserver a ha
      · rcases List.mem_cons.1 ha with rfl | ha
        · trivial
        · exact hmore a ha
    exact answer_beginJob_of_running (howned.of_sampling hstill).2 hqueued hwaiting

/-! ### A client that hangs up -/

/-- A request for a capture of five minutes. -/
def fiveMinutes : Http.Request where
  method := Http.get
  path := "/debug/pprof/profile".toList
  query := some (Utf8.encode "seconds=300".toList)

theorem asksCapture_fiveMinutes : Server.AsksCapture fiveMinutes .pprof 300 :=
  ⟨⟨.profile, rfl, by decide⟩, rfl, by decide⟩

/-- A process of which there is nothing to see. -/
def blank : Server.View := { arguments := [], counters := {}, now := [], threads := .ok [] }

/-- A client asks for a capture, and hangs up while it samples. -/
def hungUp : List (Outside × Action) :=
  [({}, .receive blank fiveMinutes), ({}, .beginJob 0), ({}, .hangUp 0)]

/-- While the capture of a client that waits samples, the next request is told so. -/
theorem receive_while_sampling_waiting :
    let p := ({ host := { files := ⟨[], []⟩ } } : Process).run (hungUp.take 2)
    p.job? 0 = some ⟨{ format := .pprof, duration := .ofSeconds 300 }, .sampling⟩ ∧
      p.waiting = [0] ∧
      (p.receive blank fiveMinutes).1 = .answered Server.alreadyCapturing := by
  intro p
  have hserver : ∀ a ∈ hungUp.take 2, a.2.IsServer := by
    simp [hungUp, Action.IsServer]
  have hsampling : p.job? 0 =
      some ⟨{ format := .pprof, duration := .ofSeconds 300 }, .sampling⟩ := by rfl
  have hwaiting : p.waiting = [0] := by decide
  refine ⟨hsampling, hwaiting, ?_⟩
  have hreply := @receive_while_sampling { files := ⟨[], []⟩ } rfl _ hserver _ _ hsampling
    _ _ _ asksCapture_fiveMinutes blank
  exact hreply.1.2 (by simp [hwaiting, p])

/-- **A client that has hung up leaves a capture that the next request is not told of**: it
is not answered 409, and fails with 500. -/
theorem not_told_after_hangUp :
    let p := ({ host := { files := ⟨[], []⟩ } } : Process).run hungUp
    let q := (p.receive blank fiveMinutes).2.2
    p.job? 0 = some ⟨{ format := .pprof, duration := .ofSeconds 300 }, .sampling⟩ ∧
      (p.receive blank fiveMinutes).1 ≠ .answered Server.alreadyCapturing ∧
      ((q.beginJob 1).2.answer 1).1 = some (Server.failed 500 (.profiler .running)) := by
  refine ⟨rfl, ?_, ?_⟩
  · decide
  · decide

end ProfilingTargets.Process
