import ProfilingTargets.Proofs.Process.Lock

/-!
# Admission to a capture

What clients notice of their requests for captures: that one gets past the lock and has to
wait, that it is answered, that its client hangs up. A request is pending from the first of
these to one of the others (`Pending`). This is told from what is noticed alone, not from
what the process keeps about its requests.

## What is proved

* `Progress.of_step`: the three ways in which one action can change who waits.
* `Told.step`, `told_run`: the process keeps the pending requests, and no others, and whoever
  is through with is never pending again.
* `admission_run`: the lock is held exactly while a request is pending; there are never two;
  a request is turned away only because of another that is pending; whatever ends a request,
  an answer, an error of the sampler, or a client that hangs up, lets the next one in.
-/

namespace ProfilingTargets.Process

/-! ### What clients notice -/

/-- What a client notices of its request for a capture. -/
inductive Notice where
  /-- The request of this number has got past the lock, and waits. -/
  | admitted (n : Nat)
  /-- It is answered. -/
  | answered (n : Nat) (response : Http.Response)
  /-- Its client hangs up. -/
  | hungUp (n : Nat)

/-- What is noticed of an action. -/
def noticed (p : Process) : Action → Option Notice
  | .receive view request =>
    match (p.receive view request).1 with
    | .capturing n => some (.admitted n)
    | _ => none
  | .answer n => (p.answer n).1.map (.answered n)
  | .hangUp n => some (.hungUp n)
  | _ => none

/-- What is noticed of some actions. -/
def notices (p : Process) : List (Outside × Action) → List Notice
  | [] => []
  | (o, a) :: actions => (p.noticed a).toList ++ (p.step o a).notices actions

/-- A notice that ends the request of a number. -/
def Notice.Settles (n : Nat) : Notice → Prop
  | .admitted _ => False
  | .answered m _ | .hungUp m => m = n

/-- **A request is pending**: it has got past the lock, and since then it has not been
answered, nor has its client hung up. -/
def Pending (n : Nat) (told : List Notice) : Prop :=
  ∃ before after, told = before ++ .admitted n :: after ∧ ∀ notice ∈ after, ¬ notice.Settles n

/-- **A request is over**: since it got past the lock it has been answered, or its client has
hung up. -/
def Over (n : Nat) (told : List Notice) : Prop :=
  ∃ before after, told = before ++ .admitted n :: after ∧ ∃ notice ∈ after, notice.Settles n

section

variable {n : Nat} {told more : List Notice} {notice : Notice}

theorem Pending.admitted_mem (h : Pending n told) : .admitted n ∈ told := by
  obtain ⟨before, after, rfl, -⟩ := h
  exact List.mem_append_right _ List.mem_cons_self

theorem not_pending_nil : ¬ Pending n [] := by
  intro h
  cases h.admitted_mem

/-- An admission among some notices and one more is that one, or stands among the others. -/
theorem admitted_of_concat {before after : List Notice}
    (h : told ++ [notice] = before ++ .admitted n :: after) :
    notice = .admitted n ∧ after = [] ∨
      ∃ rest, after = rest ++ [notice] ∧ told = before ++ .admitted n :: rest := by
  rcases List.eq_nil_or_concat after with rfl | ⟨rest, last, rfl⟩
  · obtain ⟨-, hlast⟩ := List.append_inj' h rfl
    exact .inl ⟨List.singleton_inj.1 hlast, rfl⟩
  · have hsplit : told ++ [notice] = (before ++ .admitted n :: rest) ++ [last] := by
      simpa using h
    obtain ⟨htold, hlast⟩ := List.append_inj' hsplit rfl
    obtain rfl := List.singleton_inj.1 hlast
    exact .inr ⟨rest, List.concat_eq_append, htold⟩

/-- Who is admitted last is pending; who was pending is so until a notice ends it. -/
theorem pending_concat_iff :
    Pending n (told ++ [notice]) ↔
      notice = .admitted n ∨ Pending n told ∧ ¬ notice.Settles n := by
  constructor
  · rintro ⟨before, after, heq, hopen⟩
    rcases admitted_of_concat heq with ⟨hnotice, -⟩ | ⟨rest, rfl, rfl⟩
    · exact .inl hnotice
    · refine .inr ⟨⟨before, rest, rfl, fun other hother => ?_⟩, ?_⟩
      · exact hopen other (List.mem_append_left _ hother)
      · exact hopen notice (List.mem_append_right _ (List.mem_singleton_self _))
  · rintro (rfl | ⟨⟨before, after, rfl, hopen⟩, hnotice⟩)
    · exact ⟨told, [], rfl, by simp⟩
    · refine ⟨before, after ++ [notice], by simp, fun other hother => ?_⟩
      rcases List.mem_append.1 hother with hother | hother
      · exact hopen other hother
      · rw [List.mem_singleton.1 hother]
        exact hnotice

/-- What is over stays over. -/
theorem Over.append (h : Over n told) (more : List Notice) : Over n (told ++ more) := by
  obtain ⟨before, after, rfl, notice, hmem, hsettles⟩ := h
  exact ⟨before, after ++ more, by simp, notice, List.mem_append_left _ hmem, hsettles⟩

/-- Only a notice that ends a request makes it be over. -/
theorem over_of_concat (h : Over n (told ++ [notice])) :
    Over n told ∨ .admitted n ∈ told ∧ notice.Settles n := by
  obtain ⟨before, after, heq, other, hmem, hsettles⟩ := h
  rcases admitted_of_concat heq with ⟨-, rfl⟩ | ⟨rest, rfl, rfl⟩
  · cases hmem
  · rcases List.mem_append.1 hmem with hrest | hlast
    · exact .inl ⟨before, rest, rfl, other, hrest, hsettles⟩
    · rw [List.mem_singleton.1 hlast] at hsettles
      exact .inr ⟨List.mem_append_right _ List.mem_cons_self, hsettles⟩

end

/-! ### What one action does to the requests -/

/-- **What one action can do to the requests**: nothing, or it admits one under the next
number, or it ends one. -/
inductive Progress (p q : Process) : Option Notice → Prop where
  /-- Nobody notices anything. -/
  | silent (waiting : q.waiting = p.waiting) (nextJob : p.nextJob ≤ q.nextJob) : Progress p q none
  /-- A request is admitted. -/
  | admitted (waiting : q.waiting = p.nextJob :: p.waiting) (nextJob : q.nextJob = p.nextJob + 1) :
    Progress p q (some (.admitted p.nextJob))
  /-- A request is answered, or its client hangs up. -/
  | settled (n : Nat) (notice : Notice) (settles : ∀ m, notice.Settles m ↔ n = m)
    (waiting : q.waiting = p.waiting.filter (· != n)) (nextJob : q.nextJob = p.nextJob) :
    Progress p q (some notice)

namespace Progress

variable {p q : Process}

theorem of_sameRequests (h : p.SameRequests q) : Progress p q none :=
  .silent h.waiting (Nat.le_of_eq h.nextJob.symm)

theorem of_advances {n : Nat} (h : p.Advances n q) : Progress p q none := by
  rcases h with rfl | ⟨job, s, stage, -, -, -, rfl⟩
  · exact .silent rfl (Nat.le_refl _)
  · exact .silent rfl (Nat.le_refl _)

theorem receive (p : Process) (view : Server.View) (request : Http.Request) :
    Progress p (p.receive view request).2.2 (p.noticed (.receive view request)) := by
  cases hdispatch : Server.dispatch view p.locked request with
  | respond response =>
    rw [noticed, receive_of_respond hdispatch]
    exact .silent rfl (Nat.le_refl _)
  | panic e =>
    have hreceive : p.receive view request = (.panicked e, [], p) := by
      simp only [Process.receive, hdispatch]
    rw [noticed, hreceive]
    exact .silent rfl (Nat.le_refl _)
  | capture format seconds =>
    rw [noticed, receive_of_capture hdispatch]
    exact .admitted rfl rfl

theorem answer (p : Process) (n : Nat) :
    Progress p (p.answer n).2.2 (p.noticed (.answer n)) := by
  rw [noticed]
  by_cases hn : n ∈ p.waiting
  · cases hresult : p.result? n with
    | none =>
      have hanswer : p.answer n = (none, [], p) := by
        simp only [Process.answer, List.contains_iff_mem, hn, if_true, hresult]
      rw [hanswer]
      exact .silent rfl (Nat.le_refl _)
    | some result =>
      rw [answer_of_result hn hresult]
      exact .settled n _ (fun m => Iff.rfl) rfl rfl
  · have hanswer : p.answer n = (none, [], p) := by
      simp only [Process.answer, List.contains_iff_mem, hn, if_false]
    rw [hanswer]
    exact .silent rfl (Nat.le_refl _)

theorem hangUp (p : Process) (n : Nat) :
    Progress p (p.hangUp n) (p.noticed (.hangUp n)) := by
  unfold Process.hangUp
  split
  · exact .settled n _ (fun m => Iff.rfl) rfl rfl
  · next hnot =>
    -- whoever does not wait cannot be taken off the list
    have hmem : n ∉ p.waiting := fun h => hnot (List.contains_iff_mem.2 h)
    refine .settled n _ (fun m => Iff.rfl) ?_ rfl
    refine (List.filter_eq_self.2 fun m hm => ?_).symm
    exact bne_iff_ne.2 fun heq => hmem (heq ▸ hm)

/-- **Every action makes one of these three kinds of progress.** -/
theorem of_step (p : Process) (o : Outside) (a : Action) :
    Progress p (p.step o a) (p.noticed a) := by
  cases a with
  | startRecording => exact of_sameRequests (sameRequests_startRecording ..)
  | startOptional => exact of_sameRequests (sameRequests_startOptional ..)
  | finishRecording => exact of_sameRequests (sameRequests_finishRecording ..)
  | dropRecording => exact of_sameRequests (sameRequests_dropRecording ..)
  | call c => exact .silent rfl (Nat.le_succ _)
  | receive view request => exact receive p view request
  | beginJob n => exact of_advances (p.advances_beginJob n)
  | completeJob n => exact of_advances (p.advances_completeJob o n)
  | answer n => exact answer p n
  | hangUp n => exact hangUp p n

end Progress

/-! ### The process and its clients -/

/-- **The process knows its pending requests** by what clients have been told. -/
structure Told (p : Process) (told : List Notice) : Prop where
  /-- The numbers of those admitted have been given. -/
  given : ∀ n, .admitted n ∈ told → n < p.nextJob
  /-- Those that wait are those that are pending. -/
  waiting_iff : ∀ n, n ∈ p.waiting ↔ Pending n told
  /-- Whoever is through with waits no longer. -/
  through : ∀ n, Over n told → n ∉ p.waiting

namespace Told

variable {p : Process} {told : List Notice}

/-- **Every action keeps to what clients are told of it.** -/
theorem step (h : Told p told) (o : Outside) (a : Action) :
    Told (p.step o a) (told ++ (p.noticed a).toList) := by
  have hprogress := Progress.of_step p o a
  revert hprogress
  generalize p.step o a = q
  generalize p.noticed a = notice?
  intro hprogress
  cases hprogress with
  | silent waiting nextJob =>
    rw [Option.toList_none, List.append_nil]
    refine ⟨fun n hn => Nat.lt_of_lt_of_le (h.given n hn) nextJob, ?_, ?_⟩
    · rw [waiting]
      exact h.waiting_iff
    · rw [waiting]
      exact h.through
  | admitted waiting nextJob =>
    rw [Option.toList_some]
    refine ⟨fun n hn => ?_, fun n => ?_, fun n hover => ?_⟩
    · rw [nextJob]
      rcases List.mem_append.1 hn with hn | hn
      · exact Nat.lt_succ_of_lt (h.given n hn)
      · cases List.mem_singleton.1 hn
        exact Nat.lt_succ_self _
    · rw [waiting, List.mem_cons, h.waiting_iff, pending_concat_iff, Notice.admitted.injEq]
      simp only [Notice.Settles, not_false_eq_true, and_true, eq_comm]
    · -- the next number is new, and is not that of a request that is over
      rcases over_of_concat hover with hover | ⟨-, hsettles⟩
      · obtain ⟨before, after, rfl, -⟩ := id hover
        have hlt := h.given n (List.mem_append_right _ List.mem_cons_self)
        rw [waiting, List.mem_cons, not_or]
        exact ⟨Nat.ne_of_lt hlt, h.through n hover⟩
      · exact hsettles.elim
  | settled m notice settles waiting nextJob =>
    rw [Option.toList_some]
    have hadmitted : ∀ n, notice ≠ .admitted n := by
      rintro n rfl
      exact (settles m).2 rfl
    have hmem : ∀ n, n ∈ q.waiting ↔ n ∈ p.waiting ∧ m ≠ n := by
      intro n
      rw [waiting, List.mem_filter, bne_iff_ne, ne_comm]
    refine ⟨fun n hn => ?_, fun n => ?_, fun n hover hn => ?_⟩
    · rw [nextJob]
      rcases List.mem_append.1 hn with hn | hn
      · exact h.given n hn
      · exact absurd (List.mem_singleton.1 hn).symm (hadmitted n)
    · rw [hmem, h.waiting_iff, pending_concat_iff, settles]
      simp only [hadmitted, false_or]
    · obtain ⟨hn, hne⟩ := (hmem n).1 hn
      rcases over_of_concat hover with hover | ⟨-, hsettles⟩
      · exact h.through n hover hn
      · exact hne ((settles n).1 hsettles)

theorem run (h : Told p told) (actions : List (Outside × Action)) :
    Told (p.run actions) (told ++ p.notices actions) := by
  induction actions generalizing p told with
  | nil =>
    rw [notices, List.append_nil]
    exact h
  | cons head rest ih =>
    obtain ⟨o, a⟩ := head
    rw [notices, ← List.append_assoc, run_cons]
    exact ih (h.step o a)

end Told

theorem told_start (host : Host) : Told { host := host } [] := by
  refine ⟨by simp, fun n => ?_, by simp⟩
  simp only [List.not_mem_nil, not_pending_nil]

/-- **So does every run.** -/
theorem told_run (host : Host) (actions : List (Outside × Action)) :
    Told (({ host := host } : Process).run actions)
      (({ host := host } : Process).notices actions) :=
  (told_start host).run actions

/-! ### Answers -/

/-- An answer reports success or a failure of the server. -/
theorem status_responseTo (result : Except Failure Captured) :
    (responseTo result).1.status = 200 ∨ (responseTo result).1.status = 500 := by
  rcases result with (e | e) | captured
  · exact .inr rfl
  · exact .inr rfl
  · exact .inl rfl

/-- What the sampler's refusal is answered with. -/
theorem responseTo_running :
    (responseTo (.error (.error (.profiler .running)))).1 =
      .fixed 500 "Profiler error: start running cpu profiler error\n" := by
  have hmessage : (Error.profiler .running).message ++ "\n" =
      "Profiler error: start running cpu profiler error\n" := by decide
  rw [← hmessage, Http.Response.fixed, String.toList_append]
  rfl

/-! ### Who is let past the lock -/

/-- **Requests are admitted one at a time**: what holds of a process whose clients have been
told this much. -/
structure Admission (p : Process) (told : List Notice) : Prop where
  /-- The lock is held exactly while one request is pending. -/
  locked_iff : p.locked = true ↔ ∃! n, Pending n told
  /-- No two requests are pending. -/
  unique : ∀ m n, Pending m told → Pending n told → m = n
  /-- Whoever is told of a conflict is told so because a request is pending. -/
  refused : ∀ view request response, (p.receive view request).1 = .answered response →
    response.status = 409 → ∃ n, Pending n told
  /-- A valid request for a capture is told so while one is pending, and admitted else. -/
  decided : ∀ view request format seconds, Server.AsksCapture request format seconds →
    ((∃ n, Pending n told) → (p.receive view request).1 =
      .answered (.fixed 409 "a cpu profile is already being captured\n")) ∧
    ((¬ ∃ n, Pending n told) → (p.receive view request).1 = .capturing p.nextJob)
  /-- Whoever is admitted is told of the result once there is one, good or bad, and never of
  a conflict. -/
  answered : ∀ n, Pending n told → ∀ result, p.result? n = some result →
    ∃ response, (p.answer n).1 = some response ∧
      (response.status = 200 ∨ response.status = 500)
  /-- The end of a pending request, an answer or a client that hangs up, frees the lock and
  leaves no request pending. -/
  freed : ∀ n o a notice, Pending n told → p.noticed a = some notice → notice.Settles n →
    (p.step o a).locked = false ∧ ¬ ∃ m, Pending m (told ++ [notice])
  /-- Whatever happens after a request is over, nobody is told of a conflict because of it. -/
  afterwards : ∀ n, Over n told → ∀ more view request response,
    ((p.run more).receive view request).1 = .answered response → response.status = 409 →
    ∃ m, m ≠ n ∧ Pending m (told ++ p.notices more)
  /-- A request whose capture begins while the sampler runs is answered with the sampler's
  refusal, whatever comes in between, and lets go of the lock. -/
  running : ∀ n c, Pending n told → p.job? n = some ⟨c, .queued⟩ →
    p.host.sampler.running = true → ∀ o more,
    Pending n (told ++ p.notices ((o, .beginJob n) :: more)) →
    ((p.run ((o, .beginJob n) :: more)).answer n).1 =
        some (.fixed 500 "Profiler error: start running cpu profiler error\n") ∧
      ((p.run ((o, .beginJob n) :: more)).answer n).2.2.locked = false

section

variable {p : Process} {told : List Notice}

/-- Somebody is pending exactly while the lock is held. -/
theorem Told.locked_iff (h : Told p told) (hlocked : p.Locked) :
    p.locked = true ↔ ∃ n, Pending n told := by
  rw [hlocked.locked_iff]
  constructor
  · intro hne
    obtain ⟨n, hn⟩ := List.exists_mem_of_ne_nil _ hne
    exact ⟨n, (h.waiting_iff n).1 hn⟩
  · rintro ⟨n, hn⟩
    exact List.ne_nil_of_mem ((h.waiting_iff n).2 hn)

/-- A conflict is answered only while somebody is pending. -/
theorem Told.pending_of_conflict (h : Told p told) (hlocked : p.Locked) {view : Server.View}
    {request : Http.Request} {response : Http.Response}
    (hanswered : (p.receive view request).1 = .answered response)
    (hstatus : response.status = 409) :
    ∃ n, Pending n told := by
  refine (h.locked_iff hlocked).1 ?_
  exact Server.locked_of_conflict (dispatch_of_answered hanswered) hstatus

/-- No two requests are pending. -/
theorem Told.pending_unique (h : Told p told) (hlocked : p.Locked) {m n : Nat}
    (hm : Pending m told) (hn : Pending n told) : m = n := by
  have hwaiting := hlocked.waiting_eq ((h.waiting_iff n).2 hn)
  have hmem := (h.waiting_iff m).2 hm
  rw [hwaiting] at hmem
  exact List.mem_singleton.1 hmem

/-- The end of the pending request leaves none pending. -/
theorem Told.not_pending_of_settles (h : Told p told) (hlocked : p.Locked) {n : Nat}
    {notice : Notice} (hn : Pending n told) (hsettles : notice.Settles n) :
    ¬ ∃ m, Pending m (told ++ [notice]) := by
  rintro ⟨m, hm⟩
  rcases pending_concat_iff.1 hm with rfl | ⟨hbefore, hopen⟩
  · exact hsettles
  · -- it is the same request, and that one is over
    rw [h.pending_unique hlocked hbefore hn] at hopen
    exact hopen hsettles

/-- A capture that begins while the sampler runs ends with the sampler's refusal. -/
theorem finished_of_running {n : Nat} {c : Capture} (hgiven : n < p.nextJob)
    (hqueued : p.job? n = some ⟨c, .queued⟩) (hrunning : p.host.sampler.running = true) :
    (p.beginJob n).2.Finished n (.error (.error (.profiler .running))) := by
  rw [beginJob_of_running hqueued hrunning]
  exact ⟨hgiven, c, _, job?_setStage_self hqueued _, rfl⟩

/-- **A process that knows its pending requests admits one at a time**, if its lock is held
for them. -/
theorem Told.admission (h : Told p told) (hlocked : p.Locked) : Admission p told := by
  have hlock := h.locked_iff hlocked
  constructor
  case locked_iff =>
    rw [hlock]
    constructor
    · rintro ⟨n, hn⟩
      exact ⟨n, hn, fun m hm => h.pending_unique hlocked hm hn⟩
    · rintro ⟨n, hn, -⟩
      exact ⟨n, hn⟩
  case unique =>
    intro m n hm hn
    exact h.pending_unique hlocked hm hn
  case refused =>
    intro view request response hanswered hstatus
    exact h.pending_of_conflict hlocked hanswered hstatus
  case decided =>
    intro view request format seconds hask
    refine ⟨fun hpending => ?_, fun hnone => ?_⟩
    · rw [receive_of_locked (hlock.2 hpending) hask]
      rfl
    · have hfree : p.locked = false := by
        rw [← Bool.not_eq_true, hlock]
        exact hnone
      rw [receive_of_free hfree hask]
  case answered =>
    intro n hn result hresult
    rw [answer_of_result ((h.waiting_iff n).2 hn) hresult]
    exact ⟨_, rfl, status_responseTo result⟩
  case freed =>
    intro n o a notice hn hnotice hsettles
    have hnext := h.step o a
    rw [hnotice, Option.toList_some] at hnext
    have hnone := h.not_pending_of_settles hlocked hn hsettles
    refine ⟨?_, hnone⟩
    rw [← Bool.not_eq_true, hnext.locked_iff (hlocked.step o a)]
    exact hnone
  case afterwards =>
    intro n hover more view request response hanswered hstatus
    have hlater := h.run more
    obtain ⟨m, hm⟩ := hlater.pending_of_conflict (hlocked.run more) hanswered hstatus
    refine ⟨m, ?_, hm⟩
    rintro rfl
    exact hlater.through m (hover.append _) ((hlater.waiting_iff m).2 hm)
  case running =>
    intro n c hn hqueued hrunning o more hstill
    have hlater := h.run ((o, .beginJob n) :: more)
    have hresult : (p.run ((o, .beginJob n) :: more)).result? n =
        some (.error (.error (.profiler .running))) := by
      have hfinished := finished_of_running (h.given n hn.admitted_mem) hqueued hrunning
      rw [run_cons]
      exact (hfinished.run more).result
    rw [answer_of_result ((hlater.waiting_iff n).2 hstill) hresult]
    exact ⟨congrArg some responseTo_running, rfl⟩

end

/-- **The lock of the server is held for the pending request and for nothing else**, in
whatever order requests, clients, captures and the rest of the process get on. -/
theorem admission_run (host : Host) (actions : List (Outside × Action)) :
    Admission (({ host := host } : Process).run actions)
      (({ host := host } : Process).notices actions) :=
  (told_run host actions).admission (locked_run host actions)

/-- A client hangs up while its capture samples, and the next request is admitted. -/
example :
    let p : Process := { host := { files := ⟨[], []⟩ } }
    p.notices (hungUp ++ [(({} : Outside), .receive blank fiveMinutes)]) =
      [.admitted 0, .hungUp 0, .admitted 1] := rfl

end ProfilingTargets.Process
