import ProfilingTargets.Server.Dispatch

/-!
# What a request leads to

The paths that are served are few (`routes`), and no spelling of them leads elsewhere
(`ofPath?_eq_some_iff`). What a request leads to is decided by its path, then by its
method, then by its query, and by the lock at last; each lemma here is about one of these.

A valid request for a capture (`AsksCapture`) is refused only because of the lock
(`dispatch_of_asks`), and nothing else leads to a capture while the lock is held
(`locked_of_dispatch`).
-/

namespace ProfilingTargets.Server

/-- The form in which an endpoint hands out a capture, if it hands out any. -/
def Endpoint.format? : Endpoint → Option ProfileFormat
  | .profile => some .pprof
  | .flamegraph => some .flamegraph
  | _ => none

/-- The path of an endpoint leads to no other endpoint. -/
theorem Endpoint.ofPath?_of_mem_paths {e : Endpoint} {path : List Char} (h : path ∈ e.paths) :
    Endpoint.ofPath? path = some e := by
  cases e <;> simp only [paths, List.mem_cons, List.not_mem_nil, or_false] at h
  case index => rcases h with rfl | rfl <;> decide
  all_goals subst h; decide

/-! ### Routes -/

/-- The paths that are served, as they have to be sent. -/
def routes : List (String × Endpoint) :=
  [("/debug/pprof", .index), ("/debug/pprof/", .index), ("/debug/pprof/profile", .profile),
    ("/debug/pprof/flamegraph", .flamegraph), ("/debug/pprof/heap", .heap),
    ("/debug/pprof/threads", .threads), ("/debug/pprof/cmdline", .cmdline)]

/-- A path is served by an endpoint. -/
def IsRoute (path : List Char) (e : Endpoint) : Prop := (String.ofList path, e) ∈ routes

theorem isRoute_iff_mem_paths {path : List Char} {e : Endpoint} :
    IsRoute path e ↔ path ∈ e.paths := by
  have hof : ∀ text : String, String.ofList path = text ↔ path = text.toList := by
    intro text
    constructor
    · rintro rfl
      exact String.toList_ofList.symm
    · rintro rfl
      exact String.ofList_toList
  cases e <;>
    simp only [IsRoute, routes, List.mem_cons, List.not_mem_nil, Prod.mk.injEq, reduceCtorEq,
      and_false, and_true, or_false, false_or, hof, Endpoint.paths]
  case index => exact or_comm
  all_goals rfl

/-- **The endpoints' paths are the routes**, and nothing else is. -/
theorem ofPath?_eq_some_iff {path : List Char} {e : Endpoint} :
    Endpoint.ofPath? path = some e ↔ IsRoute path e := by
  rw [isRoute_iff_mem_paths]
  constructor
  · intro h
    simpa using List.find?_some h
  · exact Endpoint.ofPath?_of_mem_paths

theorem ofPath?_eq_none_iff {path : List Char} :
    Endpoint.ofPath? path = none ↔ ∀ e, ¬ IsRoute path e := by
  simp only [← ofPath?_eq_some_iff, Option.eq_none_iff_forall_ne_some, ne_eq]

/-! ### The command line -/

section

variable {arguments : List Bytes}

/-- A command line of texts is shown. -/
theorem commandLine_of_unicode (h : ∀ a ∈ arguments, (Utf8.decode? a).isSome) :
    commandLine arguments =
      .respond (.text 200 (['\x00'].intercalate (arguments.map Utf8.decodeLossy))) := by
  have hnone : arguments.find? (fun a => (Utf8.decode? a).isNone) = none := by
    rw [List.find?_eq_none]
    intro a ha hbad
    have hgood := h a ha
    rw [Option.isNone_iff_eq_none.1 hbad] at hgood
    cases hgood
  rw [commandLine, hnone]

/-- One argument that is no text breaks it off, and nothing else does. -/
theorem commandLine_eq_panic_iff :
    (∃ p, commandLine arguments = .panic p) ↔ ∃ a ∈ arguments, Utf8.decode? a = none := by
  constructor
  · rintro ⟨p, h⟩
    unfold commandLine at h
    split at h
    · next a hfind =>
      have hbad := List.find?_some hfind
      exact ⟨a, List.mem_of_find?_eq_some hfind, Option.isNone_iff_eq_none.1 hbad⟩
    · cases h
  · rintro ⟨a, ha, hbad⟩
    unfold commandLine
    split
    · exact ⟨_, rfl⟩
    · next hnone =>
      have hgood := List.find?_eq_none.1 hnone a ha
      rw [hbad] at hgood
      exact absurd rfl hgood

end

/-! ### The order of refusals -/

section

variable {view : View} {locked : Bool} {request : Http.Request} {e : Endpoint}

theorem dispatch_of_unknown (h : ∀ e, ¬ IsRoute request.path e) :
    dispatch view locked request = .respond (unknownPath request.path) := by
  simp only [dispatch, ofPath?_eq_none_iff.2 h]

theorem dispatch_of_method (h : IsRoute request.path e) (hmethod : request.method ≠ Http.get) :
    dispatch view locked request = .respond wrongMethod := by
  simp only [dispatch, ofPath?_eq_some_iff.2 h, ne_eq, hmethod, not_false_eq_true, if_true]

theorem dispatch_of_route (h : IsRoute request.path e) (hmethod : request.method = Http.get) :
    dispatch view locked request = dispatchEndpoint view locked request.query e := by
  simp only [dispatch, ofPath?_eq_some_iff.2 h, hmethod, ne_eq, not_true_eq_false, if_false]

theorem dispatchEndpoint_of_format {format : ProfileFormat} (h : e.format? = some format)
    (query? : Option Bytes) :
    dispatchEndpoint view locked query? e = dispatchCapture locked query? format := by
  cases e <;> simp only [Endpoint.format?, reduceCtorEq, Option.some.injEq] at h
  case profile => subst h; rfl
  case flamegraph => subst h; rfl

/-- An endpoint that captures nothing answers, whatever the query and the lock are. Only
where the threads cannot be listed is its answer none of success. -/
theorem dispatchEndpoint_of_no_format (h : e.format? = none)
    (hunicode : e = .cmdline → ∀ a ∈ view.arguments, (Utf8.decode? a).isSome) :
    ∃ body, ∀ locked query?, dispatchEndpoint view locked query? e =
      .respond (.text (if e = .threads ∧ view.threads.isOk = false then 500 else 200) body) := by
  cases e <;> simp only [Endpoint.format?, reduceCtorEq] at h
  case index => exact ⟨_, fun _ _ => rfl⟩
  case heap => exact ⟨_, fun _ _ => rfl⟩
  case threads =>
    cases hthreads : view.threads with
    | ok entries => exact ⟨_, fun _ _ => by rw [dispatchEndpoint, hthreads]; rfl⟩
    | error why => exact ⟨_, fun _ _ => by rw [dispatchEndpoint, hthreads]; rfl⟩
  case cmdline =>
    refine ⟨['\x00'].intercalate (view.arguments.map Utf8.decodeLossy), fun _ _ => ?_⟩
    rw [dispatchEndpoint, commandLine_of_unicode (hunicode rfl)]
    rfl

/-- **What an answer at once can be**: a text, and of a conflict only while the lock is held. -/
theorem respond_cases {response : Http.Response}
    (h : dispatch view locked request = .respond response) :
    response.contentType = some Http.Response.plainText ∧
      (response.status = 409 → locked = true) := by
  -- most answers are texts with a status of their own
  have htext : ∀ status cs, status ≠ 409 → response = .text status cs →
      response.contentType = some Http.Response.plainText ∧
        (response.status = 409 → locked = true) := by
    rintro status cs hne rfl
    exact ⟨rfl, fun hstatus => absurd hstatus hne⟩
  have hcapture : ∀ query? format, dispatchCapture locked query? format = .respond response →
      response.contentType = some Http.Response.plainText ∧
        (response.status = 409 → locked = true) := by
    intro query? format hc
    unfold dispatchCapture at hc
    split at hc
    · cases hc
      exact htext 400 _ (by decide) rfl
    · cases locked
      · cases hc
      · cases hc
        exact ⟨rfl, fun _ => rfl⟩
  unfold dispatch at h
  split at h
  · cases h
    exact htext 404 _ (by decide) rfl
  split at h
  · cases h
    exact ⟨rfl, fun hstatus => by cases hstatus⟩
  · next endpoint _ _ =>
    cases endpoint with
    | profile => exact hcapture _ _ h
    | flamegraph => exact hcapture _ _ h
    | cmdline =>
      simp only [dispatchEndpoint, commandLine] at h
      split at h <;> cases h
      exact htext 200 _ (by decide) rfl
    | index | heap =>
      cases h
      exact htext 200 _ (by decide) rfl
    | threads =>
      simp only [dispatchEndpoint, threadDump] at h
      split at h <;> cases h
      · exact htext 200 _ (by decide) rfl
      · exact htext 500 _ (by decide) rfl

/-- An answer at once is a text. -/
theorem contentType_of_dispatch {response : Http.Response}
    (h : dispatch view locked request = .respond response) :
    response.contentType = some Http.Response.plainText :=
  (respond_cases h).1

/-- Only while the lock is held is there a conflict. -/
theorem locked_of_conflict {response : Http.Response}
    (h : dispatch view locked request = .respond response) (hstatus : response.status = 409) :
    locked = true :=
  (respond_cases h).2 hstatus

/-- **Only the command line breaks off**, and only where an argument is no text. -/
theorem dispatch_eq_panic_iff :
    (∃ p, dispatch view locked request = .panic p) ↔
      IsRoute request.path .cmdline ∧ request.method = Http.get ∧
        ∃ a ∈ view.arguments, Utf8.decode? a = none := by
  constructor
  · rintro ⟨p, h⟩
    have hcapture : ∀ query? format, dispatchCapture locked query? format ≠ .panic p := by
      intro query? format hc
      unfold dispatchCapture at hc
      split at hc
      · cases hc
      · split at hc <;> cases hc
    cases hroute : Endpoint.ofPath? request.path with
    | none =>
      rw [dispatch_of_unknown (ofPath?_eq_none_iff.1 hroute)] at h
      cases h
    | some endpoint =>
      have hroute := ofPath?_eq_some_iff.1 hroute
      by_cases hmethod : request.method = Http.get
      · rw [dispatch_of_route hroute hmethod] at h
        cases endpoint with
        | cmdline => exact ⟨hroute, hmethod, commandLine_eq_panic_iff.1 ⟨p, h⟩⟩
        | index | heap | threads => cases h
        | profile | flamegraph => exact absurd h (hcapture _ _)
      · rw [dispatch_of_method hroute hmethod] at h
        cases h
  · rintro ⟨hroute, hmethod, hbad⟩
    rw [dispatch_of_route hroute hmethod, dispatchEndpoint]
    exact commandLine_eq_panic_iff.2 hbad

/-- **Of the query only the seconds count**, and they only in a request for a capture. -/
theorem dispatch_congr {request' : Http.Request} (hmethod : request'.method = request.method)
    (hpath : request'.path = request.path)
    (hquery : Seconds.ofQuery request'.query = Seconds.ofQuery request.query ∨
      request.method ≠ Http.get ∨ ∀ e, IsRoute request.path e → e.format? = none) :
    dispatch view locked request' = dispatch view locked request := by
  simp only [dispatch, hmethod, hpath]
  cases hroute : Endpoint.ofPath? request.path with
  | none => rfl
  | some e =>
    by_cases hget : request.method = Http.get
    · simp only [hget, ne_eq, not_true_eq_false, if_false]
      rcases hquery with hseconds | hne | hnone
      · cases e <;> simp only [dispatchEndpoint, dispatchCapture, hseconds]
      · exact absurd hget hne
      · have hformat := hnone e (ofPath?_eq_some_iff.1 hroute)
        cases e <;> simp only [Endpoint.format?, reduceCtorEq] at hformat <;> rfl
    · simp only [hget, ne_eq, not_false_eq_true, if_true]

end

/-! ### Captures -/

/-- **A valid request for a capture**: the path of an endpoint that captures, `GET`, and a
query that says for how long or does not say. -/
structure AsksCapture (request : Http.Request) (format : ProfileFormat) (seconds : Nat) : Prop where
  /-- The path is that of an endpoint with this form. -/
  path : ∃ e : Endpoint, e.format? = some format ∧ request.path ∈ e.paths
  /-- The method is the one that is served. -/
  method : request.method = Http.get
  /-- The query gives this number of seconds. -/
  query : Seconds.ofQuery request.query = .ok seconds

/-- **Only the lock refuses a valid request for a capture.** -/
theorem dispatch_of_asks {request : Http.Request} {format : ProfileFormat} {seconds : Nat}
    (h : AsksCapture request format seconds) (view : View) (locked : Bool) :
    dispatch view locked request =
      if locked then .respond alreadyCapturing else .capture format seconds := by
  obtain ⟨e, hformat, hpath⟩ := h.path
  rw [dispatch_of_route (isRoute_iff_mem_paths.2 hpath) h.method,
    dispatchEndpoint_of_format hformat]
  simp only [dispatchCapture, h.query]

/-- No capture is decided upon while the lock is held. -/
theorem locked_of_dispatch {view : View} {locked : Bool} {request : Http.Request}
    {format : ProfileFormat} {seconds : Nat}
    (h : dispatch view locked request = .capture format seconds) : locked = false := by
  have hcapture : ∀ query format', dispatchCapture locked query format' =
      .capture format seconds → locked = false := by
    intro query format' hc
    unfold dispatchCapture at hc
    split at hc
    · cases hc
    · cases locked
      · rfl
      · cases hc
  unfold dispatch at h
  split at h
  · cases h
  split at h
  · cases h
  · next endpoint _ _ =>
    cases endpoint with
    | profile => exact hcapture _ _ h
    | flamegraph => exact hcapture _ _ h
    | cmdline =>
      simp only [dispatchEndpoint, commandLine] at h
      split at h <;> cases h
    | index => cases h
    | heap => cases h
    | threads => cases h

end ProfilingTargets.Server
