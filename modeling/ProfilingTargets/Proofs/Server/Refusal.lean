import ProfilingTargets.Proofs.Server.Dispatch
import ProfilingTargets.Proofs.Server.Seconds

/-!
# Refused queries

Whoever asks for a capture chooses the query, and a part of it comes back in the answer that
refuses it: one line, which says why (`refusal`). No character of the query can end this line or
make it look like another one, since all of it shows (`isHidden_of_mem_refusal`). A value that is
no whole number stands at its end as a literal, which is read back as the value; a number that is
out of range stands there in digits. So the line tells what the query was refused for
(`refusal_inj`).

## What is proved

* `ofQuery_eq_secondsNotWhole_iff`: the value that is quoted is the first of the query's values
  that is no whole number.
* `refusal_tells`: the answer to every request that is refused for its query.
-/

namespace ProfilingTargets.Server

namespace Seconds

variable {query? : Option Bytes} {value : List Char} {why : ArgumentError}

/-- **The value that a query is refused for**: of those that it gives for the seconds, decoded,
the first that is no whole number. -/
def Offends (query? : Option Bytes) (value : List Char) : Prop :=
  ∃ whole later, values ((query?.map FormUrlencoded.decode).getD []) = whole ++ value :: later ∧
    (∀ v ∈ whole, ∃ n, IsWhole v n) ∧ ∀ n, ¬ IsWhole value n

theorem ofQuery_eq_secondsNotWhole_iff :
    ofQuery query? = .error (.secondsNotWhole value) ↔ Offends query? value := by
  rw [ofQuery_eq_iff]
  constructor
  · intro h
    cases h with
    | notWhole hvalues hwhole hbad => exact ⟨_, _, hvalues, hwhole, hbad⟩
  · rintro ⟨whole, later, hvalues, hwhole, hbad⟩
    exact .notWhole hvalues hwhole hbad

/-- A query is refused for a value or for a number. -/
theorem error_cases (h : ofQuery query? = .error why) :
    (∃ value, why = .secondsNotWhole value) ∨ ∃ n, why = .secondsOutOfRange n 1 300 := by
  cases ofQuery_eq_iff.1 h with
  | notWhole => exact .inl ⟨_, rfl⟩
  | outOfRange => exact .inr ⟨_, rfl⟩

end Seconds

/-! ### The line of a refusal -/

/-- The line that says why a query is refused. -/
def refusal (why : ArgumentError) : List Char := (Error.invalidArgument why).message.toList

/-- What stands at the end of a message stands at the end of the line, in which the kind of the
error comes first. -/
theorem toList_message {kind message start last : String} {cs : List Char}
    (hstart : kind ++ message = start) (hlast : last.toList = cs) :
    (kind ++ (message ++ last)).toList = start.toList ++ cs := by
  rw [← String.append_assoc, String.toList_append, hstart, hlast]

theorem refusal_secondsNotWhole (value : List Char) :
    refusal (.secondsNotWhole value) =
      "Invalid argument: seconds must be a whole number, got ".toList ++ Quoted.encode value :=
  toList_message (by decide) String.toList_ofList

theorem refusal_secondsOutOfRange (n : Nat) :
    refusal (.secondsOutOfRange n 1 300) =
      "Invalid argument: seconds must be between 1 and 300, got ".toList ++ Numeral.write n := by
  have hmessage : (ArgumentError.secondsOutOfRange n 1 300).message =
      "seconds must be between 1 and 300, got " ++ toString n := rfl
  exact (congrArg (fun message => ("Invalid argument: " ++ message).toList) hmessage).trans
    (toList_message (by decide) (Numeral.write_eq n).symm)

variable {query? query?' : Option Bytes} {why why' : ArgumentError}

/-- **All of the line shows**, whatever the query. -/
theorem isHidden_of_mem_refusal (h : Seconds.ofQuery query? = .error why) :
    ∀ c ∈ refusal why, Quoted.isHidden c = false := by
  intro c hc
  rcases Seconds.error_cases h with ⟨value, rfl⟩ | ⟨n, rfl⟩
  · rw [refusal_secondsNotWhole, List.mem_append] at hc
    rcases hc with hc | hc
    · exact Quoted.isHidden_of_all_isGraphic (by decide) hc
    · exact Quoted.isHidden_of_mem_encode hc
  · rw [refusal_secondsOutOfRange, List.mem_append] at hc
    rcases hc with hc | hc
    · exact Quoted.isHidden_of_all_isGraphic (by decide) hc
    · exact Quoted.isHidden_of_mem_toDigits (by decide) (by decide) hc

/-- The two kinds of refusal are told apart. -/
theorem refusal_ne (value : List Char) (n : Nat) :
    refusal (.secondsNotWhole value) ≠ refusal (.secondsOutOfRange n 1 300) := by
  intro h
  have hstart := congrArg (List.take 40) h
  rw [refusal_secondsNotWhole, refusal_secondsOutOfRange,
    List.take_append_of_le_length (by decide), List.take_append_of_le_length (by decide)] at hstart
  exact absurd hstart (by decide)

/-- **The line tells what a query is refused for.** -/
theorem refusal_inj (h : Seconds.ofQuery query? = .error why)
    (h' : Seconds.ofQuery query?' = .error why') (heq : refusal why = refusal why') :
    why = why' := by
  rcases Seconds.error_cases h with ⟨value, rfl⟩ | ⟨n, rfl⟩ <;>
    rcases Seconds.error_cases h' with ⟨value', rfl⟩ | ⟨n', rfl⟩
  · rw [refusal_secondsNotWhole, refusal_secondsNotWhole] at heq
    rw [Quoted.encode_injective (List.append_cancel_left heq)]
  · exact absurd heq (refusal_ne value n')
  · exact absurd heq.symm (refusal_ne value' n)
  · rw [refusal_secondsOutOfRange, refusal_secondsOutOfRange] at heq
    rw [Numeral.write_injective (List.append_cancel_left heq)]

/-! ### Answers -/

/-- **A request for a capture that is refused for its query**: the path of an endpoint that
captures, `GET`, and a query that does not say for how long. -/
structure AsksInVain (request : Http.Request) (why : ArgumentError) : Prop where
  /-- The path is that of an endpoint that captures. -/
  path : ∃ (e : Endpoint) (format : ProfileFormat), e.format? = some format ∧
    IsRoute request.path e
  /-- The method is the one that is served. -/
  method : request.method = Http.get
  /-- The query is refused. -/
  query : Seconds.ofQuery request.query = .error why

theorem dispatch_of_asksInVain {request : Http.Request} (h : AsksInVain request why) (view : View)
    (locked : Bool) :
    dispatch view locked request = .respond (.text 400 (refusal why ++ ['\n'])) := by
  obtain ⟨e, format, hformat, hroute⟩ := h.path
  rw [dispatch_of_route hroute h.method, dispatchEndpoint_of_format hformat, dispatchCapture,
    h.query]
  rfl

/-- **A query that is refused cannot forge a line, and is quoted faithfully.** The answer is one
line and its end, and every character of the line shows; there is no control among them. If the
query is refused for a value that is no whole number, the line ends with a literal, one and no
more, that is read back as the value. So answers to queries that are refused for different values,
or for different numbers, are different. -/
theorem refusal_tells {request : Http.Request} (h : AsksInVain request why) :
    (∀ view locked,
      dispatch view locked request = .respond (.text 400 (refusal why ++ ['\n']))) ∧
    (∀ c ∈ refusal why, ¬ Quoted.IsControl c ∧ Quoted.isHidden c = false) ∧
    (∀ value, why = .secondsNotWhole value ↔ Seconds.Offends request.query value) ∧
    (∀ value, why = .secondsNotWhole value → ∃ literal,
      refusal why = "Invalid argument: seconds must be a whole number, got ".toList ++ literal ∧
        Quoted.decode literal = some value ∧
        ∀ begun rest, literal = begun ++ rest → rest ≠ [] → Quoted.decode begun = none) ∧
    ∀ request' why', AsksInVain request' why' → refusal why' = refusal why → why' = why := by
  refine ⟨dispatch_of_asksInVain h, ?_, ?_, ?_, ?_⟩
  · intro c hc
    have hshown := isHidden_of_mem_refusal h.query c hc
    refine ⟨fun hcontrol => ?_, hshown⟩
    rw [Quoted.isHidden_of_isControl hcontrol] at hshown
    cases hshown
  · intro value
    rw [← Seconds.ofQuery_eq_secondsNotWhole_iff, h.query, Except.error.injEq]
  · rintro value rfl
    refine ⟨Quoted.encode value, refusal_secondsNotWhole value, Quoted.decode_encode value, ?_⟩
    intro begun rest hliteral hrest
    cases hbegun : Quoted.decode begun with
    | none => rfl
    | some text =>
      have hread := Quoted.decode_encode value
      rw [hliteral, Quoted.decode_append hbegun hrest] at hread
      cases hread
  · intro request' why' h' heq
    exact refusal_inj h'.query h.query heq

/-- A request whose value would end the line, add one of its own and close the literal. -/
def forging : Http.Request where
  method := "GET"
  path := "/debug/pprof/profile".toList
  query := some (Utf8.encode "seconds=5%0AOK%22".toList)

/-- The forger's value stays on the line, and is read back from it. -/
theorem refusal_tells_forging :
    AsksInVain forging (.secondsNotWhole "5\nOK\"".toList) ∧
      (∀ c ∈ refusal (.secondsNotWhole "5\nOK\"".toList), ¬ Quoted.IsControl c) ∧
      ∃ literal, refusal (.secondsNotWhole "5\nOK\"".toList) =
          "Invalid argument: seconds must be a whole number, got ".toList ++ literal ∧
        Quoted.decode literal = some "5\nOK\"".toList := by
  have hroute : IsRoute forging.path .profile := ofPath?_eq_some_iff.1 (by decide)
  have hasks : AsksInVain forging (.secondsNotWhole "5\nOK\"".toList) :=
    ⟨⟨.profile, .pprof, rfl, hroute⟩, rfl, by decide +kernel⟩
  obtain ⟨-, hshown, -, hquoted, -⟩ := refusal_tells hasks
  obtain ⟨literal, hline, hread, -⟩ := hquoted _ rfl
  exact ⟨hasks, fun c hc => (hshown c hc).1, literal, hline, hread⟩

/-- How it stands there. -/
example : Quoted.encode "5\nOK\"".toList = "\"5\\nOK\\\"\"".toList := by decide +kernel

end ProfilingTargets.Server
