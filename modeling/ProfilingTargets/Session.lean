import ProfilingTargets.Burn
import ProfilingTargets.Http.Wire
import ProfilingTargets.Process
import ProfilingTargets.Server.Listener

/-!
# Sessions

A process with a debug server, and clients of it, told one command after another what
to do: to record and capture profiles, to look at files, to burn, to listen, and to
send requests. A client may leave a request behind while the server captures for it,
and hang up later. Recordings and such requests are known by names.

Every command has an answer, and comes with the events of what was done for it.
-/

namespace ProfilingTargets

/-- A process and what is around it. -/
structure Session where
  /-- The process. -/
  process : Process
  /-- The network. -/
  network : Network
  /-- What the server sees of its process. -/
  view : Server.View
  /-- The requests that were left behind, with the numbers of their captures. -/
  held : List (String × Nat) := []

namespace Session

/-- What a session is told. -/
inductive Command where
  /-- Start a recording. -/
  | startRecording (name path : String) (frequency : Int32)
  /-- Start a recording, if there is a path and it can be started. -/
  | startOptional (name : String) (path? : Option String) (frequency : Int32)
  /-- Finish a recording. -/
  | finishRecording (name : String)
  /-- Drop a recording. -/
  | dropRecording (name : String)
  /-- Capture a profile. -/
  | capture (c : Capture)
  /-- Look at a file. -/
  | inspect (path : String)
  /-- Replace a file's content. -/
  | save (path : String) (content : Bytes)
  /-- Burn, the flag being found as `running` says. -/
  | burn (plan : Burn.Plan) (running : Nat → Bool)
  /-- Send the bytes of a request, and wait for the answer. -/
  | exchange (request : Bytes)
  /-- Send the bytes of a request, and leave it behind if the server captures for it. -/
  | hold (name : String) (request : Bytes)
  /-- Hang up on a request that was left behind, and ask for a capture. -/
  | hangUp (name : String)
  /-- Listen on an address for a moment. -/
  | bind (address : List Char)
  /-- Serve on an address. -/
  | serve (address : List Char)

/-- What a session answers. -/
inductive Answer where
  /-- A recording has started at this path. -/
  | started (path : String)
  /-- A recording has not been started. -/
  | notStarted
  /-- A recording is finished; whether its file is as long as what was written. -/
  | finished (written : Written) (sizeMatches : Bool)
  /-- Whether there was a recording to drop. -/
  | dropped (existed : Bool)
  /-- A profile has been captured. -/
  | captured (c : Captured)
  /-- What stands at a path. -/
  | found (what : Option Entry)
  /-- Whether a file's content was replaced. -/
  | saved (replaced : Bool)
  /-- What was burned. -/
  | burned (stats : Burn.Stats)
  /-- A request was answered. -/
  | response (r : Http.Response)
  /-- The server captures for a request that was left behind. -/
  | capturing
  /-- An address could be listened on. -/
  | bound (a : Address)
  /-- A server's task was started; whether it has ended. -/
  | serving (ended : Bool)
  /-- A step did not succeed. -/
  | failed (failure : Failure)
  /-- The server cannot be reached. -/
  | unreachable (e : IoError)
  /-- A name is not in use. -/
  | refused

/-- The session with another process. -/
def withProcess (s : Session) (p : Process) : Session := { s with process := p }

/-- The answer to a capture that did not come about, or did. -/
def Answer.ofCapture : Except Failure Captured → Answer
  | .ok c => .captured c
  | .error failure => .failed failure

/-- The answer to a recording that was finished, in a file system as it is then. -/
def Answer.ofFinish (files : FileSystem) (path : String) : Except Error Written → Answer
  | .ok w =>
    .finished w (match files.find (Utf8.encode path.toList) with
      | .ok (.file content) => content.length == w.bytes
      | _ => false)
  | .error e => .failed (.error e)

/-- Finishes a recording. -/
def finishRecording (o : Outside) (name : String) (s : Session) :
    Answer × List Log.Event × Session :=
  let path := ((s.process.recording? name).map (·.path)).getD ""
  match s.process.finishRecording o name with
  | (none, events, p) => (.refused, events, s.withProcess p)
  | (some result, events, p) =>
    (.ofFinish p.host.files path result, events, s.withProcess p)

/-- Captures a profile while nothing else goes on. -/
def capture (o : Outside) (c : Capture) (s : Session) : Answer × List Log.Event × Session :=
  let (result, events, sampler) := c.run o s.process.host.sampler
  (.ofCapture result, events, s.withProcess (s.process.withSampler sampler))

/-- Waits for the answer to a request: its capture ends, if it has begun. -/
def await (o : Outside) (n : Nat) (s : Session) : Answer × List Log.Event × Session :=
  let (events, p) := s.process.completeJob o n
  match p.answer n with
  | (some r, more, p) => (.response r, events ++ more, s.withProcess p)
  | (none, more, p) => (.refused, events ++ more, s.withProcess p)

/-- Sends a request: its answer, or the number of the capture that has begun for it. -/
def send (request : Http.Request) (s : Session) :
    (Answer ⊕ Nat) × List Log.Event × Session :=
  match s.process.receive s.view request with
  | (.answered r, events, p) =>
    (.inl (.response (r.sentTo request.method)), events, s.withProcess p)
  | (.panicked e, events, p) => (.inl (.failed (.panic e)), events, s.withProcess p)
  | (.capturing n, events, p) =>
    let (more, p) := p.beginJob n
    match p.answer n with
    | (some r, rest, p) => (.inl (.response r), events ++ more ++ rest, s.withProcess p)
    | (none, rest, p) => (.inr n, events ++ more ++ rest, s.withProcess p)

/-- Sends the bytes of a request to the server, if it can be reached. What becomes of a
capture that has begun for it is up to `next`. -/
def transmit (request : Bytes) (next : Nat → Session → Answer × List Log.Event × Session)
    (s : Session) : Answer × List Log.Event × Session :=
  match s.network.unreachable with
  | some e => (.unreachable e, [], s)
  | none =>
    match Http.Wire.read? request with
    | none => (.response .unreadable, [], s)
    | some request =>
      match s.send request with
      | (.inl answer, events, s) => (answer, events, s)
      | (.inr n, events, s) =>
        let (answer, more, s) := next n s
        (answer, events ++ more, s)

/-- Leaves a request behind under a name. -/
def leave (name : String) (n : Nat) (s : Session) : Answer × List Log.Event × Session :=
  (.capturing, [], { s with held := (name, n) :: s.held.filter (·.1 != name) })

/-- The request of a client that asks for the longest capture. -/
def longest : Bytes :=
  Http.Wire.compose Http.get "/debug/pprof/profile?seconds=300".toList []

/-- Hangs up on the request of a name, and asks for a capture. -/
def hangUp (o : Outside) (name : String) (s : Session) : Answer × List Log.Event × Session :=
  match s.held.lookup name with
  | none => (.refused, [], s)
  | some n =>
    { s with process := s.process.hangUp n, held := s.held.filter (·.1 != name) }.transmit
      longest (await o)

/-- Does what a session is told. -/
def perform (o : Outside) (s : Session) : Command → Answer × List Log.Event × Session
  | .startRecording name path frequency =>
    match s.process.startRecording o name path frequency with
    | (.ok r, events, p) => (.started r.path, events, s.withProcess p)
    | (.error failure, events, p) => (.failed failure, events, s.withProcess p)
  | .startOptional name path? frequency =>
    match s.process.startOptional o name path? frequency with
    | (.ok (some r), events, p) => (.started r.path, events, s.withProcess p)
    | (.ok none, events, p) => (.notStarted, events, s.withProcess p)
    | (.error e, events, p) => (.failed (.panic e), events, s.withProcess p)
  | .finishRecording name => s.finishRecording o name
  | .dropRecording name =>
    let (existed, events, p) := s.process.dropRecording o name
    (.dropped existed, events, s.withProcess p)
  | .capture c => s.capture o c
  | .inspect path =>
    (.found (s.process.host.files.find (Utf8.encode path.toList)).toOption, [], s)
  | .save path content =>
    match s.process.host.files.save (Utf8.encode path.toList) content with
    | .error _ => (.saved false, [], s)
    | .ok files =>
      (.saved true, [],
        s.withProcess { s.process with host := { s.process.host with files := files } })
  | .burn plan running => (.burned (Burn.run plan running), [], s)
  | .exchange request => s.transmit request (await o)
  | .hold name request => s.transmit request (leave name)
  | .hangUp name => s.hangUp o name
  | .bind address =>
    match Server.bind s.network address with
    | .ok a => (.bound a, [], s)
    | .error e => (.failed (.error e), [], s)
  | .serve address =>
    let (ended, events, network) := Server.serve s.network address
    (.serving ended, events, { s with network := network })

end Session

end ProfilingTargets
