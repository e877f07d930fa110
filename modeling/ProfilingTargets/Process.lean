import ProfilingTargets.Capture
import ProfilingTargets.Server.Dispatch

/-!
# The process

All that shares one sampler: recordings, captures called from within the process, and
captures that the debug server makes for its clients.

## The model

A capture goes on in a thread of its own (`Job`), from the moment it is asked for. It
begins to sample later, ends later still, and waits for nobody. A request for a
capture waits for its thread's result; it holds the server's lock while it waits, and
lets go of it when it is answered or when its client hangs up. The thread of a client
that has hung up goes on all the same.

Each function below is one indivisible action on the process. `Action` names them, so
that any interleaving is a list of actions (`Process.run`); an action that does not
apply changes nothing. `Outside` says what the world does to each.

The start and the end of a recording stand where the sampler is asked to start and where
it is let go of. The file has been created before the one and is written after the other,
when other threads may have got on. Captures and requests have no part in files, and so it
makes no difference to them, nor to the file, that its writing belongs to the same action
(`Process.run_finishRecording`). What other recordings do in between is not covered: one
that starts on the same path would empty the file before it is written.
-/

namespace ProfilingTargets

/-- How far a capture is. -/
inductive Stage where
  /-- Its thread has not begun. -/
  | queued
  /-- It samples. -/
  | sampling
  /-- It has ended. -/
  | ended (result : Except Failure Captured)

/-- A capture and how far it is. -/
structure Job where
  /-- The capture. -/
  capture : Capture
  /-- How far it is. -/
  stage : Stage := .queued

/-- The process. -/
structure Process where
  /-- The sampler and the files. -/
  host : Host
  /-- The recordings by name. -/
  recordings : List (String × Recording) := []
  /-- The captures by number, each number given once. -/
  jobs : List (Nat × Job) := []
  /-- The numbers of the captures whose requests wait for them. -/
  waiting : List Nat := []
  /-- The server's lock is held. -/
  locked : Bool := false
  /-- The next number. -/
  nextJob : Nat := 0

/-- What becomes of a request when it arrives. -/
inductive Reply where
  /-- It is answered at once. -/
  | answered (response : Http.Response)
  /-- It waits for a capture. -/
  | capturing (job : Nat)
  /-- It gets no answer. -/
  | panicked (p : Panic)
  deriving DecidableEq

namespace Process

/-- The recording of a name. -/
def recording? (p : Process) (name : String) : Option Recording := p.recordings.lookup name

/-- The capture of a number. -/
def job? (p : Process) (n : Nat) : Option Job := p.jobs.lookup n

/-- The process without a name's recording. -/
def withoutRecording (p : Process) (name : String) : Process :=
  { p with recordings := p.recordings.filter (·.1 != name) }

/-- The process with a recording under a name. -/
def keep (p : Process) (name : String) (r : Recording) : Process :=
  { p with recordings := (name, r) :: (p.withoutRecording name).recordings }

/-- The process with another sampler. -/
def withSampler (p : Process) (s : Sampler) : Process :=
  { p with host := { p.host with sampler := s } }

/-- The process with a capture at another stage. -/
def setStage (p : Process) (n : Nat) (stage : Stage) : Process :=
  { p with
    jobs := p.jobs.map fun (m, job) =>
      (m, if m = n then { job with stage := stage } else job) }

/-! ### Recordings -/

/-- Starts a recording under a name. -/
def startRecording (o : Outside) (name path : String) (frequency : Int32) (p : Process) :
    Except Failure Recording × List Log.Event × Process :=
  match Recording.start o path frequency p.host with
  | (.ok r, events, host) => (.ok r, events, { p with host := host }.keep name r)
  | (.error failure, events, host) => (.error failure, events, { p with host := host })

/-- Starts a recording under a name if there is a path for one, and goes on without it
if it cannot be started. -/
def startOptional (o : Outside) (name : String) (path? : Option String) (frequency : Int32)
    (p : Process) : Except Panic (Option Recording) × List Log.Event × Process :=
  match Recording.startOptional o path? frequency p.host with
  | (.ok (some r), events, host) => (.ok (some r), events, { p with host := host }.keep name r)
  | (result, events, host) => (result, events, { p with host := host })

/-- Finishes the recording of a name. -/
def finishRecording (o : Outside) (name : String) (p : Process) :
    Option (Except Error Written) × List Log.Event × Process :=
  match p.recording? name with
  | none => (none, [], p)
  | some r =>
    let (result, events, host) := r.finish o p.host
    (some result, events, { p.withoutRecording name with host := host })

/-- Drops the recording of a name; says whether there was one. -/
def dropRecording (o : Outside) (name : String) (p : Process) :
    Bool × List Log.Event × Process :=
  match p.recording? name with
  | none => (false, [], p)
  | some r =>
    let (events, host) := r.drop o p.host
    (true, events, { p.withoutRecording name with host := host })

/-! ### Captures -/

/-- Asks for a capture from within the process: its number. -/
def call (c : Capture) (p : Process) : Nat × Process :=
  (p.nextJob, { p with jobs := (p.nextJob, { capture := c }) :: p.jobs, nextJob := p.nextJob + 1 })

/-- A capture's thread begins, and samples if it can. -/
def beginJob (n : Nat) (p : Process) : List Log.Event × Process :=
  match p.job? n with
  | some ⟨c, .queued⟩ =>
    match c.begin p.host.sampler with
    | (.ok (), events, s) => (events, (p.withSampler s).setStage n .sampling)
    | (.error failure, events, s) =>
      (events, (p.withSampler s).setStage n (.ended (.error failure)))
  | _ => ([], p)

/-- A capture's time is over. -/
def completeJob (o : Outside) (n : Nat) (p : Process) : List Log.Event × Process :=
  match p.job? n with
  | some ⟨c, .sampling⟩ =>
    let (result, events, s) := c.complete o p.host.sampler
    (events, (p.withSampler s).setStage n (.ended (result.mapError .error)))
  | _ => ([], p)

/-- The result of a capture that has ended. -/
def result? (p : Process) (n : Nat) : Option (Except Failure Captured) :=
  match p.job? n with
  | some ⟨_, .ended result⟩ => some result
  | _ => none

/-! ### Requests -/

/-- The event of a request that leads to a capture. -/
def requested (format : ProfileFormat) (seconds : Nat) : Log.Event where
  level := .info
  speaker := .server
  message := "cpu capture requested"
  fields := [("seconds", .number seconds), ("format", .text format.name)]

/-- The event of a request whose capture failed. -/
def captureFailed (e : Error) : Log.Event where
  level := .warn
  speaker := .server
  message := "cpu capture failed"
  fields := [("error", .text e.message)]

/-- A request arrives. -/
def receive (view : Server.View) (request : Http.Request) (p : Process) :
    Reply × List Log.Event × Process :=
  match Server.dispatch view p.locked request with
  | .respond response => (.answered response, [], p)
  | .panic e => (.panicked e, [], p)
  | .capture format seconds =>
    let (n, q) := p.call { format := format, duration := .ofSeconds seconds }
    (.capturing n, [requested format seconds],
      { q with waiting := n :: q.waiting, locked := true })

/-- The answer that a capture's result makes, and what is said about it. Where sampling
breaks off, the runtime tells the number of the task as well (`task 7 panicked …`). The
number is left out: no client waits for a capture that breaks off
(`Process.result?_ne_panic`). -/
def responseTo : Except Failure Captured → Http.Response × List Log.Event
  | .ok c =>
    ({ status := 200, contentType := some c.format.contentType, body := .data c.bytes }, [])
  | .error (.error e) => (Server.failed 500 e, [captureFailed e])
  | .error (.panic e) =>
    (.text 500 ("capture task failed: task panicked with message ".toList ++
      Quoted.encode e.message.toList ++ ['\n']), [])

/-- A request that waits no longer; it lets go of the lock. -/
def release (n : Nat) (p : Process) : Process :=
  { p with waiting := p.waiting.filter (· != n), locked := false }

/-- A request is answered, if its capture has ended. -/
def answer (n : Nat) (p : Process) : Option Http.Response × List Log.Event × Process :=
  if p.waiting.contains n then
    match p.result? n with
    | some result =>
      let (response, events) := responseTo result
      (some response, events, p.release n)
    | none => (none, [], p)
  else (none, [], p)

/-- A client hangs up. -/
def hangUp (n : Nat) (p : Process) : Process :=
  if p.waiting.contains n then p.release n else p

/-! ### Interleavings -/

/-- An action on the process. -/
inductive Action where
  /-- `startRecording`. -/
  | startRecording (name path : String) (frequency : Int32)
  /-- `startOptional`. -/
  | startOptional (name : String) (path? : Option String) (frequency : Int32)
  /-- `finishRecording`. -/
  | finishRecording (name : String)
  /-- `dropRecording`. -/
  | dropRecording (name : String)
  /-- `call`. -/
  | call (c : Capture)
  /-- `receive`. -/
  | receive (view : Server.View) (request : Http.Request)
  /-- `beginJob`. -/
  | beginJob (n : Nat)
  /-- `completeJob`. -/
  | completeJob (n : Nat)
  /-- `answer`. -/
  | answer (n : Nat)
  /-- `hangUp`. -/
  | hangUp (n : Nat)

/-- The process after an action. -/
def step (p : Process) (o : Outside) : Action → Process
  | .startRecording name path frequency => (p.startRecording o name path frequency).2.2
  | .startOptional name path? frequency => (p.startOptional o name path? frequency).2.2
  | .finishRecording name => (p.finishRecording o name).2.2
  | .dropRecording name => (p.dropRecording o name).2.2
  | .call c => (p.call c).2
  | .receive view request => (p.receive view request).2.2
  | .beginJob n => (p.beginJob n).2
  | .completeJob n => (p.completeJob o n).2
  | .answer n => (p.answer n).2.2
  | .hangUp n => p.hangUp n

/-- The process after some actions. -/
def run (p : Process) (actions : List (Outside × Action)) : Process :=
  actions.foldl (fun p (o, action) => p.step o action) p

end Process

end ProfilingTargets
