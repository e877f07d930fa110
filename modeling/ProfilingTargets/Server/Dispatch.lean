import ProfilingTargets.Duration
import ProfilingTargets.Error
import ProfilingTargets.Heap.Counters
import ProfilingTargets.Http.Message
import ProfilingTargets.Profile
import ProfilingTargets.Server.Endpoint
import ProfilingTargets.Server.Seconds
import ProfilingTargets.Threads

/-!
# Dispatch

What a request to the debug server leads to. It is refused for the first of these
reasons: its path is no endpoint's, its method is not `GET`, its query does not say
for how long, or a capture is under way. A capture is only decided upon here;
everything else is answered at once from a view of the process.
-/

namespace ProfilingTargets.Server

/-- What the server can see of its process. -/
structure View where
  /-- The arguments that the process was started with. -/
  arguments : List Bytes
  /-- The heap counters. -/
  counters : Heap.Counters
  /-- The time of day, as text. -/
  now : List Char
  /-- The kernel's lines for the threads; `none` for one that is gone. -/
  threads : Except IoError (List (Option (List Char)))

/-- What a request leads to. -/
inductive Decision where
  /-- An answer at once. -/
  | respond (response : Http.Response)
  /-- A capture for a number of seconds. -/
  | capture (format : ProfileFormat) (seconds : Nat)
  /-- No answer: the handler breaks off. -/
  | panic (p : Panic)
  deriving DecidableEq

/-- The body of the index. -/
def indexText : String :=
  "/debug/pprof/\n\n" ++
  "profile     CPU profile, pprof protobuf (?seconds=N, default 30)\n" ++
  "flamegraph  CPU profile rendered as SVG (?seconds=N, default 30)\n" ++
  "heap        allocation counters\n" ++
  "threads     threads of this process\n" ++
  "cmdline     command line of this process\n"

/-- The answer to a path that is no endpoint's. -/
def unknownPath (path : List Char) : Http.Response :=
  .text 404 ("unknown profile: ".toList ++ path ++ ['\n'])

/-- The answer to any method but `GET`. -/
def wrongMethod : Http.Response :=
  { Http.Response.fixed 405 "only GET is supported\n" with allow := some Http.get }

/-- The answer while a capture is under way. -/
def alreadyCapturing : Http.Response := .fixed 409 "a cpu profile is already being captured\n"

/-- The answer that reports an error. -/
def failed (status : Nat) (e : Error) : Http.Response :=
  .text status (e.message.toList ++ ['\n'])

/-- The answer with the command line: the arguments, NUL between them. All of them have
to be Unicode text. -/
def commandLine (arguments : List Bytes) : Decision :=
  match arguments.find? (fun a => (Utf8.decode? a).isNone) with
  | some argument => .panic (.notUnicode argument)
  | none =>
    .respond (.text 200 (['\x00'].intercalate (arguments.map Utf8.decodeLossy)))

/-- The answer with the threads. -/
def threadDump : Except IoError (List (Option (List Char))) → Http.Response
  | .ok entries => .text 200 (Thread.dump (Thread.list entries))
  | .error e => failed 500 (.io e)

/-- What a request for a capture leads to. -/
def dispatchCapture (locked : Bool) (query? : Option Bytes) (format : ProfileFormat) : Decision :=
  match Seconds.ofQuery query? with
  | .error e => .respond (failed 400 (.invalidArgument e))
  | .ok seconds => if locked then .respond alreadyCapturing else .capture format seconds

/-- What a request for an endpoint leads to. -/
def dispatchEndpoint (view : View) (locked : Bool) (query? : Option Bytes) : Endpoint → Decision
  | .index => .respond (.fixed 200 indexText)
  | .heap => .respond (.text 200 (view.counters.report view.now))
  | .threads => .respond (threadDump view.threads)
  | .cmdline => commandLine view.arguments
  | .profile => dispatchCapture locked query? .pprof
  | .flamegraph => dispatchCapture locked query? .flamegraph

/-- What a request leads to, `locked` if a capture is under way. -/
def dispatch (view : View) (locked : Bool) (request : Http.Request) : Decision :=
  match Endpoint.ofPath? request.path with
  | none => .respond (unknownPath request.path)
  | some endpoint =>
    if request.method ≠ Http.get then .respond wrongMethod
    else dispatchEndpoint view locked request.query endpoint

end ProfilingTargets.Server
