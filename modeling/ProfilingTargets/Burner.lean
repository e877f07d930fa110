import ProfilingTargets.Burn
import ProfilingTargets.CommandLine.Parser
import ProfilingTargets.Log.Filter
import ProfilingTargets.Recording

/-!
# The burner

The program: it reads its command line, starts a profile if one is asked for, burns
until its plan is done or it is interrupted, and finishes the profile. A profile that
cannot be started is done without; one that cannot be finished is a failure.

`Surroundings` holds what the world decides in a run: what becomes of the profile, what
each look at the flag finds that an interrupt clears, and how long the burn takes.
-/

namespace ProfilingTargets.Burner

/-- What the program is to do. -/
structure Config where
  /-- Where to write a profile. -/
  profile : Option String := none
  /-- Samples per second. -/
  frequency : Int32 := Sampler.defaultFrequency
  /-- What to burn. -/
  plan : Burn.Plan := {}
  deriving DecidableEq, Repr

/-- What to do with a profile at a path, or without one if the path is empty. -/
def Config.ofProfile (path : List Char) : Config :=
  { profile := if path.isEmpty then none else some (String.ofList path) }

/-- What a command line asks for. -/
def configure (arguments : List Bytes) : Except CommandLine.Refusal Config :=
  (CommandLine.parse arguments).map Config.ofProfile

/-- What the world decides in a run. -/
structure Surroundings where
  /-- What becomes of the profile. -/
  outside : Outside := {}
  /-- What each look at the flag finds. -/
  running : Nat → Bool
  /-- How long the burn takes. -/
  elapsed : Duration := ⟨0⟩

/-- How a run ends. -/
structure Ending where
  /-- The status. -/
  status : ExitStatus
  /-- What is printed on standard output. -/
  output : String := ""
  /-- What is logged. -/
  events : List Log.Event := []
  /-- What is printed on standard error at the end. -/
  complaint : String := ""
  /-- What was burned, if it came to that. -/
  stats : Option Burn.Stats := none
  /-- The sampler and the files. -/
  host : Host

/-- The event of the end of the burn. -/
def burned (stats : Burn.Stats) (elapsed : Duration) : Log.Event where
  level := .info
  speaker := .program
  message := "burn complete"
  fields := [("iterations", .number stats.iterations), ("calls", .number stats.calls.toNat),
    ("elapsed", .text (Duration.ofMillis elapsed.millis).words)]

/-- The event of a burn that was interrupted. -/
def interrupted (stats : Burn.Stats) (plan : Burn.Plan) : Log.Event where
  level := .warn
  speaker := .program
  message := "interrupted"
  fields := [("iterations", .number stats.iterations), ("planned", .number plan.iterations.toNat)]

/-- The event of a profile that is finished. -/
def profileWritten (path : String) (bytes : Nat) : Log.Event where
  level := .info
  speaker := .program
  message := "cpu profile written"
  fields := [("path", .text path), ("bytes", .number bytes)]

/-- The events of a burn: an interruption is mentioned if rounds are missing. -/
def burnEvents (config : Config) (stats : Burn.Stats) (elapsed : Duration) : List Log.Event :=
  burned stats elapsed ::
    if stats.iterations < config.plan.iterations.toNat then [interrupted stats config.plan] else []

/-- What is printed about a profile that could not be finished: the error, and the errors
behind it. -/
def complaint (path : String) (e : Error) : String :=
  let texts := ("Error: Failed to write cpu profile " ++ path) :: e.message :: e.causes
  ": ".intercalate texts ++ "\n"

/-- The end of a run, after the burn. -/
def conclude (o : Outside) (recording? : Option Recording) (events : List Log.Event)
    (stats : Burn.Stats) (host : Host) : Ending :=
  match recording? with
  | none => { status := .success, events := events, stats := stats, host := host }
  | some r =>
    match r.finish o host with
    | (.ok written, more, host) =>
      { status := .success, events := events ++ more ++ [profileWritten r.path written.bytes]
        stats := stats, host := host }
    | (.error e, more, host) =>
      { status := e.exitStatus, events := events ++ more, complaint := complaint r.path e
        stats := stats, host := host }

/-- A run with a configuration. -/
def burn (config : Config) (world : Surroundings) (host : Host) : Ending :=
  match Recording.startOptional world.outside config.profile config.frequency host with
  | (.error p, events, host) =>
    { status := .general, events := events, complaint := p.message ++ "\n", host := host }
  | (.ok recording?, events, host) =>
    let stats := Burn.run config.plan world.running
    conclude world.outside recording? (events ++ burnEvents config stats world.elapsed) stats host

/-- The end of a run whose command line is not carried out. What is printed passes through
a stream that takes out control sequences as it goes, so that a blank only suspends one. -/
def refuse (arguments : List Bytes) (refusal : CommandLine.Refusal) (host : Host) : Ending :=
  let message := refusal.message .suspends (CommandLine.nameOf arguments)
  if refusal.isMistake then
    { status := refusal.exitStatus, complaint := message, host := host }
  else { status := refusal.exitStatus, output := message, host := host }

/-- A run with a command line. -/
def run (arguments : List Bytes) (world : Surroundings) (host : Host) : Ending :=
  match configure arguments with
  | .error refusal => refuse arguments refusal host
  | .ok config => burn config world host

/-- The directives of the log unless the environment has others. -/
def defaultDirectives : List Char := "warn".toList

/-- What is printed on standard error where the environment asks for this log: the logged
lines, and the complaint. -/
def Ending.diagnostics (e : Ending) (requested : Option (List Char)) : String :=
  let (notices, filter) := Log.Filter.ofEnvironment requested defaultDirectives
  String.join ((notices ++ filter.lines e.events).map (· ++ "\n")) ++ e.complaint

end ProfilingTargets.Burner
