import ProfilingTargets.Burner

/-!
# The burner's command line

Runs the burner: what it decides is `Burner.run`, and here the world is asked what
`Burner.run` has to be told. The profile's file is created and written, the burn is
timed, and what is logged goes to standard error. An interrupt ends the process as a
whole, so that the flag is never found cleared.
-/

namespace ProfilingTargets.Main

/-- The number of an error of the operating system, if the error has one. -/
def code? : IO.Error → Option UInt32
  | .alreadyExists _ code _ | .invalidArgument _ code _ | .permissionDenied _ code _
  | .resourceExhausted _ code _ | .inappropriateType _ code _ | .noSuchThing _ code _
  | .interrupted _ code _ | .noFileOrDirectory _ code _ => some code
  | .otherError code _ | .resourceBusy code _ | .resourceVanished code _
  | .unsupportedOperation code _ | .hardwareFault code _ | .unsatisfiedConstraints code _
  | .illegalOperation code _ | .protocolError code _ | .timeExpired code _ => some code
  | .unexpectedEof | .userError _ => none

/-- The error of a file operation. -/
def ioError (e : IO.Error) : IoError :=
  match code? e with
  | some code => .os code.toNat
  | none => .other (toString e)

/-- Replaces the content of a file. -/
def save (path : String) (content : Bytes) : IO (Option IoError) := do
  try
    IO.FS.withFile path .write fun file => do
      file.write ⟨content.toArray⟩
      file.flush
    return none
  catch e => return some (ioError e)

/-- Creates the file of a profile, if there is to be one. -/
def create (config : Burner.Config) : IO (Option IoError) :=
  match config.profile with
  | none => return none
  | some path => save path []

/-- Burns, and says how long that takes. -/
def time (plan : Burn.Plan) : IO Duration := do
  let start ← IO.monoNanosNow
  let _ ← IO.lazyPure fun _ => Burn.run plan fun _ => true
  let stop ← IO.monoNanosNow
  return ⟨stop - start⟩

/-- What a run leaves at a path. -/
def content? (ending : Burner.Ending) (path : String) : Option Bytes :=
  match ending.host.files.find (Utf8.encode path.toList) with
  | .ok (.file content) => some content
  | _ => none

/-- Writes the profile of a run, if it has one. -/
def writeProfile (config : Burner.Config) (ending : Burner.Ending) : IO (Option IoError) :=
  match config.profile with
  | none => return none
  | some path =>
    match content? ending path with
    | none => return none
    | some content => save path content

/-- Prints what a run prints, and gives its status. -/
def report (ending : Burner.Ending) : IO UInt32 := do
  let requested ← IO.getEnv "RUST_LOG"
  IO.print ending.output
  IO.eprint (ending.diagnostics (requested.map (·.toList)))
  return UInt32.ofNat ending.status.code

/-- A run with a configuration. -/
def burn (config : Burner.Config) : IO UInt32 := do
  let creating ← create config
  let elapsed ← time config.plan
  let now ← IO.monoNanosNow
  let host : Host := { files := .leadingTo (Utf8.encode (config.profile.getD "").toList) }
  let world : Burner.Surroundings :=
    { outside := { creating := creating, now := now, sampled := elapsed }
      running := fun _ => true
      elapsed := elapsed }
  let ending := Burner.burn config world host
  let writing ← if creating.isSome then pure none else writeProfile config ending
  match writing with
  | none => report ending
  | some e =>
    report (Burner.burn config
      { world with outside := { world.outside with writing := some (0, e) } } host)

end ProfilingTargets.Main

open ProfilingTargets in
/-- The burner. -/
def main (args : List String) : IO UInt32 :=
  let arguments := CommandLine.programName :: args.map (·.toList)
  let arguments := arguments.map Utf8.encode
  match Burner.configure arguments with
  | .error failure => Main.report (Burner.refuse arguments failure { files := .leadingTo [] })
  | .ok config => Main.burn config
