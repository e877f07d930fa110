import ProfilingTargets.FileSystem
import ProfilingTargets.Profile
import ProfilingTargets.Sampler

/-!
# Recordings

A profile that is recorded into a file. Its file is created first and the sampler
started then; at the end the report is made, the sampler stopped, and the profile
written and synced. A recording that is dropped before its end is written all the
same, and a failure can then only be logged. Whatever ends a recording, what is left of
it is dropped afterwards, and that it has been written out shows in what is left.

`Outside` holds what the world does on the way: any stage may fail for reasons of
its own, besides those that the file system has.
-/

namespace ProfilingTargets

/-- What the world does to a recording or a capture. -/
structure Outside where
  /-- The file cannot be created. -/
  creating : Option IoError := none
  /-- The report cannot be made. -/
  reporting : Option ProfilerError := none
  /-- The report cannot be encoded. -/
  encoding : Option ProfilerError := none
  /-- The file cannot be written, after so many bytes. -/
  writing : Option (Nat × IoError) := none
  /-- The file cannot be synced. -/
  syncing : Option IoError := none
  /-- The time at the end of sampling, in nanoseconds since 1970. -/
  now : Nat := 0
  /-- How long sampling has taken. -/
  sampled : Duration := ⟨0⟩
  /-- What the sampler has seen. -/
  seen : Samples := {}

/-- Why there is no encoded report. -/
def Outside.unreported (o : Outside) : Option ProfilerError := o.reporting <|> o.encoding

/-- What recordings share with all of the process. -/
structure Host where
  /-- The sampler. -/
  sampler : Sampler := {}
  /-- The files. -/
  files : FileSystem
  deriving DecidableEq, Repr

/-- A recording that has not ended. -/
structure Recording where
  /-- The path of its file. -/
  path : String
  /-- Its file. -/
  file : Handle
  /-- Samples per second. -/
  frequency : Int32
  /-- It holds the sampler and is still to be written out. -/
  pending : Bool := true
  deriving DecidableEq, Repr

/-- A profile that has been written. -/
structure Written where
  /-- The profile. -/
  profile : Profile
  /-- How many bytes it has. -/
  bytes : Nat
  deriving DecidableEq, Repr

namespace Recording

/-- The event of a recording's start. -/
def started (path : String) (frequency : Int32) : Log.Event where
  level := .debug
  speaker := .profiles
  message := "cpu profiling started"
  fields := [("path", .text path), ("frequency", .number frequency.toInt)]

/-- The event of a recording's end. -/
def written (path : String) (bytes : Nat) : Log.Event where
  level := .debug
  speaker := .profiles
  message := "cpu profile written"
  fields := [("path", .text path), ("bytes", .number bytes)]

/-- The event of a dropped recording that could not be written. -/
def writeFailed (path : String) (e : Error) : Log.Event where
  level := .error
  speaker := .profiles
  message := "failed to write cpu profile"
  fields := [("path", .text path), ("error", .text e.message)]

/-- The event of a recording that does not start when it need not. -/
def disabled (path : String) (e : Error) : Log.Event where
  level := .warn
  speaker := .burner
  message := "cpu profiling disabled"
  fields := [("path", .text path), ("error", .text e.message)]

/-- Creates a recording's file. -/
def createFile (o : Outside) (path : String) (fs : FileSystem) :
    Except IoError (Handle × FileSystem) :=
  match o.creating with
  | some e => .error e
  | none => fs.create (Utf8.encode path.toList)

/-- Starts a recording: what comes of it, what is said, and the host then. -/
def start (o : Outside) (path : String) (frequency : Int32) (host : Host) :
    Except Failure Recording × List Log.Event × Host :=
  match createFile o path host.files with
  | .error e => (.error (.error (.io e)), [], host)
  | .ok (file, files) =>
    match host.sampler.start frequency with
    | (.error failure, sampler) => (.error failure, [Sampler.starting], ⟨sampler, files⟩)
    | (.ok (), sampler) =>
      (.ok { path := path, file := file, frequency := frequency },
        [Sampler.starting, started path frequency], ⟨sampler, files⟩)

/-- Starts a recording if there is a path for one. An error is logged and otherwise
ignored. -/
def startOptional (o : Outside) (path? : Option String) (frequency : Int32) (host : Host) :
    Except Panic (Option Recording) × List Log.Event × Host :=
  match path? with
  | none => (.ok none, [], host)
  | some path =>
    match start o path frequency host with
    | (.ok r, events, host) => (.ok (some r), events, host)
    | (.error (.error e), events, host) => (.ok none, events ++ [disabled path e], host)
    | (.error (.panic p), events, host) => (.error p, events, host)

/-- The profile that a recording makes. -/
def profile (r : Recording) (o : Outside) : Profile :=
  ⟨r.frequency, o.now - o.sampled.nanos, o.sampled, o.seen⟩

/-- Puts bytes into a recording's file, and syncs it. -/
def putBytes (o : Outside) (file : Handle) (bytes : Bytes) (fs : FileSystem) :
    Except IoError Unit × Handle × FileSystem :=
  match o.writing with
  | some (count, e) =>
    match fs.write file (bytes.take count) with
    | .ok (file, fs) => (.error e, file, fs)
    | .error _ => (.error e, file, fs)
  | none =>
    match fs.write file bytes with
    | .error e => (.error e, file, fs)
    | .ok (file, fs) =>
      match o.syncing with
      | some e => (.error e, file, fs)
      | none => (fs.sync file, file, fs)

/-- Writes a recording out: makes the report, stops the sampler, writes the file. What is
left of the recording no longer holds the sampler, and there is nothing to write for one
that does not. -/
def writeOut (o : Outside) (r : Recording) (host : Host) :
    Except Error Written × List Log.Event × Recording × Host :=
  if r.pending then
    let r := { r with pending := false }
    let host := { host with sampler := host.sampler.stop }
    match o.unreported with
    | some e => (.error (.profiler e), [Sampler.stopping], r, host)
    | none =>
      let profile := r.profile o
      let bytes := profile.encode
      match putBytes o r.file bytes host.files with
      | (.error e, file, files) =>
        (.error (.io e), [Sampler.stopping], { r with file := file }, { host with files := files })
      | (.ok (), file, files) =>
        (.ok ⟨profile, bytes.length⟩, [Sampler.stopping, written r.path bytes.length],
          { r with file := file }, { host with files := files })
  else (.ok ⟨r.profile o, 0⟩, [], r, host)

/-- Drops a recording: writes it out if that has not been tried yet, and logs a failure. -/
def drop (o : Outside) (r : Recording) (host : Host) : List Log.Event × Host :=
  if r.pending then
    match writeOut o r host with
    | (.ok _, events, _, host) => (events, host)
    | (.error e, events, _, host) => (events ++ [writeFailed r.path e], host)
  else ([], host)

/-- Ends a recording: writes it out, and drops what is left of it. -/
def finish (o : Outside) (r : Recording) (host : Host) :
    Except Error Written × List Log.Event × Host :=
  let (result, events, rest, host) := writeOut o r host
  let (dropped, host) := drop o rest host
  (result, events ++ dropped, host)

end Recording

end ProfilingTargets
