import ProfilingTargets.Text.Numeral

/-!
# Log events

What a program says about what it does: a level, the part of the program that
speaks, a message, and named values.
-/

namespace ProfilingTargets.Log

/-- How much an event matters, the most important first. -/
inductive Level where
  | error | warn | info | debug | trace
  deriving DecidableEq, Repr

namespace Level

/-- The levels, the most important first. -/
def all : List Level := [.error, .warn, .info, .debug, .trace]

/-- Place among the levels: 1 for errors, up to 5. -/
def verbosity : Level → Nat
  | .error => 1
  | .warn => 2
  | .info => 3
  | .debug => 4
  | .trace => 5

/-- The name in capitals. -/
def name : Level → String
  | .error => "ERROR"
  | .warn => "WARN"
  | .info => "INFO"
  | .debug => "DEBUG"
  | .trace => "TRACE"

/-- The name in lower case. -/
def word : Level → String
  | .error => "error"
  | .warn => "warn"
  | .info => "info"
  | .debug => "debug"
  | .trace => "trace"

end Level

/-- The parts that speak. -/
inductive Speaker where
  /-- The burner program itself. -/
  | program
  /-- Profiles and captures. -/
  | profiles
  /-- The start of the burner's profile. -/
  | burner
  /-- The leaky worker. -/
  | worker
  /-- The debug server. -/
  | server
  /-- The sampler. -/
  | sampler
  deriving DecidableEq, Repr

/-- The name under which a part is addressed when a log is set up. -/
def Speaker.target : Speaker → String
  | .program => "simple"
  | .profiles => "pprof_samples::cpu"
  | .burner => "pprof_samples::burner"
  | .worker => "pprof_samples::leak"
  | .server => "pprof_samples::debug_server"
  | .sampler => "pprof::profiler"

/-- Whether a part belongs to the library, as opposed to the program on top of it and
the sampler below. -/
def Speaker.inLibrary : Speaker → Bool
  | .program | .sampler => false
  | _ => true

/-- The value of a field. -/
inductive Value where
  /-- A number. -/
  | number (n : Int)
  /-- A text. -/
  | text (s : String)
  deriving DecidableEq, Repr

/-- The text of a value. -/
def Value.display : Value → String
  | .number n => String.ofList (Numeral.writeInt n)
  | .text s => s

/-- An event. -/
structure Event where
  /-- How much it matters. -/
  level : Level
  /-- Who speaks. -/
  speaker : Speaker
  /-- What happened. -/
  message : String
  /-- What it happened with. -/
  fields : List (String × Value) := []
  deriving DecidableEq, Repr

/-- The field that holds the message of an event. -/
def messageField : String := "message"

/-- The fields that an event of the sampler has beside its message. -/
def samplerFields : List String := ["log.target", "log.module_path", "log.file", "log.line"]

/-- The names of the fields of an event. -/
def Event.fieldNames (event : Event) : List String :=
  messageField ::
    if event.speaker = .sampler then samplerFields else event.fields.map (·.1)

/-- A level's name in a column of five characters, at the right. -/
def Level.column (level : Level) : String :=
  String.ofList (List.replicate (5 - level.name.length) ' ') ++ level.name

/-- A line of the log, after its time: level, message and fields. -/
def line (level : Level) (message : String) (fields : List (String × Value)) : String :=
  fields.foldl (fun line (name, value) => line ++ " " ++ name ++ "=" ++ value.display)
    (level.column ++ " " ++ message)

/-- The line of an event. -/
def Event.line (event : Event) : String := Log.line event.level event.message event.fields

end ProfilingTargets.Log
