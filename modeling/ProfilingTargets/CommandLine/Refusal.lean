import ProfilingTargets.CommandLine.Options
import ProfilingTargets.Error
import ProfilingTargets.Text.Split
import ProfilingTargets.Text.Terminal

/-!
# Refused arguments

Why a command line is not carried out, and what is then printed. Being asked for help
or for the version is among the reasons, with a status of its own.

What the user typed is shown without control characters, and with or without what stands
after a blank in a control sequence (`Terminal.Interruption`). A message that knows which
options were meant shows how those are used; others show only that there are options.
-/

namespace ProfilingTargets.CommandLine

/-- Why a command line is not carried out. -/
inductive Refusal where
  /-- An argument is none of the program's; perhaps another option was meant. The
  options in `used` were given, or are suggested. -/
  | unknownArgument (shown : List Char) (meant : Option Opt) (used : List Opt)
  /-- The option for the profile has no value. -/
  | missingValue
  /-- The option for the profile is given twice. -/
  | repeated
  /-- A value is attached to an option that takes none; whether a profile was asked for
  before. -/
  | unexpectedValue (value : List Char) (option : Opt) (given : Bool)
  /-- A value is not UTF-8. -/
  | notUtf8
  /-- Help is asked for. -/
  | help
  /-- The version is asked for. -/
  | version
  deriving DecidableEq, Repr

/-- The name of the program when it is not told its own. -/
def programName : List Char := "simple".toList

/-- The version of the program. -/
def programVersion : String := "0.1.0"

/-- The last component of a path: empty components and the directory's own name are
passed over, and its parent's name is none. -/
def fileName? (path : Bytes) : Option Bytes :=
  match ((Split.splitOn 0x2F path).filter fun c => !c.isEmpty && c != [0x2E]).getLast? with
  | some name => if name = [0x2E, 0x2E] then none else some name
  | none => none

/-- The name that a program goes by: the last component of the path it was started by,
if that is text. -/
def nameOf (arguments : List Bytes) : List Char :=
  ((arguments.head?.bind fileName?).bind Utf8.decode?).getD programName

namespace Refusal

/-- What the user typed, as it is shown. -/
def shown (i : Terminal.Interruption) (cs : List Char) : String :=
  String.ofList (Terminal.plain i cs)

/-- How the program is used, in these words. -/
def usageOf (i : Terminal.Interruption) (program : List Char) (words : List String) : String :=
  "Usage: " ++ shown i program ++ " " ++ " ".intercalate words

/-- How the program is used: with these options, or with options. -/
def usage (i : Terminal.Interruption) (program : List Char) (used : List Opt) : String :=
  usageOf i program (if used.isEmpty then ["[OPTIONS]"] else used.map Opt.usage)

/-- How an option is used that has been given a value in vain: by itself, or beside the
request for a profile that was made before. -/
def usageBeside (i : Terminal.Interruption) (program : List Char) (option : Opt)
    (given : Bool) : String :=
  usageOf i program
    (option.usage :: if given then ["<" ++ Opt.cpuprofile.usage ++ ">"] else [])

/-- The last line of a message about a mistake. -/
def more : String := "For more information, try '--help'.\n"

/-- A message about a mistake, with the usage. -/
def mistake (usage what : String) : String :=
  "error: " ++ what ++ "\n\n" ++ usage ++ "\n\n" ++ more

/-- The suggestion of an option. -/
def tip : Option Opt → String
  | none => ""
  | some o => "\n\n  tip: a similar argument exists: '" ++ o.flag ++ "'"

/-- What the program does and how it is used. -/
def helpText (i : Terminal.Interruption) (program : List Char) : String :=
  "Burns CPU in four busy-work functions, optionally under a CPU profiler\n\n" ++
  usage i program [] ++ "\n\n" ++
  "Options:\n" ++
  "      --cpuprofile <PATH>  Write cpu profile to file [default: \"\"]\n" ++
  "  -h, --help               Print help\n" ++
  "  -V, --version            Print version\n"

/-- What is printed. -/
def message (i : Terminal.Interruption) (program : List Char) : Refusal → String
  | .unknownArgument arg meant used =>
    mistake (usage i program used)
      ("unexpected argument '" ++ shown i arg ++ "' found" ++ tip meant)
  | .missingValue =>
    "error: a value is required for '" ++ Opt.cpuprofile.usage ++
      "' but none was supplied\n\n" ++ more
  | .repeated =>
    mistake (usage i program [])
      ("the argument '" ++ Opt.cpuprofile.usage ++ "' cannot be used multiple times")
  | .unexpectedValue value option given =>
    mistake (usageBeside i program option given)
      ("unexpected value '" ++ shown i value ++ "' for '" ++ option.flag ++
        "' found; no more were expected")
  | .notUtf8 => mistake (usage i program []) "invalid UTF-8 was detected in one or more arguments"
  | .help => helpText i program
  | .version => String.ofList programName ++ " " ++ programVersion ++ "\n"

/-- Whether the user has made a mistake, and is told so on standard error; otherwise
an answer was asked for. -/
def isMistake : Refusal → Bool
  | .help | .version => false
  | _ => true

/-- The status of a program that ends with a refusal. -/
def exitStatus (refusal : Refusal) : ExitStatus :=
  if refusal.isMistake then .invalidArguments else .success

end Refusal

end ProfilingTargets.CommandLine
