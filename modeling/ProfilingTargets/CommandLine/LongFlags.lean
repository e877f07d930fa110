import ProfilingTargets.Text.Utf8

/-!
# Long flags with one dash

A long flag may be written with one dash. Before the arguments are parsed, `-name` and
`-name=value` get their second dash, if the name has more than one character. Left
alone are the program's name, short flags, the value after a flag that takes the
next argument, and everything from `--` on.
-/

namespace ProfilingTargets.CommandLine

/-- The dash. -/
def dash : UInt8 := 0x2D

/-- The equals sign. -/
def equals : UInt8 := 0x3D

/-- The argument after which there are no flags. -/
def terminator : Bytes := [dash, dash]

namespace LongFlags

/-- The long flags whose value may be the next argument. -/
def valueFlags : List Bytes := [Utf8.encode "cpuprofile".toList]

/-- Whether an argument is a flag, with one dash or two, that takes the next argument as
its value. -/
def takesNext (arg : Bytes) : Bool :=
  valueFlags.any fun name => arg = dash :: name || arg = dash :: dash :: name

/-- Whether an argument is a long flag with one dash: text that starts with one dash and
has more than one character before the first equals sign. -/
def isSingleDashed (arg : Bytes) : Bool :=
  match Utf8.decode? arg with
  | some ('-' :: rest) => rest.head? != some '-' && 1 < (rest.takeWhile (· ≠ '=')).length
  | _ => false

/-- An argument that is not a value, with the second dash if it needs one. -/
def normalizeArg (arg : Bytes) : Bytes := if isSingleDashed arg then dash :: arg else arg

/-- The arguments from one on; `value` if that one is the value of the flag before it. -/
def normalizeFrom : (value : Bool) → List Bytes → List Bytes
  | _, [] => []
  | true, arg :: args => arg :: normalizeFrom false args
  | false, arg :: args =>
    if arg = terminator then arg :: args
    else normalizeArg arg :: normalizeFrom (takesNext arg) args

/-- The arguments with all long flags double-dashed; the first is the program's name. -/
def normalize : List Bytes → List Bytes
  | [] => []
  | program :: args => program :: normalizeFrom false args

end LongFlags

end ProfilingTargets.CommandLine
