import ProfilingTargets.Text.Jaro
import ProfilingTargets.Text.Utf8

/-!
# Options of the burner

What the burner can be asked: where to write a profile, for help, and for its
version. A long name that is none of these may be a slip, and then the most similar
one is suggested.
-/

namespace ProfilingTargets.CommandLine

/-- An option. -/
inductive Opt where
  /-- Where to write a CPU profile. -/
  | cpuprofile
  /-- Show what options there are. -/
  | help
  /-- Show the version. -/
  | version
  deriving DecidableEq, Repr

namespace Opt

/-- All options. -/
def all : List Opt := [.cpuprofile, .help, .version]

/-- The long name. -/
def long : Opt → List Char
  | .cpuprofile => "cpuprofile".toList
  | .help => "help".toList
  | .version => "version".toList

/-- The option of a long name. -/
def ofLong? (name : List Char) : Option Opt := all.find? (·.long = name)

/-- The option of a short name. -/
def ofShort? : Char → Option Opt
  | 'h' => some .help
  | 'V' => some .version
  | _ => none

/-- The flag as it is named in messages. -/
def flag (o : Opt) : String := "--" ++ String.ofList o.long

/-- The flag with the name of its value, if it has one. -/
def usage : Opt → String
  | .cpuprofile => flag .cpuprofile ++ " <PATH>"
  | o => o.flag

/-- Names at least this similar are suggested. -/
def similarEnough : Float := 0.7

/-- The option whose long name is most similar to `name`, if one is similar enough; of
two that are equally similar, the later one. -/
def similar? (name : List Char) : Option Opt :=
  (all.foldl (fun best o =>
    let s := Jaro.similarity name o.long
    if s > similarEnough then
      match best with
      | some (_, t) => if t > s then best else some (o, s)
      | none => some (o, s)
    else best) (none : Option (Opt × Float))).map (·.1)

end Opt

end ProfilingTargets.CommandLine
