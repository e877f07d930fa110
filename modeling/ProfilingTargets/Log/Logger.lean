import ProfilingTargets.Log.Filter

/-!
# The log of a process

A process has one log. It is set up once, and nothing is written before that; setting
it up again changes nothing, but the directives that cannot be read are told of every
time. What the environment asks for wins over what the program asks for.
-/

namespace ProfilingTargets.Log

/-- The log of a process. -/
structure Logger where
  /-- What is written, once the log is set up. -/
  filter : Option Filter := none
  deriving DecidableEq, Repr

namespace Logger

/-- Sets a log up: `requested` is what the environment asks for, `fallback` what the
program does. The lines that are printed at once come with the log. -/
def setUp (requested : Option (List Char)) (fallback : List Char) (l : Logger) :
    List String × Logger :=
  let (notices, filter) := Filter.ofEnvironment requested fallback
  (notices, ⟨some (l.filter.getD filter)⟩)

/-- Whether an event of a level and a target, with these fields, is written. -/
def writes (l : Logger) (level : Level) (target : String) (fields : List String) : Bool :=
  l.filter.any (·.enables level target fields)

end Logger

end ProfilingTargets.Log
