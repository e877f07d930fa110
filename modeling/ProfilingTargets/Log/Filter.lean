import ProfilingTargets.Log.Directive

/-!
# Log filters

Which events are written. A filter is a list of directives, between commas. An event is
measured by the most specific directive that is about it, and not at all if there is
none; of two directives that are about the same events the later one counts.
-/

namespace ProfilingTargets.Log

/-- The parts of a list between commas, the empty ones left out. -/
def parts (cs : List Char) : List (List Char) := (Split.splitOn ',' cs).filter (!·.isEmpty)

/-- Which events are written. -/
structure Filter where
  /-- The directives in order. -/
  directives : List Directive
  deriving DecidableEq, Repr

namespace Filter

/-- Reads a filter, if all its directives can be read. -/
def read? (cs : List Char) : Option Filter :=
  ((parts cs).mapM fun part => (Directive.read part).toOption).map Filter.mk

/-- Reads what can be read of a filter; errors alone if that is nothing. -/
def readLossy (cs : List Char) : Filter :=
  match (parts cs).filterMap fun part => (Directive.read part).toOption with
  | [] => ⟨[{ ceiling := Level.error.verbosity }]⟩
  | directives => ⟨directives⟩

/-- The lines that tell of the directives which `readLossy` passes over. -/
def notices (cs : List Char) : List String :=
  (parts cs).filterMap fun part =>
    match Directive.read part with
    | .ok _ => none
    | .error e => some (e.notice part)

/-- The filter of a process: what its environment asks for, if that can be read, else
what can be read of `fallback`. The lines that tell of the rest come with it. -/
def ofEnvironment (requested : Option (List Char)) (fallback : List Char) :
    List String × Filter :=
  match requested.bind read? with
  | some filter => ([], filter)
  | none => (notices fallback, readLossy fallback)

/-- The directive that measures the events of a target with these fields: the most
specific one, and the last of those. -/
def decisive (filter : Filter) (target : String) (fields : List String) : Option Directive :=
  (filter.directives.filter (·.measures target.toList fields)).foldl (fun best d =>
    match best with
    | none => some d
    | some b => if d.specificity < b.specificity then some b else some d) none

/-- Whether an event of a level and a target, with these fields, is written. -/
def enables (filter : Filter) (level : Level) (target : String) (fields : List String) : Bool :=
  (filter.decisive target fields).any fun d => level.verbosity ≤ d.ceiling

/-- The lines of the events that a filter lets through. -/
def lines (filter : Filter) (events : List Event) : List String :=
  (events.filter fun e =>
    filter.enables e.level e.speaker.target e.fieldNames).map Event.line

end Filter

end ProfilingTargets.Log
