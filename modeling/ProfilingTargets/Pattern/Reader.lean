import ProfilingTargets.Pattern.Bracket
import ProfilingTargets.Text.Alphanumeric

/-!
# Patterns

Whether a text is a pattern that a matcher can be made of. Nothing is matched here.

## The model

A pattern is read from left to right. For every group that is open, the depths of its
parts are kept (`Group`), as a pattern may not be nested too deeply, and the flags that
hold again after it. The last part tells whether something can be repeated.

Repetitions with counts are written in braces. A pattern is taken here from between
braces, and never holds a closing one; so no count can be complete, and an opening brace
is refused.

A matcher is made for patterns whose places can be told from one neighbour on each side;
a boundary of words in characters other than ASCII is not such a place.
-/

namespace ProfilingTargets.Pattern

/-- Why no matcher can be made of a text. -/
inductive Fault where
  /-- It is no pattern, or needs tables. -/
  | malformed
  /-- It asks for boundaries of words outside ASCII. -/
  | unicodeBoundary
  deriving DecidableEq, Repr

/-- The text of a fault. -/
def Fault.message : Fault → String
  | .malformed => "error building NFA"
  | .unicodeBoundary =>
    "unsupported regex feature for DFAs: cannot build DFAs for regexes with Unicode word " ++
      "boundaries; switch to ASCII word boundaries, or heuristically enable Unicode word " ++
      "boundaries or use a different regex engine"

/-- A group that is not closed yet, or the pattern as a whole. -/
structure Group where
  /-- The depths of the alternatives before the last `|`. -/
  alternatives : List Nat := []
  /-- The depths of the parts since then, the last first; `none` for a change of flags,
  which cannot be repeated. -/
  parts : List (Option Nat) := []
  deriving DecidableEq, Repr

namespace Group

/-- The depth of the parts since the last `|`. -/
def sequence (g : Group) : Nat := depthOfList (g.parts.map (·.getD 0))

/-- The depth of what has been read. -/
def depth (g : Group) : Nat := depthOfList (g.sequence :: g.alternatives)

/-- The group after a `|`. -/
def alternate (g : Group) : Group := ⟨g.sequence :: g.alternatives, []⟩

/-- The group with one part more. -/
def add (g : Group) (part : Option Nat) : Group := { g with parts := part :: g.parts }

/-- The group with its last part repeated. -/
def repeat? (g : Group) : Option Group :=
  match g.parts with
  | some depth :: parts => some { g with parts := some (depth + 1) :: parts }
  | _ => none

end Group

/-- What has been read of a pattern. -/
structure Reading where
  /-- The flags that hold. -/
  flags : Flags := {}
  /-- The innermost group. -/
  group : Group := {}
  /-- The groups around it, with the flags that hold in them. -/
  outer : List (Flags × Group) := []
  /-- The names of groups. -/
  names : List (List Char) := []
  /-- A boundary of words outside ASCII is asked for. -/
  boundary : Bool := false
  deriving DecidableEq, Repr

namespace Reading

/-- A part has been read. -/
def add (r : Reading) (part : Option Nat) : Reading := { r with group := r.group.add part }

/-- A group begins, in which these flags hold. -/
def enter (r : Reading) (f : Flags) : Reading :=
  { r with flags := f, group := {}, outer := (r.flags, r.group) :: r.outer }

/-- A group ends. -/
def leave? (r : Reading) : Option Reading :=
  match r.outer with
  | [] => none
  | (flags, group) :: outer =>
    some { r with flags := flags, group := group.add (some (r.group.depth + 1)), outer := outer }

/-- A part without parts has been read, if it is allowed. -/
def addPrimitive? (r : Reading) : Primitive → Option Reading
  | .literal c byte => if r.flags.allows c byte then some (r.add (some 0)) else none
  | .lettered complement => if r.flags.allowsClass complement then some (r.add (some 0)) else none
  | .any => if r.flags.allowsAny then some (r.add (some 0)) else none
  | .wordBoundary => some { r.add (some 0) with boundary := r.boundary || r.flags.unicode }
  | .anchor => some (r.add (some 0))

/-- Whether a text may be the name of a group. -/
def isGroupName : List Char → Bool
  | [] => false
  | c :: rest =>
    (c == '_' || Alphanumeric.isAlphabetic c) &&
      rest.all fun c =>
        c == '_' || c == '.' || c == '[' || c == ']' || Alphanumeric.isAlphanumeric c

/-- Reads the name of a group, after its `<`. -/
def readName? (r : Reading) (cs : List Char) : Option (Reading × List Char) :=
  let name := cs.takeWhile (· ≠ '>')
  if cs.contains '>' && isGroupName name && !r.names.contains name then
    some ({ r.enter r.flags with names := name :: r.names }, cs.drop (name.length + 1))
  else none

/-- Reads what opens a group, after its `(`, or a change of flags. What stands before or
after a match cannot be asked for (`(?=`, `(?<!` and the like). -/
def open? (r : Reading) (cs : List Char) : Option (Reading × List Char) :=
  match r.flags.skip cs with
  | '?' :: '=' :: _ | '?' :: '!' :: _ | '?' :: '<' :: '=' :: _ | '?' :: '<' :: '!' :: _ => none
  | '?' :: 'P' :: '<' :: rest | '?' :: '<' :: rest => r.readName? rest
  | '?' :: rest =>
    match r.flags.read? true [] rest with
    | some (f, _, ':', rest) => some (r.enter f, rest)
    | some (f, true, _, rest) => some ({ r.add none with flags := f }, rest)
    | _ => none
  | rest => some (r.enter r.flags, rest)

/-- Reads one part or sign. -/
def step? (r : Reading) (c : Char) (rest : List Char) : Option (Reading × List Char) :=
  let primitive (p : Primitive) (rest : List Char) := (r.addPrimitive? p).map (·, rest)
  match c with
  | '(' => r.open? rest
  | ')' => r.leave?.map (·, rest)
  | '|' => some ({ r with group := r.group.alternate }, rest)
  | '[' => (Bracket.read? r.flags rest).map fun (depth, rest) => (r.add (some depth), rest)
  | '?' | '*' | '+' =>
    r.group.repeat?.map fun group =>
      ({ r with group := group }, if rest.head? = some '?' then rest.drop 1 else rest)
  | '{' => none
  | '\\' => (readEscape r.flags rest).bind fun (p, rest) => primitive p rest
  | '.' => primitive .any rest
  | '^' | '$' => primitive .anchor rest
  | c => primitive (.literal c false) rest

/-- Reads up to the end. -/
def readFrom (r : Reading) : Nat → List Char → Option Reading
  | 0, _ => none
  | fuel + 1, cs =>
    match r.flags.skip cs with
    | [] => some r
    | c :: rest => (r.step? c rest).bind fun (r, rest) => readFrom r fuel rest

end Reading

/-- How deeply a pattern may be nested. -/
def greatestDepth : Nat := 250

/-- Why no matcher can be made of a text, if none can. Every step of the reading takes a
character. -/
def fault? (cs : List Char) : Option Fault :=
  match Reading.readFrom {} (cs.length + 1) cs with
  | none => some .malformed
  | some r =>
    if !r.outer.isEmpty || greatestDepth < r.group.depth then some .malformed
    else if r.boundary then some .unicodeBoundary
    else none

end ProfilingTargets.Pattern
