import ProfilingTargets.Pattern.Escape

/-!
# Brackets in patterns

A bracket lists characters, ranges of characters, classes and further brackets, or with
`^` in front all that is not listed. Two lists are combined by `&&`, `--` or `~~`. A `]`
at the beginning and a `-` at the beginning or the end stand for themselves.

Of a bracket only its depth is kept: how deeply brackets, lists and combinations of them
are nested in it.
-/

namespace ProfilingTargets.Pattern

/-- The depth of parts that stand side by side: one part is no list. -/
def depthOfList : List Nat → Nat
  | [] => 0
  | [depth] => depth
  | depths => depths.foldl max 0 + 1

/-- A bracket that is not closed yet. -/
structure Bracket where
  /-- What is not listed is meant. -/
  complement : Bool
  /-- The depth of what stands before the last operator, if there is one. -/
  left : Option Nat := none
  /-- The depths of what is listed since then, the last first. -/
  items : List Nat := []
  /-- Nothing but hyphens has been read. -/
  fresh : Bool := true
  deriving DecidableEq, Repr

namespace Bracket

/-- The depth of what has been read. -/
def content (b : Bracket) : Nat :=
  match b.left with
  | none => depthOfList b.items
  | some left => depthOfList [left, depthOfList b.items]

/-- The depth of the bracket. -/
def depth (b : Bracket) : Nat := b.content + 1

/-- The bracket with one item more. -/
def add (b : Bracket) (depth : Nat) : Bracket :=
  { b with items := depth :: b.items, fresh := false }

/-- The bracket after an operator. -/
def operate (b : Bracket) : Bracket := { b with left := some b.content, items := [] }

/-- Reads what opens a bracket, after its `[`. -/
def open? (f : Flags) (cs : List Char) : Bracket × List Char :=
  match f.skip cs with
  | '^' :: rest => ({ complement := true }, rest)
  | rest => ({ complement := false }, rest)

/-- The classes that have names. -/
def classNames : List String := [
  "alnum", "alpha", "ascii", "blank", "cntrl", "digit", "graph", "lower", "print", "punct",
  "space", "upper", "word", "xdigit"]

/-- Reads a class that has a name, after its `[`: whether its complement is meant. -/
def readNamed? : List Char → Option (Bool × List Char)
  | ':' :: cs =>
    let (complement, cs) := match cs with
      | '^' :: rest => (true, rest)
      | _ => (false, cs)
    let name := cs.takeWhile (· ≠ ':')
    match cs.drop name.length with
    | ':' :: ']' :: rest =>
      if classNames.contains (String.ofList name) then some (complement, rest) else none
    | _ => none
  | _ => none

/-- Reads a part of a bracket that may be the end of a range. -/
def readPrimitive (f : Flags) : List Char → Option (Primitive × List Char)
  | [] => none
  | '\\' :: rest => readEscape f rest
  | c :: rest => some (.literal c false, rest)

/-- Whether a part may stand in a bracket by itself. -/
def allowed (f : Flags) : Primitive → Bool
  | .literal c _ => f.allowsInBracket c
  | .lettered complement => f.allowsClass complement
  | _ => false

/-- Whether two parts may be the ends of a range. -/
def areEnds (f : Flags) : Primitive → Primitive → Bool
  | .literal c _, .literal d _ => c ≤ d && f.allowsInBracket c && f.allowsInBracket d
  | _, _ => false

/-- Reads a character, a class or a range, and gives what follows it. -/
def readItem (f : Flags) (cs : List Char) : Option (List Char) := do
  let (first, rest) ← readPrimitive f cs
  let rest := f.skip rest
  let next := (rest.drop 1)
  if rest.head? = some '-' ∧ f.peek next ≠ some ']' ∧ f.peek next ≠ some '-' then
    let (last, rest) ← readPrimitive f (f.skip next)
    if areEnds f first last then some rest else none
  else if allowed f first then some rest else none

/-- Reads up to the end of the outermost bracket: its depth, and what follows. `b` is the
innermost one, `outer` are those around it. -/
def readFrom (f : Flags) :
    Nat → Bracket → List Bracket → List Char → Option (Nat × List Char)
  | 0, _, _, _ => none
  | fuel + 1, b, outer, cs =>
    match f.skip cs with
    | [] => none
    | c :: rest =>
      if b.fresh && (c == '-' || (c == ']' && b.items.isEmpty)) then
        if f.allowsInBracket c then
          readFrom f fuel { b.add 0 with fresh := c == '-' } outer rest
        else none
      else
        let b := { b with fresh := false }
        if c = '[' then
          match readNamed? rest with
          | some (complement, rest) =>
            if f.allowsNamed complement then readFrom f fuel (b.add 0) outer rest else none
          | none =>
            let (inner, rest) := open? f rest
            readFrom f fuel inner (b :: outer) rest
        else if c = ']' then
          match f.allowsBracket b.complement, outer with
          | false, _ => none
          | true, [] => some (b.depth, rest)
          | true, parent :: outer => readFrom f fuel (parent.add b.depth) outer rest
        else if (c = '&' ∨ c = '-' ∨ c = '~') ∧ rest.head? = some c then
          readFrom f fuel b.operate outer (rest.drop 1)
        else
          match readItem f (c :: rest) with
          | some rest => readFrom f fuel (b.add 0) outer rest
          | none => none

/-- Reads a bracket, after its `[`: its depth, and what follows. Every step reads a
character. -/
def read? (f : Flags) (cs : List Char) : Option (Nat × List Char) :=
  let (b, rest) := open? f cs
  readFrom f (rest.length + 1) b [] rest

end Bracket

end ProfilingTargets.Pattern
