import ProfilingTargets.Text.Blank

/-!
# Flags of patterns

A pattern is a regular expression, and flags say how its parts are meant: `i` ignores
case, `u` takes characters and not bytes (as is usual), and `x` allows blanks and
comments between the parts. The flags `m`, `s`, `R` and `U` change what a pattern matches,
but not whether it is one.

Which parts may be used under which flags is decided here. There are no tables of cases
and of classes of characters, so that nothing but ASCII can be compared ignoring case or
classed; and a pattern matches only whole characters, so that no part may match a byte
outside ASCII alone.
-/

namespace ProfilingTargets.Pattern

/-- The flags that are set. -/
structure Flags where
  /-- Case is ignored. -/
  ignoreCase : Bool := false
  /-- Characters are matched, not bytes. -/
  unicode : Bool := true
  /-- Blanks and comments stand between the parts. -/
  spaced : Bool := false
  deriving DecidableEq, Repr

namespace Flags

/-- Sets the flag of a letter, if it is the letter of a flag. -/
def set? (f : Flags) (on : Bool) : Char → Option Flags
  | 'i' => some { f with ignoreCase := on }
  | 'u' => some { f with unicode := on }
  | 'x' => some { f with spaced := on }
  | 'm' | 's' | 'R' | 'U' => some f
  | _ => none

/-- Reads flags up to `:` or `)`: those set then, whether there were any, the character
that ended them, and what follows. `seen` holds what was read, the last first; after `-`,
flags are taken back. -/
def read? (f : Flags) (on : Bool) (seen : List Char) :
    List Char → Option (Flags × Bool × Char × List Char)
  | [] => none
  | c :: rest =>
    if c = ':' ∨ c = ')' then
      if seen.head? = some '-' then none else some (f, !seen.isEmpty, c, rest)
    else if seen.contains c then none
    else if c = '-' then read? f false (c :: seen) rest
    else (f.set? on c).bind fun f => read? f on (c :: seen) rest

/-! ### Blanks and comments -/

/-- What follows blanks and comments; a comment goes from `#` to the end of the line. -/
def skipBlanks (inComment : Bool) : List Char → List Char
  | [] => []
  | c :: rest =>
    if inComment then skipBlanks (c != '\n') rest
    else if Blank.isBlank c then skipBlanks false rest
    else if c = '#' then skipBlanks true rest
    else c :: rest

/-- What follows the blanks and comments that the flags allow. -/
def skip (f : Flags) (cs : List Char) : List Char :=
  if f.spaced then skipBlanks false cs else cs

/-- The character that comes next in a bracket, just after another one: blanks and one
`#` are passed over where the flags allow them, unless nothing follows. -/
def peek (f : Flags) (cs : List Char) : Option Char :=
  if f.spaced then
    let next := match cs.dropWhile Blank.isBlank with
      | '#' :: rest => rest.dropWhile Blank.isBlank
      | rest => rest
    next.head? <|> cs.head?
  else cs.head?

/-! ### What may be used -/

/-- Whether a character may stand for itself; `byte` says that it was written as the number
of a byte. -/
def allows (f : Flags) (c : Char) (byte : Bool) : Bool :=
  if f.unicode then !f.ignoreCase else !(byte && 0x80 ≤ c.toNat)

/-- Whether any character may stand here. -/
def allowsAny (f : Flags) : Bool := f.unicode

/-- Whether a class that has a letter may be used (`\d`), or its complement. -/
def allowsClass (f : Flags) (complement : Bool) : Bool := !f.unicode && !complement

/-- Whether a character may stand in a bracket. -/
def allowsInBracket (f : Flags) (c : Char) : Bool :=
  if f.unicode then !f.ignoreCase else c.toNat < 0x80

/-- Whether a class that has a name may stand in a bracket (`[:alpha:]`), or its
complement. -/
def allowsNamed (f : Flags) (complement : Bool) : Bool :=
  if f.unicode then !f.ignoreCase else !complement

/-- Whether a bracket may be used, or the complement of one. -/
def allowsBracket (f : Flags) (complement : Bool) : Bool := f.unicode || !complement

end Flags

end ProfilingTargets.Pattern
