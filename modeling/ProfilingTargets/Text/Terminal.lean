import ProfilingTargets.Text.Utf8

/-!
# Terminal control sequences

Messages that quote what a user typed are printed as plain text: control characters
other than blanks, and the control sequences of terminals (ECMA-48), are taken out
of the quoted part.

## The model

A sequence begins with the escape character. The character after it says of which
kind it is: an escape sequence or a control sequence goes on to a final character, an
operating system command to a bell. The other strings end only at a string
terminator, and a device control string has a header before its data, in which there
is no terminator yet. Cancel, substitute and another escape character break any
sequence off.

A blank in an escape or control sequence is printed. It breaks the sequence off, too
(`Interruption.ends`), or only suspends it while what follows can be printed: a control
character then resumes the sequence, and a character outside ASCII ends it
(`Interruption.suspends`).

Terminals read bytes. A character outside ASCII within a sequence is skipped like the
rest of it, and the terminator of a string is a byte, also if it is one of the bytes
of a character.
-/

namespace ProfilingTargets.Terminal

/-- The sequence that the last characters have begun. -/
inductive State where
  /-- None. -/
  | ground
  /-- The escape character. -/
  | escape
  /-- An escape sequence with intermediate characters. -/
  | intermediate
  /-- A control sequence. -/
  | control
  /-- An operating system command. -/
  | command
  /-- A device control string, nothing of its header. -/
  | device
  /-- A device control string, the parameters of its header. -/
  | deviceParameters
  /-- A device control string, the intermediate characters of its header. -/
  | deviceIntermediate
  /-- The data of a device control string, or another string: start of string, privacy
  message, application program command. -/
  | string
  deriving DecidableEq, Repr

/-- The blanks that are printed although they are control characters. -/
def isPrintedBlank (c : Char) : Bool := c == '\t' || c == '\n' || c == '\x0c' || c == '\r'

/-- The byte that ends a string. -/
def terminator : UInt8 := 0x9C

/-- The state after the escape character and a character from the blank on. -/
def State.afterEscape (c : Char) : State :=
  if c.toNat < 0x30 then .intermediate
  else if c = '[' then .control
  else if c = ']' then .command
  else if c = 'P' then .device
  else if c = 'X' ∨ c = '^' ∨ c = '_' then .string
  else .ground

/-- The state after a character of ASCII, from the blank on and before delete, that
continues a sequence. -/
def State.after (s : State) (c : Char) : State :=
  match s with
  | .ground => .ground
  | .escape => .afterEscape c
  | .intermediate => if c.toNat < 0x30 then .intermediate else .ground
  | .control => if c.toNat < 0x40 then .control else .ground
  | .command => .command
  | .device =>
    if c.toNat < 0x30 then .deviceIntermediate
    else if c.toNat < 0x40 then .deviceParameters
    else .string
  | .deviceParameters =>
    if c.toNat < 0x30 then .deviceIntermediate
    else if c.toNat < 0x3C then .deviceParameters
    else .string
  | .deviceIntermediate => if c.toNat < 0x30 then .deviceIntermediate else .string
  | .string => .string

/-- Whether a control character has its effect in a state, instead of being part of a
string. -/
def State.obeys : State → Bool
  | .ground | .escape | .intermediate | .control => true
  | _ => false

/-- Whether `c` is printed in a state, and the state after it, if a blank breaks sequences
off. -/
def State.step (s : State) (c : Char) : Bool × State :=
  if c = '\x18' ∨ c = '\x1a' then (false, .ground)
  else if c = '\x1b' then (false, .escape)
  else if c = '\x7f' then (false, s)
  else if c.toNat < 0x20 then
    if s.obeys && isPrintedBlank c then (true, .ground)
    else if s = .command ∧ c = '\x07' then (false, .ground)
    else (false, s)
  else if c.toNat < 0x80 then (s = .ground, s.after c)
  else if s = .string ∧ terminator ∈ Utf8.encodeChar c then (false, .ground)
  else (s = .ground, s)

/-- What a blank does to the escape or control sequence that it stands in. -/
inductive Interruption where
  /-- It ends the sequence. -/
  | ends
  /-- It suspends the sequence. -/
  | suspends
  deriving DecidableEq, Repr

/-- What has been read of a text. -/
structure Reading where
  /-- The sequence that has begun. -/
  sequence : State := .ground
  /-- It is suspended, and what can be printed is. -/
  suspended : Bool := false
  deriving DecidableEq, Repr

/-- Whether `c` is printed, and what has been read then. -/
def Reading.step (i : Interruption) (r : Reading) (c : Char) : Bool × Reading :=
  if r.suspended && (State.ground.step c).1 then
    (true, if c.toNat < 0x80 then r else {})
  else
    let (printed, next) := r.sequence.step c
    if printed && i = .suspends then (true, ⟨r.sequence, r.sequence != .ground⟩)
    else (printed, ⟨next, false⟩)

/-- What is printed of a text, from a point on. -/
def plainFrom (i : Interruption) (r : Reading) : List Char → List Char
  | [] => []
  | c :: cs =>
    let (printed, r) := r.step i c
    if printed then c :: plainFrom i r cs else plainFrom i r cs

/-- A text without its control characters and control sequences. -/
def plain (i : Interruption) (cs : List Char) : List Char := plainFrom i {} cs

end ProfilingTargets.Terminal
