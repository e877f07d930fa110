import ProfilingTargets.Pattern.Flags
import ProfilingTargets.Text.Numeral

/-!
# Escapes in patterns

What a backslash and the characters after it stand for. Before a sign it takes the
sign's meaning away; before a letter it gives the letter a meaning, if the letter has one.
-/

namespace ProfilingTargets.Pattern

/-- A part of a pattern that has no parts. -/
inductive Primitive where
  /-- A character; whether it was written as the number of a byte. -/
  | literal (c : Char) (byte : Bool)
  /-- A class that has a letter, or its complement. -/
  | lettered (complement : Bool)
  /-- Any character. -/
  | any
  /-- A place between the characters of a word and others, or not between them. -/
  | wordBoundary
  /-- Another place: the beginning or the end. -/
  | anchor
  deriving DecidableEq, Repr

/-- Reads so many hexadecimal digits, `value` being that of those before. -/
def readHex (f : Flags) (value : Nat) : Nat → List Char → Option (Nat × List Char)
  | 0, cs => some (value, f.skip cs)
  | count + 1, cs =>
    match f.skip cs with
    | [] => none
    | c :: rest => (Numeral.hexDigit? c).bind fun d => readHex f (16 * value + d) count rest

/-- Reads the number of a character, of so many digits. -/
def readNumber (f : Flags) (count : Nat) (cs : List Char) : Option (Primitive × List Char) :=
  (readHex f 0 count cs).bind fun (n, rest) =>
    if n.isValidChar then some (.literal (Char.ofNat n) (count = 2), rest) else none

/-- What a letter stands for after a backslash, if that is a character. -/
def controlOf? : Char → Option Char
  | 'a' => some '\x07'
  | 'f' => some '\x0C'
  | 'n' => some '\n'
  | 'r' => some '\r'
  | 't' => some '\t'
  | 'v' => some '\x0B'
  | _ => none

/-- Whether a backslash makes a sign of ASCII stand for itself. -/
def isEscapable (c : Char) : Bool :=
  c.toNat < 0x80 && !c.isAlphanum && c != '<' && c != '>'

/-- Reads what follows a backslash. A property of characters (`\p`) is refused, as there
are no tables of properties, and so is a reference to what a group has matched (`\1`). -/
def readEscape (f : Flags) : List Char → Option (Primitive × List Char)
  | [] => none
  | 'x' :: rest => readNumber f 2 rest
  | 'u' :: rest => readNumber f 4 rest
  | 'U' :: rest => readNumber f 8 rest
  | c :: rest =>
    if isEscapable c then some (.literal c false, rest)
    else
      match controlOf? c with
      | some d => some (.literal d false, rest)
      | none =>
        if c = 'd' ∨ c = 's' ∨ c = 'w' then some (.lettered false, rest)
        else if c = 'D' ∨ c = 'S' ∨ c = 'W' then some (.lettered true, rest)
        else if c = 'b' ∨ c = 'B' ∨ c = '<' ∨ c = '>' then some (.wordBoundary, rest)
        else if c = 'A' ∨ c = 'z' then some (.anchor, rest)
        else none

end ProfilingTargets.Pattern
