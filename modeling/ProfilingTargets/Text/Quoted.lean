import ProfilingTargets.Text.GraphemeExtend
import ProfilingTargets.Text.Numeral
import ProfilingTargets.Text.Unprintable

/-!
# Quoted literals

A text that somebody else chose is put into a message as a literal: between double
quotes, on one line, with every character that would not show as itself written as
an escape. `encode` writes the literal and `decode` reads it back.

The named escapes are `\0`, `\t`, `\r`, `\n`, `\"` and `\\`; any other character that
would not show is `\u` with its number in hexadecimal between braces. These are the
unprintable characters, the grapheme extenders that are marks, and the letters that
have no shape. A single quote stands for itself; `decode` reads it escaped, too.
-/

namespace ProfilingTargets.Quoted

/-- The halfwidth sound marks of Katakana: grapheme extenders that are letters, and take
a column of their own. -/
def isSoundMark (c : Char) : Bool := c == '\uFF9E' || c == '\uFF9F'

/-- The fillers of Hangul: letters with the Unicode property
`Default_Ignorable_Code_Point`, which have no shape. -/
def isFiller (c : Char) : Bool :=
  c == '\u115F' || c == '\u1160' || c == '\u3164' || c == '\uFFA0'

/-- A character that a literal shows only by its number. -/
def isHidden (c : Char) : Bool :=
  (GraphemeExtend.isExtender c && !isSoundMark c) || Unprintable.isUnprintable c || isFiller c

/-- How a character is written inside a literal. -/
def escape (c : Char) : List Char :=
  if c = '\x00' then ['\\', '0']
  else if c = '\t' then ['\\', 't']
  else if c = '\r' then ['\\', 'r']
  else if c = '\n' then ['\\', 'n']
  else if c = '"' ∨ c = '\\' then ['\\', c]
  else if isHidden c then ['\\', 'u', '\x7b'] ++ Nat.toDigits 16 c.toNat ++ ['\x7d']
  else [c]

/-- The literal of a text. -/
def encode (cs : List Char) : List Char := '"' :: cs.flatMap escape ++ ['"']

/-- What has been read of an escape. -/
inductive Reading where
  /-- No escape is open. -/
  | plain
  /-- The backslash. -/
  | escaped
  /-- The backslash and `u`. -/
  | numbered
  /-- The opening brace, and digits that make this number. -/
  | digits (n : Nat)

/-- The character of a named escape. -/
def named? : Char → Option Char
  | '0' => some '\x00'
  | 't' => some '\t'
  | 'r' => some '\r'
  | 'n' => some '\n'
  | '"' => some '"'
  | '\'' => some '\''
  | '\\' => some '\\'
  | _ => none

/-- Reads up to the closing quote, which has to be the last character. -/
def decodeFrom : Reading → List Char → Option (List Char)
  | _, [] => none
  | .plain, c :: rest =>
    if c = '"' then (if rest = [] then some [] else none)
    else if c = '\\' then decodeFrom .escaped rest
    else (decodeFrom .plain rest).map (c :: ·)
  | .escaped, c :: rest =>
    if c = 'u' then decodeFrom .numbered rest
    else match named? c with
      | some d => (decodeFrom .plain rest).map (d :: ·)
      | none => none
  | .numbered, c :: rest => if c = '\x7b' then decodeFrom (.digits 0) rest else none
  | .digits n, c :: rest =>
    if c = '\x7d' then (decodeFrom .plain rest).map (Char.ofNat n :: ·)
    else match Numeral.hexDigit? c with
      | some d => decodeFrom (.digits (16 * n + d)) rest
      | none => none

/-- The text of a literal. -/
def decode : List Char → Option (List Char)
  | '"' :: rest => decodeFrom .plain rest
  | _ => none

end ProfilingTargets.Quoted
