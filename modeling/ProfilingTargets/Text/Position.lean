import ProfilingTargets.Text.Utf8

/-!
# Byte positions

Places in a text, counted in the bytes before them. A text can be cut where a character
begins and at its end. A cut inside a character or past the end breaks off, as does a slice
whose end comes before its start; then there is no value.
-/

namespace ProfilingTargets.Position

/-- How many bytes a character takes. -/
def width (c : Char) : Nat := (Utf8.encodeChar c).length

/-- How many bytes a text takes. -/
def size : List Char → Nat
  | [] => 0
  | x :: xs => width x + size xs

/-- Where the first `c` of a text begins. -/
def first? (c : Char) : List Char → Option Nat
  | [] => none
  | x :: xs => if x = c then some 0 else (first? c xs).map (width x + ·)

/-- Where the last `c` of a text begins. -/
def last? (c : Char) : List Char → Option Nat
  | [] => none
  | x :: xs =>
    match last? c xs with
    | some n => some (width x + n)
    | none => if x = c then some 0 else none

/-- The parts of a text before a position and from it on. -/
def cut? (n : Nat) : List Char → Option (List Char × List Char)
  | [] => if n = 0 then some ([], []) else none
  | x :: xs =>
    if n = 0 then some ([], x :: xs)
    else if width x ≤ n then
      (cut? (n - width x) xs).map fun (before, after) => (x :: before, after)
    else none

/-- The part of a text between two positions. -/
def slice? (start stop : Nat) (cs : List Char) : Option (List Char) :=
  if start ≤ stop then do
    let (before, _) ← cut? stop cs
    let (_, part) ← cut? start before
    return part
  else none

end ProfilingTargets.Position
