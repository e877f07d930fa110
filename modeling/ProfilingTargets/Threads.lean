import ProfilingTargets.Text.Blank
import ProfilingTargets.Text.Numeral
import ProfilingTargets.Text.Position

/-!
# Threads

The threads of a process as the kernel describes them, one line of text each: the
number, the name in parentheses, and the state. The name may hold anything, so it
goes from the first `(` to the last `)` of the line.
-/

namespace ProfilingTargets

/-- A thread of the process. -/
structure Thread where
  /-- Its number. -/
  tid : UInt32
  /-- Its name. -/
  name : List Char
  /-- What it is doing. -/
  state : Char
  deriving DecidableEq, Repr

namespace Thread

/-- What stands before and after the last `c` of a text. -/
def splitLast? (c : Char) : List Char → Option (List Char × List Char)
  | [] => none
  | x :: xs =>
    match splitLast? c xs with
    | some (before, after) => some (x :: before, after)
    | none => if x = c then some ([], xs) else none

/-- Reads the kernel's line of a thread. -/
def read? (line : List Char) : Option Thread :=
  match line.span (· ≠ '(') with
  | (_, []) => none
  | (front, _ :: rest) =>
    match splitLast? ')' rest with
    | none => none
    | some (name, tail) =>
      match Numeral.read? UInt32.size (Blank.trim front), tail.find? (!Blank.isBlank ·) with
      | some tid, some state => some ⟨UInt32.ofNat tid, name, state⟩
      | _, _ => none

/-- Reads the kernel's line by byte positions: the name is cut out between the first `(` and
the last `)`, each found on its own. There is no value at all if a cut breaks off. -/
def readCut? (line : List Char) : Option (Option Thread) :=
  match Position.first? '(' line, Position.last? ')' line with
  | some opening, some closing =>
    if closing < opening then some none
    else do
      let (front, _) ← Position.cut? opening line
      let name ← Position.slice? (opening + 1) closing line
      let (_, tail) ← Position.cut? (closing + 1) line
      return do
        let tid ← Numeral.read? UInt32.size (Blank.trim front)
        let state ← tail.find? (!Blank.isBlank ·)
        return ⟨UInt32.ofNat tid, name, state⟩
  | _, _ => some none

/-- A thread's line of a dump. -/
def line (t : Thread) : List Char :=
  Numeral.writeRight 8 t.tid.toNat ++ [' ', t.state, ' '] ++ t.name ++ ['\n']

/-- The dump of some threads: how many, an empty line, and a line for each. -/
def dump (threads : List Thread) : List Char :=
  "threads: ".toList ++ Numeral.write threads.length ++ ['\n', '\n'] ++ threads.flatMap line

/-- The threads of a process, by number. An entry of the kernel's directory may be gone
when it is read, and one that cannot be read is no thread. -/
def list (entries : List (Option (List Char))) : List Thread :=
  (entries.filterMap (·.bind read?)).mergeSort fun a b => a.tid ≤ b.tid

end Thread

end ProfilingTargets
