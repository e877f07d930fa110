/-!
# UTF-8

Arguments and file content reach the programs as bytes. This module reads bytes
as characters and writes characters as bytes.

## The model

Reading goes byte by byte. At each moment either nothing is open, or the first
bytes of a longer character have been read (`Open`), which says how many bytes
are missing and which values the next one may have. A stretch of bytes that
cannot be continued is ill-formed, and the byte that broke it off is read
afresh. `pieces` lists what was read: a character, or `none` for an ill-formed
stretch. Text is then either refused (`decode?`) or mended (`decodeLossy`) where
a stretch is ill-formed.
-/

namespace ProfilingTargets

/-- Bytes as the operating system passes them: an argument, a path, a file's content. -/
abbrev Bytes := List UInt8

namespace Utf8

/-- The bytes of a character. -/
def encodeChar (c : Char) : Bytes :=
  let n := c.toNat
  if n < 0x80 then [UInt8.ofNat n]
  else if n < 0x800 then [UInt8.ofNat (0xC0 + n / 64), UInt8.ofNat (0x80 + n % 64)]
  else if n < 0x10000 then
    [UInt8.ofNat (0xE0 + n / 4096), UInt8.ofNat (0x80 + n / 64 % 64), UInt8.ofNat (0x80 + n % 64)]
  else
    [UInt8.ofNat (0xF0 + n / 262144), UInt8.ofNat (0x80 + n / 4096 % 64),
      UInt8.ofNat (0x80 + n / 64 % 64), UInt8.ofNat (0x80 + n % 64)]

/-- The bytes of a text. -/
def encode (cs : List Char) : Bytes := cs.flatMap encodeChar

/-- The first bytes of a character that has more. -/
structure Open where
  /-- The bits read so far. -/
  value : Nat
  /-- How many bytes are missing after the next one. -/
  after : Nat
  /-- The least value of the next byte. -/
  low : Nat
  /-- The greatest value of the next byte. -/
  high : Nat
  deriving DecidableEq

/-- A byte read with nothing open: what it completes, and what it opens. -/
def first (b : Nat) : List (Option Char) × Option Open :=
  if b < 0x80 then ([some (Char.ofNat b)], none)
  else if 0xC2 ≤ b ∧ b ≤ 0xDF then ([], some ⟨b - 0xC0, 0, 0x80, 0xBF⟩)
  else if b = 0xE0 then ([], some ⟨0, 1, 0xA0, 0xBF⟩)
  else if b = 0xED then ([], some ⟨0xD, 1, 0x80, 0x9F⟩)
  else if 0xE1 ≤ b ∧ b ≤ 0xEF then ([], some ⟨b - 0xE0, 1, 0x80, 0xBF⟩)
  else if b = 0xF0 then ([], some ⟨0, 2, 0x90, 0xBF⟩)
  else if 0xF1 ≤ b ∧ b ≤ 0xF3 then ([], some ⟨b - 0xF0, 2, 0x80, 0xBF⟩)
  else if b = 0xF4 then ([], some ⟨4, 2, 0x80, 0x8F⟩)
  else ([none], none)

/-- A byte read: what it completes, and what is open after it. -/
def step (pending : Option Open) (b : Nat) : List (Option Char) × Option Open :=
  match pending with
  | none => first b
  | some o =>
    if o.low ≤ b ∧ b ≤ o.high then
      let value := o.value * 64 + (b - 0x80)
      match o.after with
      | 0 => ([some (Char.ofNat value)], none)
      | after + 1 => ([], some ⟨value, after, 0x80, 0xBF⟩)
    else
      let (out, pending) := first b
      (none :: out, pending)

/-- What is read from `bs` when `pending` is open: characters, and `none` for each
ill-formed stretch. -/
def piecesFrom (pending : Option Open) : Bytes → List (Option Char)
  | [] => if pending.isSome then [none] else []
  | b :: bs =>
    let (out, pending) := step pending b.toNat
    out ++ piecesFrom pending bs

/-- The characters of `bs`, with `none` for each ill-formed stretch. -/
def pieces (bs : Bytes) : List (Option Char) := piecesFrom none bs

/-- The text of `bs`, if no stretch of it is ill-formed. -/
def decode? (bs : Bytes) : Option (List Char) := (pieces bs).mapM id

/-- The character that stands for an ill-formed stretch. -/
def replacement : Char := '\uFFFD'

/-- The text of `bs`, each ill-formed stretch replaced by one character. -/
def decodeLossy (bs : Bytes) : List Char := (pieces bs).map (·.getD replacement)

end Utf8

end ProfilingTargets
