import ProfilingTargets.Text.Numeral
import ProfilingTargets.Text.Split

/-!
# IP addresses

The numbers of hosts, of the fourth version of the protocol (32 bits) and of the sixth
(eight groups of 16 bits), and their texts.

## The model

An address of the fourth version is read as one to four numbers between points, each
decimal, octal after `0`, or hexadecimal after `0x`: all but the last are bytes, and the
last one fills the bytes that are left. It is written as four decimal bytes.

An address of the sixth version is read as eight groups of up to four hexadecimal digits
between colons. Two colons stand for as many groups of zeros as are missing, and the last
two groups may be written as four decimal bytes, without needless zeros. When it is
written, two colons stand for the longest run of at least two zeros, the first of equally
long ones.
-/

namespace ProfilingTargets

/-- The number of a host. -/
inductive IpAddress where
  /-- Of the fourth version. -/
  | v4 (number : UInt32)
  /-- Of the sixth version, with its eight groups. -/
  | v6 (groups : List UInt16)
  deriving DecidableEq, Repr

namespace IpAddress

/-- The machine itself. -/
def loopback : IpAddress := .v4 0x7F000001

/-- Any host of the machine. -/
def wildcard : IpAddress := .v4 0

/-- Any host of the machine, in the sixth version. -/
def wildcard6 : IpAddress := .v6 (List.replicate 8 0)

/-- The machine itself, in the sixth version. -/
def loopback6 : IpAddress := .v6 (List.replicate 7 0 ++ [1])

/-! ### The fourth version -/

/-- The four bytes of a number. -/
def quad (number : UInt32) : List Nat :=
  let n := number.toNat
  [n / 16777216, n / 65536 % 256, n / 256 % 256, n % 256]

/-- Four decimal bytes. -/
def quadText (number : UInt32) : String :=
  ".".intercalate ((quad number).map fun n => String.ofList (Numeral.write n))

/-- One of the numbers between points. -/
def number? : List Char → Option Nat
  | '0' :: 'x' :: digits | '0' :: 'X' :: digits => Numeral.readBase? 16 digits
  | '0' :: digits => if digits.isEmpty then some 0 else Numeral.readBase? 8 digits
  | digits => Numeral.readBase? 10 digits

/-- The number that numbers between points make, so many bytes being left. -/
def assemble : Nat → List Nat → Option Nat
  | left + 1, [last] => if last < Nat.pow 256 (left + 1) then some last else none
  | left + 1, n :: ns =>
    if n < 256 then (assemble left ns).map (n * Nat.pow 256 left + ·) else none
  | _, _ => none

/-- Reads an address of the fourth version. -/
def readV4? (cs : List Char) : Option UInt32 :=
  (((Split.splitOn '.' cs).mapM number?).bind (assemble 4)).map UInt32.ofNat

/-- Reads four decimal bytes without needless zeros. -/
def readQuad? (cs : List Char) : Option UInt32 :=
  (readV4? cs).filter fun number => (quadText number).toList = cs

/-! ### The sixth version -/

/-- Groups of hexadecimal digits between colons. -/
def groupsText (groups : List UInt16) : String :=
  ":".intercalate (groups.map fun g => String.ofList (Nat.toDigits 16 g.toNat))

/-- How many zeros there are from a position on. -/
def zerosFrom (groups : List UInt16) (i : Nat) : Nat :=
  ((groups.drop i).takeWhile (· == 0)).length

/-- Where the longest run of zeros begins, the first of equally long ones. -/
def longestZeros (groups : List UInt16) : Nat :=
  (List.range groups.length).foldl
    (fun best i => if zerosFrom groups best < zerosFrom groups i then i else best) 0

/-- The address of the fourth version that an address of the sixth stands for, if it
begins with five groups of zeros and one of ones. -/
def mapped? : List UInt16 → Option UInt32
  | [0, 0, 0, 0, 0, 0xFFFF, high, low] => some (high.toUInt32 * 65536 + low.toUInt32)
  | _ => none

/-- The text of an address of the sixth version. -/
def v6Text (groups : List UInt16) : String :=
  match mapped? groups with
  | some number => "::ffff:" ++ quadText number
  | none =>
    let start := longestZeros groups
    let zeros := zerosFrom groups start
    if 2 ≤ zeros then
      groupsText (groups.take start) ++ "::" ++ groupsText (groups.drop (start + zeros))
    else groupsText groups

/-- A group of hexadecimal digits. -/
def group? (cs : List Char) : Option UInt16 :=
  if cs.length ≤ 4 then (Numeral.readBase? 16 cs).map UInt16.ofNat else none

/-- The groups between colons, the last of which may be four decimal bytes. -/
def groups? (cs : List Char) : Option (List UInt16) :=
  if cs.isEmpty then some []
  else
    let pieces := Split.splitOn ':' cs
    match pieces.getLast?.bind readQuad? with
    | some number => do
      let groups ← pieces.dropLast.mapM group?
      return groups ++ [(number >>> 16).toUInt16, number.toUInt16]
    | none => pieces.mapM group?

/-- What stands before the first two colons and after them. -/
def splitGap : List Char → Option (List Char × List Char)
  | ':' :: ':' :: rest => some ([], rest)
  | c :: rest => (splitGap rest).map fun (before, after) => (c :: before, after)
  | [] => none

/-- Reads an address of the sixth version. -/
def readV6? (cs : List Char) : Option (List UInt16) :=
  match splitGap cs with
  | none => (groups? cs).filter (·.length = 8)
  | some (before, after) => do
    let first ← if before.isEmpty then some [] else (Split.splitOn ':' before).mapM group?
    let last ← groups? after
    if first.length + last.length < 8 then
      some (first ++ List.replicate (8 - first.length - last.length) 0 ++ last)
    else none

/-- Whether an address of the sixth version is known on one link only. -/
def isLinkLocal (groups : List UInt16) : Bool :=
  groups.head?.any fun g => g &&& 0xFFC0 == 0xFE80

/-- Whether an address of the sixth version stands for a group of hosts. -/
def isMulticast (groups : List UInt16) : Bool :=
  groups.head?.any fun g => g &&& 0xFF00 == 0xFF00

/-- Whether an address of the sixth version means something only beside an interface: it
is link-local, or a group on one interface or one link. -/
def needsInterface (groups : List UInt16) : Bool :=
  isLinkLocal groups || groups.head?.any fun g => g &&& 0xFF0F == 0xFF01 || g &&& 0xFF0F == 0xFF02

/-! ### Both versions -/

/-- The text of an address. -/
def text : IpAddress → String
  | .v4 number => quadText number
  | .v6 groups => v6Text groups

/-- The same host in the fourth version, if it has a number there. -/
def plain : IpAddress → IpAddress
  | .v4 number => .v4 number
  | .v6 groups => ((mapped? groups).map .v4).getD (.v6 groups)

/-- Whether an address stands for all hosts of the machine. -/
def isWildcard (a : IpAddress) : Bool := a.plain == wildcard || a == wildcard6

/-- Whether a server on one of two addresses is in the way of a server on the other, if
their ports are the same. -/
def overlaps (a b : IpAddress) : Bool :=
  a.isWildcard || b.isWildcard || a.plain == b.plain

end IpAddress

end ProfilingTargets
