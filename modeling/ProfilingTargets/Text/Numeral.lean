/-!
# Numerals

Numbers in queries, addresses and stat lines are read by one rule: an optional
`+`, then ASCII digits and nothing else, for a number below a bound. Numbers are
written with the fewest digits. Hosts and escapes have numbers in other bases, too.
-/

namespace ProfilingTargets.Numeral

/-- The value of a decimal digit. -/
def digitValue (c : Char) : Nat := c.toNat - '0'.toNat

/-- The number that digits stand for. -/
def value (digits : List Char) : Nat :=
  digits.foldl (fun n c => 10 * n + digitValue c) 0

/-- Digits alone, at least one of them. -/
def isDigits (cs : List Char) : Bool := !cs.isEmpty && cs.all Char.isDigit

/-- Reads a number below `bound`: an optional `+`, then digits. -/
def read? (bound : Nat) (cs : List Char) : Option Nat :=
  let digits := match cs with
    | '+' :: rest => rest
    | _ => cs
  if isDigits digits && value digits < bound then some (value digits) else none

/-- The value of a hexadecimal digit, of either case. -/
def hexDigit? (c : Char) : Option Nat :=
  if '0' ≤ c ∧ c ≤ '9' then some (c.toNat - '0'.toNat)
  else if 'a' ≤ c ∧ c ≤ 'f' then some (c.toNat - 'a'.toNat + 10)
  else if 'A' ≤ c ∧ c ≤ 'F' then some (c.toNat - 'A'.toNat + 10)
  else none

/-- The value of a digit of a base up to 16. -/
def digit? (base : Nat) (c : Char) : Option Nat := (hexDigit? c).filter (· < base)

/-- Reads digits of a base up to 16, at least one, and nothing else. -/
def readBase? (base : Nat) (cs : List Char) : Option Nat :=
  if cs.isEmpty then none
  else (cs.mapM (digit? base)).map (·.foldl (fun n d => base * n + d) 0)

/-- The characters after a sign, if there is one. -/
def unsigned : List Char → List Char
  | '+' :: rest | '-' :: rest => rest
  | cs => cs

/-- Whether a text is the exponent of a real number, or nothing. -/
def isExponent : List Char → Bool
  | [] => true
  | c :: rest => (c == 'e' || c == 'E') && isDigits (unsigned rest)

/-- Whether a text is a real number: digits before or after a point or both, perhaps an
exponent, or a name for what is no finite number; and perhaps a sign in front. -/
def isReal (cs : List Char) : Bool :=
  let cs := unsigned cs
  let whole := cs.takeWhile Char.isDigit
  let (fraction, rest) := match cs.drop whole.length with
    | '.' :: rest => (rest.takeWhile Char.isDigit, rest.dropWhile Char.isDigit)
    | rest => ([], rest)
  (!(whole.isEmpty && fraction.isEmpty) && isExponent rest) ||
    ["inf", "infinity", "nan"].contains (String.ofList (cs.map Char.toLower))

/-- The digits of a number, the first not `0` unless it stands alone. -/
def write (n : Nat) : List Char := Nat.toDigits 10 n

/-- The digits of an integer, after a `-` if it is negative. -/
def writeInt (z : Int) : List Char :=
  if z < 0 then '-' :: write z.natAbs else write z.natAbs

/-- A number in a column of `width` characters, at the right; a longer one is
written whole. -/
def writeRight (width n : Nat) : List Char :=
  List.replicate (width - (write n).length) ' ' ++ write n

/-- A number with zeros in front, up to `width` digits. -/
def writePadded (width n : Nat) : List Char :=
  List.replicate (width - (write n).length) '0' ++ write n

end ProfilingTargets.Numeral
