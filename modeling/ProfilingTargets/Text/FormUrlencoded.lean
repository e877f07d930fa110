import ProfilingTargets.Text.Split
import ProfilingTargets.Text.Utf8

/-!
# Form-urlencoded text

A query is read as `application/x-www-form-urlencoded`: pieces between ampersands,
each a key and a value around its first `=`. In both, `+` is a space and `%` with
two hexadecimal digits a byte; a `%` without them stands for itself. The bytes are
UTF-8, mended where ill-formed. Empty pieces are no pairs, and a piece without `=`
is a key with the empty value.
-/

namespace ProfilingTargets.FormUrlencoded

/-- The value of a hexadecimal digit, of either case. -/
def hexValue? (b : UInt8) : Option UInt8 :=
  if 0x30 ≤ b ∧ b ≤ 0x39 then some (b - 0x30)
  else if 0x61 ≤ b ∧ b ≤ 0x66 then some (b - 0x61 + 10)
  else if 0x41 ≤ b ∧ b ≤ 0x46 then some (b - 0x41 + 10)
  else none

/-- Takes the percent signs out. -/
def percentDecode : Bytes → Bytes
  | b :: high :: low :: rest =>
    if b = 0x25 then
      match hexValue? high, hexValue? low with
      | some h, some l => (16 * h + l) :: percentDecode rest
      | _, _ => b :: percentDecode (high :: low :: rest)
    else b :: percentDecode (high :: low :: rest)
  | bs => bs

/-- The text of a key or a value. -/
def decodePart (bs : Bytes) : List Char :=
  Utf8.decodeLossy (percentDecode (bs.map fun b => if b = 0x2B then 0x20 else b))

/-- The pair of a piece. -/
def decodePair (piece : Bytes) : List Char × List Char :=
  let (key, value) := Split.splitFirst 0x3D piece
  (decodePart key, decodePart value)

/-- The pairs of a query, in order. -/
def decode (query : Bytes) : List (List Char × List Char) :=
  ((Split.splitOn 0x26 query).filter (!·.isEmpty)).map decodePair

end ProfilingTargets.FormUrlencoded
