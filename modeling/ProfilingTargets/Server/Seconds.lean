import ProfilingTargets.Error
import ProfilingTargets.Text.FormUrlencoded
import ProfilingTargets.Text.Numeral

/-!
# The length of a capture

How many seconds a query asks for. Every value of the key `seconds` has to be a
whole number, and the last of them counts; it has to lie in a range. Other keys are
ignored.
-/

namespace ProfilingTargets.Server.Seconds

/-- The seconds of a query that does not say. -/
def default : Nat := 30

/-- The least number of seconds. -/
def least : Nat := 1

/-- The greatest number of seconds. -/
def greatest : Nat := 300

/-- The key. -/
def key : List Char := "seconds".toList

/-- Takes one value: a whole number of 64 bits. -/
def readValue (value : List Char) : Except ArgumentError Nat :=
  match Numeral.read? UInt64.size value with
  | some n => .ok n
  | none => .error (.secondsNotWhole value)

/-- The number that the pairs of a query give, `n` before them. -/
def ofPairs (n : Nat) : List (List Char × List Char) → Except ArgumentError Nat
  | [] => .ok n
  | (k, value) :: pairs =>
    if k = key then
      match readValue value with
      | .ok n => ofPairs n pairs
      | .error e => .error e
    else ofPairs n pairs

/-- Refuses a number that is out of range. -/
def inRange (n : Nat) : Except ArgumentError Nat :=
  if least ≤ n ∧ n ≤ greatest then .ok n else .error (.secondsOutOfRange n least greatest)

/-- The seconds of a query, if there is one. -/
def ofQuery (query? : Option Bytes) : Except ArgumentError Nat :=
  match ofPairs default ((query?.map FormUrlencoded.decode).getD []) with
  | .ok n => inRange n
  | .error e => .error e

end ProfilingTargets.Server.Seconds
