import ProfilingTargets.Text.Numeral

/-!
# Durations

Spans of time in nanoseconds, and their two texts: one number with a unit
(`12.345ms`), and words for people (`1m 2s 3ms`).
-/

namespace ProfilingTargets

/-- A span of time. -/
structure Duration where
  /-- How many nanoseconds it lasts. -/
  nanos : Nat
  deriving DecidableEq, Repr

namespace Duration

/-- A number of microseconds. -/
def ofMicros (n : Nat) : Duration := ⟨1000 * n⟩

/-- A number of milliseconds. -/
def ofMillis (n : Nat) : Duration := ⟨1000000 * n⟩

/-- A number of seconds. -/
def ofSeconds (n : Nat) : Duration := ⟨1000000000 * n⟩

/-- The whole seconds. -/
def seconds (d : Duration) : Nat := d.nanos / 1000000000

/-- The whole microseconds. -/
def micros (d : Duration) : Nat := d.nanos / 1000

/-- The whole milliseconds. -/
def millis (d : Duration) : Nat := d.nanos / 1000000

/-- A number of units of `10 ^ places` nanoseconds, as a decimal fraction without
trailing zeros. -/
def inUnit (places nanos : Nat) : List Char :=
  let size := Nat.pow 10 places
  let fraction := Numeral.writePadded places (nanos % size)
  let fraction := ((fraction.reverse).dropWhile (· = '0')).reverse
  Numeral.write (nanos / size) ++
    if fraction.isEmpty then [] else '.' :: fraction

/-- The greatest unit of which there is at least one, out of seconds, milli-, micro-
and nanoseconds. -/
def text (d : Duration) : String :=
  if d.seconds > 0 then String.ofList (inUnit 9 d.nanos) ++ "s"
  else if d.millis > 0 then String.ofList (inUnit 6 d.nanos) ++ "ms"
  else if d.micros > 0 then String.ofList (inUnit 3 d.nanos) ++ "µs"
  else String.ofList (Numeral.write d.nanos) ++ "ns"

/-- The units of `words`, greatest first, in nanoseconds; a unit has a plural if its
name is a whole word. A year has 365.25 days and a month a twelfth of it. -/
def wordUnits : List (String × Bool × Nat) := [
  ("year", true, 31557600000000000), ("month", true, 2630016000000000),
  ("day", true, 86400000000000), ("h", false, 3600000000000), ("m", false, 60000000000),
  ("s", false, 1000000000), ("ms", false, 1000000), ("us", false, 1000), ("ns", false, 1)]

/-- The counts of units that make up a span, those that are not zero. -/
def wordsFrom : List (String × Bool × Nat) → Nat → List String
  | [], _ => []
  | (name, plural, size) :: units, nanos =>
    let count := nanos / size
    let rest := wordsFrom units (nanos % size)
    if count = 0 then rest
    else
      (String.ofList (Numeral.write count) ++ name ++
        (if plural && count > 1 then "s" else "")) :: rest

/-- A span in words, such as `1h 2m 3s`; `0s` for none. -/
def words (d : Duration) : String :=
  if d.nanos = 0 then "0s" else " ".intercalate (wordsFrom wordUnits d.nanos)

end Duration

end ProfilingTargets
