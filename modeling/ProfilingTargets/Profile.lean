import ProfilingTargets.Duration
import ProfilingTargets.Text.Utf8

/-!
# Profiles

What the sampler has seen, as a value and as bytes in the pprof format (protocol
buffers). The samples are the machine's own affair (`Samples`) and are taken as they
come; what is sampled, how often, and when, is written here.

The texts of a profile stand in one table, the empty text first; other fields point
into it. A number is written seven bits to a byte, the lowest first; a field whose
number is zero is left out.
-/

namespace ProfilingTargets

/-- The two forms in which a profile is handed out. -/
inductive ProfileFormat where
  /-- The profile itself. -/
  | pprof
  /-- A drawing of it. -/
  | flamegraph
  deriving DecidableEq, Repr

namespace ProfileFormat

/-- The content type of a form. -/
def contentType : ProfileFormat → String
  | .pprof => "application/octet-stream"
  | .flamegraph => "image/svg+xml"

/-- The name of a form in events. -/
def name : ProfileFormat → String
  | .pprof => "Pprof"
  | .flamegraph => "Flamegraph"

end ProfileFormat

/-- What a column of samples holds. -/
structure ValueType where
  /-- What is counted. -/
  kind : String
  /-- In which unit. -/
  unit : String
  deriving DecidableEq, Repr

/-- What the machine tells of its samples; nothing, if it took none. -/
structure Samples where
  /-- The fields with the samples, and with the places and functions that they name. -/
  fields : Bytes := []
  /-- The texts that those point to. -/
  texts : List String := []
  /-- Their drawing. -/
  drawing : Bytes := []
  deriving DecidableEq, Repr

/-- A profile. -/
structure Profile where
  /-- Samples per second that were asked for. -/
  frequency : Int32
  /-- When sampling began, in nanoseconds since 1970. -/
  start : Nat
  /-- How long it went on. -/
  duration : Duration
  /-- What was seen. -/
  samples : Samples := {}
  deriving DecidableEq, Repr

namespace Profile

/-- The columns of the samples. -/
def sampleTypes : List ValueType := [⟨"samples", "count"⟩, ⟨"cpu", "nanoseconds"⟩]

/-- What lies between two samples. -/
def periodType : ValueType := ⟨"cpu", "nanoseconds"⟩

/-- Nanoseconds between two samples: those of a second over the frequency, toward zero. -/
def period (p : Profile) : Int := Int.tdiv 1000000000 p.frequency.toInt

/-- The texts of every profile. -/
def strings : List String := ["", "count", "cpu", "nanoseconds", "samples", "thread"]

/-- Seven bits to a byte, the lowest first, for a number of at most `7 * bytes` bits. -/
def varint : (bytes : Nat) → Nat → Bytes
  | 0, _ => []
  | bytes + 1, n =>
    if n < 128 then [UInt8.ofNat n] else UInt8.ofNat (n % 128 + 128) :: varint bytes (n / 128)

/-- A number of 64 bits, negative ones in two's complement. -/
def number (z : Int) : Bytes := varint 10 (z % (UInt64.size : Int)).toNat

/-- A field with a number, left out if it is zero. -/
def numberField (field : Nat) (z : Int) : Bytes :=
  if z = 0 then [] else varint 10 (8 * field) ++ number z

/-- A field with bytes. -/
def bytesField (field : Nat) (bytes : Bytes) : Bytes :=
  varint 10 (8 * field + 2) ++ varint 10 bytes.length ++ bytes

/-- The bytes of a column: where its texts stand in the table. -/
def encodeValueType (v : ValueType) : Bytes :=
  numberField 1 (strings.idxOf v.kind) ++ numberField 2 (strings.idxOf v.unit)

/-- The bytes of a profile. -/
def encode (p : Profile) : Bytes :=
  sampleTypes.flatMap (fun v => bytesField 1 (encodeValueType v)) ++ p.samples.fields ++
    (strings ++ p.samples.texts).flatMap (fun s => bytesField 6 (Utf8.encode s.toList)) ++
    numberField 9 p.start ++ numberField 10 p.duration.nanos ++
    bytesField 11 (encodeValueType periodType) ++ numberField 12 p.period

/-- The bytes in which a profile is handed out. -/
def render (p : Profile) : ProfileFormat → Bytes
  | .pprof => p.encode
  | .flamegraph => p.samples.drawing

end Profile

end ProfilingTargets
