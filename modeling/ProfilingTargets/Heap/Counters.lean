import ProfilingTargets.Text.Numeral

/-!
# Heap counters

Six counters of what goes through an allocator, and their text report.

An allocation updates four counters and a release three, each in one atomic step.
`Step` names the steps, so that the steps of several threads can be interleaved; the
last step of an allocation raises the peak to what the live bytes were right after
the thread's own addition (`Step.raisePeak`). Totals are 64-bit words and wrap.
-/

namespace ProfilingTargets.Heap

/-- The counters. -/
structure Counters where
  /-- Bytes of the live blocks. -/
  liveBytes : Int64 := 0
  /-- The most that `liveBytes` has been. -/
  peakLiveBytes : Int64 := 0
  /-- Successful allocations, those of a changed block included. -/
  totalAllocs : UInt64 := 0
  /-- Releases, those of a changed block included. -/
  totalFrees : UInt64 := 0
  /-- Bytes of all allocations. -/
  totalAllocBytes : UInt64 := 0
  /-- Bytes of all releases. -/
  totalFreeBytes : UInt64 := 0
  deriving DecidableEq, Repr

/-- An atomic step on one counter. -/
inductive Step where
  /-- One allocation more. -/
  | countAlloc
  /-- The bytes of an allocation, in the total. -/
  | addAllocBytes (size : UInt64)
  /-- The bytes of an allocation, among the live ones. -/
  | addLive (size : UInt64)
  /-- The peak is at least this. -/
  | raisePeak (live : Int64)
  /-- One release more. -/
  | countFree
  /-- The bytes of a release, in the total. -/
  | addFreeBytes (size : UInt64)
  /-- The bytes of a release, among the live ones. -/
  | subtractLive (size : UInt64)
  deriving DecidableEq, Repr

namespace Counters

/-- The counters after a step. -/
def apply (c : Counters) : Step → Counters
  | .countAlloc => { c with totalAllocs := c.totalAllocs + 1 }
  | .addAllocBytes size => { c with totalAllocBytes := c.totalAllocBytes + size }
  | .addLive size => { c with liveBytes := c.liveBytes + size.toInt64 }
  | .raisePeak live =>
    { c with peakLiveBytes := if c.peakLiveBytes < live then live else c.peakLiveBytes }
  | .countFree => { c with totalFrees := c.totalFrees + 1 }
  | .addFreeBytes size => { c with totalFreeBytes := c.totalFreeBytes + size }
  | .subtractLive size => { c with liveBytes := c.liveBytes - size.toInt64 }

/-- An allocation that no other thread's step comes between. -/
def recordAlloc (c : Counters) (size : UInt64) : Counters :=
  let c := ((c.apply .countAlloc).apply (.addAllocBytes size)).apply (.addLive size)
  c.apply (.raisePeak c.liveBytes)

/-- A release that no other thread's step comes between. -/
def recordFree (c : Counters) (size : UInt64) : Counters :=
  ((c.apply .countFree).apply (.addFreeBytes size)).apply (.subtractLive size)

/-- Allocations not yet released; none if there are more releases. -/
def liveAllocs (c : Counters) : Nat := c.totalAllocs.toNat - c.totalFrees.toNat

/-- Whether anything has been allocated. -/
def isTracking (c : Counters) : Bool := 0 < c.totalAllocs

/-- The line that a report of unused counters has. -/
def notInstalled : List Char := "# allocation tracking is not installed".toList

/-- The lines of a report that name a counter, as key and value. -/
def entries (c : Counters) : List (List Char × List Char) := [
  ("live_bytes".toList, Numeral.writeInt c.liveBytes.toInt),
  ("peak_live_bytes".toList, Numeral.writeInt c.peakLiveBytes.toInt),
  ("live_allocs".toList, Numeral.write c.liveAllocs),
  ("total_allocs".toList, Numeral.write c.totalAllocs.toNat),
  ("total_frees".toList, Numeral.write c.totalFrees.toNat),
  ("total_alloc_bytes".toList, Numeral.write c.totalAllocBytes.toNat),
  ("total_free_bytes".toList, Numeral.write c.totalFreeBytes.toNat)]

/-- A line of a report. -/
def entryLine (entry : List Char × List Char) : List Char :=
  entry.1 ++ ": ".toList ++ entry.2 ++ ['\n']

/-- The report of the counters at a moment: when it was made, whether the counters are
in use, and one line for each counter. -/
def report (c : Counters) (moment : List Char) : List Char :=
  "heap profile: generated ".toList ++ moment ++ ['\n'] ++
    (if c.totalAllocs = 0 then notInstalled ++ ['\n'] else []) ++
    c.entries.flatMap entryLine

end Counters

end ProfilingTargets.Heap
