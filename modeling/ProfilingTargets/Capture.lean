import ProfilingTargets.Recording

/-!
# Captures

A profile that is handed to whoever asked for it. The sampler runs for a while and the
profile is made while it still does; nothing is written to a file. A capture has two
moments, its `begin` and its `complete`, between which other parts of the process go
on; `run` is a capture that nothing comes in between.
-/

namespace ProfilingTargets

/-- A capture that is asked for. -/
structure Capture where
  /-- What is handed out. -/
  format : ProfileFormat
  /-- For how long to sample. -/
  duration : Duration
  /-- Samples per second. -/
  frequency : Int32 := Sampler.defaultFrequency
  deriving DecidableEq, Repr

/-- What a capture hands out. -/
structure Captured where
  /-- The profile. -/
  profile : Profile
  /-- The form in which it is handed out. -/
  format : ProfileFormat
  deriving DecidableEq, Repr

/-- The bytes that are handed out. -/
def Captured.bytes (c : Captured) : Bytes := c.profile.render c.format

namespace Capture

/-- The event of a capture's start. -/
def started (c : Capture) : Log.Event where
  level := .debug
  speaker := .profiles
  message := "cpu capture started"
  fields := [("duration", .text c.duration.text), ("frequency", .number c.frequency.toInt)]

/-- Starts sampling for a capture. -/
def begin (c : Capture) (s : Sampler) : Except Failure Unit × List Log.Event × Sampler :=
  match s.start c.frequency with
  | (.error failure, s) => (.error failure, [Sampler.starting], s)
  | (.ok (), s) => (.ok (), [Sampler.starting, c.started], s)

/-- Makes the profile of a capture and stops sampling. -/
def complete (o : Outside) (c : Capture) (s : Sampler) :
    Except Error Captured × List Log.Event × Sampler :=
  match o.unreported with
  | some e => (.error (.profiler e), [Sampler.stopping], s.stop)
  | none =>
    (.ok ⟨⟨c.frequency, o.now - o.sampled.nanos, o.sampled, o.seen⟩, c.format⟩,
      [Sampler.stopping], s.stop)

/-- A whole capture. -/
def run (o : Outside) (c : Capture) (s : Sampler) :
    Except Failure Captured × List Log.Event × Sampler :=
  match c.begin s with
  | (.error failure, events, s) => (.error failure, events, s)
  | (.ok (), events, s) =>
    let (result, more, s) := c.complete o s
    (result.mapError .error, events ++ more, s)

end Capture

end ProfilingTargets
