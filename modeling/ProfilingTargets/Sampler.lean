import ProfilingTargets.Error
import ProfilingTargets.Log.Event

/-!
# The sampler

The process has one sampler, which is running or not. Starting it marks it running
and then divides a second by the frequency; at frequency zero that breaks off, and
nobody is left to stop the sampler. A sampler that is running refuses to start.
-/

namespace ProfilingTargets

/-- The sampler of the process. -/
structure Sampler where
  /-- Whether it is sampling. -/
  running : Bool := false
  deriving DecidableEq, Repr

namespace Sampler

/-- Sampling frequency, in samples per second, unless otherwise asked for. -/
def defaultFrequency : Int32 := 100

/-- What the sampler says when it is asked to start. -/
def starting : Log.Event := ⟨.info, .sampler, "starting cpu profiler", []⟩

/-- What the sampler says when it is asked to stop. -/
def stopping : Log.Event := ⟨.info, .sampler, "stopping cpu profiler", []⟩

/-- Asks the sampler to start: whether it does, and the sampler then. -/
def start (s : Sampler) (frequency : Int32) : Except Failure Unit × Sampler :=
  if s.running then (.error (.error (.profiler .running)), s)
  else if frequency = 0 then (.error (.panic .divideByZero), { running := true })
  else (.ok (), { running := true })

/-- Stops the sampler. -/
def stop (_ : Sampler) : Sampler := { running := false }

end Sampler

end ProfilingTargets
