import ProfilingTargets.Duration
import ProfilingTargets.Error
import ProfilingTargets.Log.Event
import ProfilingTargets.Workload

/-!
# The leaky worker

A worker that does rounds of busy work and appends a text to a sequence in each,
never trimming it. At every iteration whose number is a multiple of `throttleEvery`
it pauses.

A worker exists only for a plan whose `throttleEvery` is not zero, so that a run
never divides by zero; the plan alone can still be asked how often it would pause,
and then may break off.
-/

namespace ProfilingTargets.Leak

/-- What to do. -/
structure Plan where
  /-- Iterations of a run. -/
  iterations : UInt64 := 10000000
  /-- Empty texts that the sequence starts with. -/
  initialSlots : UInt64 := 3
  /-- Pause at the multiples of this. -/
  throttleEvery : UInt64 := 100000
  /-- How long a pause is. -/
  pause : Duration := .ofMillis 50
  /-- Multiplications of each call. -/
  multiplies : UInt32 := Workload.defaultMultiplies
  /-- What is appended. -/
  payload : String := "magical pandas"
  deriving DecidableEq, Repr

namespace Plan

/-- Refuses a plan that would divide by zero. -/
def validate (plan : Plan) : Except ArgumentError Unit :=
  if plan.throttleEvery = 0 then .error .zeroThrottle else .ok ()

/-- How many iterations of a run pause: the quotient, rounded up. -/
def expectedPauses (plan : Plan) : Except Panic Nat :=
  let every := plan.throttleEvery.toNat
  if every = 0 then .error .divideByZero
  else .ok ((plan.iterations.toNat + every - 1) / every)

end Plan

/-- The bytes of one text of the sequence, its characters apart. -/
def slotBytes : Nat := 24

/-- More bytes than this are no memory at all. -/
def greatestAllocation : Nat := UInt64.size / 2 - 1

/-- A worker and what it has leaked. -/
structure Worker where
  /-- What it does. -/
  plan : Plan
  /-- It can tell when to pause. -/
  throttled : plan.throttleEvery ≠ 0
  /-- What it has leaked. -/
  sequence : Array String

/-- What a run did. -/
structure Stats where
  /-- Iterations. -/
  iterations : UInt64
  /-- Length of the sequence after the run. -/
  len : Nat
  /-- Pauses. -/
  pauses : Nat
  /-- Calls of subroutines. -/
  calls : UInt64
  /-- Time spent in pauses. -/
  paused : Duration
  deriving DecidableEq, Repr

namespace Worker

/-- A worker for a plan. The plan is checked before anything is allocated. -/
def new (plan : Plan) : Except Failure Worker :=
  if throttled : plan.throttleEvery = 0 then .error (.error (.invalidArgument .zeroThrottle))
  else if plan.initialSlots.toNat * slotBytes > greatestAllocation then
    .error (.panic .capacityOverflow)
  else .ok ⟨plan, throttled, Array.replicate plan.initialSlots.toNat ""⟩

/-- The event of a pause. -/
def pausing (iteration len : Nat) : Log.Event where
  level := .debug
  speaker := .worker
  message := "worker pausing"
  fields := [("iteration", .number iteration), ("len", .number len)]

/-- What a run does that its worker is not changed by. -/
inductive Effect where
  /-- It says something. -/
  | log (event : Log.Event)
  /-- It sleeps. -/
  | sleep (time : Duration)

/-- What is said. -/
def Effect.event? : Effect → Option Log.Event
  | .log event => some event
  | .sleep _ => none

/-- The nanoseconds that are slept. -/
def Effect.nanos : Effect → Nat
  | .log _ => 0
  | .sleep time => time.nanos

/-- Where a run stands. -/
structure Progress where
  /-- What is leaked so far. -/
  sequence : Array String
  /-- The busy work so far. -/
  work : Workload
  /-- The pauses so far. -/
  pauses : Nat := 0
  /-- What has been said and slept so far, the latest first. -/
  effects : List Effect := []

/-- Iteration number `i`. -/
def iterate (plan : Plan) (i : Nat) (p : Progress) : Progress :=
  let next := { p with sequence := p.sequence.push plan.payload, work := p.work.round }
  if i % plan.throttleEvery.toNat = 0 then
    { next with
      pauses := p.pauses + 1
      effects := .sleep plan.pause :: .log (pausing i next.sequence.size) :: p.effects }
  else next

/-- The iterations from number `i` on, `left` of them. -/
def iterations (plan : Plan) : (left i : Nat) → Progress → Progress
  | 0, _, p => p
  | left + 1, i, p => iterations plan left (i + 1) (iterate plan i p)

/-- Where a run of the whole plan ends. -/
def progress (w : Worker) : Progress :=
  iterations w.plan w.plan.iterations.toNat 0
    { sequence := w.sequence, work := { multiplies := w.plan.multiplies } }

/-- One run of the whole plan: what it did, its events, and the worker after it. -/
def run (w : Worker) : Stats × List Log.Event × Worker :=
  let p := w.progress
  let effects := p.effects.reverse
  ({ iterations := w.plan.iterations
     len := p.sequence.size
     pauses := p.pauses
     calls := p.work.calls
     paused := ⟨(effects.map Effect.nanos).foldl (· + ·) 0⟩ },
   effects.filterMap Effect.event?, { w with sequence := p.sequence })

end Worker

end ProfilingTargets.Leak
