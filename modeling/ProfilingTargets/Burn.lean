import ProfilingTargets.Workload

/-!
# Burning

Rounds of busy work until a planned number is done or a flag is cleared. The flag
belongs to the outside world, which may clear it at any moment: a run is given the
value that each look at the flag finds.

A run is a loop with a head, which looks at the flag if the plan is not done, and a
body, which does a round. It keeps what it has done on the way, so that the looks and
the rounds can be told in their order.
-/

namespace ProfilingTargets.Burn

/-- What to burn. -/
structure Plan where
  /-- Rounds. -/
  iterations : UInt64 := 10000
  /-- Multiplications of each call. -/
  multiplies : UInt32 := Workload.defaultMultiplies
  deriving DecidableEq, Repr

/-- What was burned. -/
structure Stats where
  /-- Rounds. -/
  iterations : Nat
  /-- Calls of subroutines. -/
  calls : UInt64
  deriving DecidableEq, Repr

/-- What a run does. -/
inductive Act where
  /-- It looks at the flag, and finds it like this. -/
  | look (found : Bool)
  /-- It does a round. -/
  | round
  deriving DecidableEq, Repr

/-- What a look finds. -/
def Act.found? : Act → Option Bool
  | .look found => some found
  | .round => none

/-- Where a run stands. -/
structure Progress where
  /-- Rounds so far. -/
  done : UInt64 := 0
  /-- The busy work so far. -/
  work : Workload
  /-- What has been done so far, the latest first. -/
  acts : List Act := []
  deriving DecidableEq, Repr

/-- Where the run of a plan begins. -/
def Progress.start (plan : Plan) : Progress := { work := { multiplies := plan.multiplies } }

/-- The body of the loop. -/
def Progress.round (p : Progress) : Progress where
  done := p.done + 1
  work := p.work.round
  acts := .round :: p.acts

/-- The head of the loop: whether a round is to be done. The look before round number `i`
is number `i` of `running`. -/
def head (plan : Plan) (running : Nat → Bool) (p : Progress) : Bool × Progress :=
  if p.done < plan.iterations then
    let found := running p.done.toNat
    (found, { p with acts := .look found :: p.acts })
  else (false, p)

/-- The loop, for up to `left` more rounds. -/
def loop (plan : Plan) (running : Nat → Bool) : (left : Nat) → Progress → Progress
  | 0, p => p
  | left + 1, p =>
    match head plan running p with
    | (true, p) => loop plan running left p.round
    | (false, p) => p

/-- Where the run of a plan ends. -/
def progress (plan : Plan) (running : Nat → Bool) : Progress :=
  loop plan running plan.iterations.toNat (.start plan)

/-- Burns a plan, the flag being found as `running` says. -/
def run (plan : Plan) (running : Nat → Bool) : Stats :=
  let p := progress plan running
  ⟨p.done.toNat, p.work.calls⟩

end ProfilingTargets.Burn
