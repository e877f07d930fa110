/-!
# Busy work

Four subroutines that multiply a number again and again, so that a profile has
something to show. `delta` also calls `alpha` and `beta`. A workload counts the
calls; the products are of no use to anybody.

`product` computes what a subroutine's loop computes, `3 ^ (times + 1)` in 64-bit
words, by squaring; `steppedProduct` is the loop.
-/

namespace ProfilingTargets

/-- Busy work to do. -/
structure Workload where
  /-- Multiplications of each call. -/
  multiplies : UInt32
  /-- Calls so far. -/
  calls : UInt64 := 0
  deriving DecidableEq, Repr

namespace Workload

/-- Multiplications of each call unless otherwise planned. -/
def defaultMultiplies : UInt32 := 100000

/-- Calls of one round: four, and two from inside `delta`. -/
def callsPerRound : UInt64 := 6

/-- The product after `times` steps of the loop, from `z` on. -/
def steps : Nat → UInt64 → UInt64
  | 0, z => z
  | times + 1, z => steps times (z * 3)

/-- The product of a call, step by step. -/
def steppedProduct (times : UInt32) : UInt64 := steps times.toNat 3

/-- `base ^ n * acc` by squaring; `bits` bounds the number of bits of `n`. -/
def powerFrom : Nat → UInt64 → Nat → UInt64 → UInt64
  | 0, _, _, acc => acc
  | bits + 1, base, n, acc =>
    if n = 0 then acc
    else powerFrom bits (base * base) (n / 2) (if n % 2 = 1 then acc * base else acc)

/-- The product of a call. -/
def product (times : UInt32) : UInt64 := powerFrom 32 3 times.toNat 3

/-- One call of a subroutine that calls no other. -/
def call (w : Workload) : Workload := { w with calls := w.calls + 1 }

/-- The first subroutine. -/
def alpha (w : Workload) : Workload := w.call

/-- The second subroutine. -/
def beta (w : Workload) : Workload := w.call

/-- The third subroutine. -/
def gamma (w : Workload) : Workload := w.call

/-- The fourth subroutine, which calls the first two. -/
def delta (w : Workload) : Workload := w.call.alpha.beta

/-- One round: all four subroutines. -/
def round (w : Workload) : Workload := w.alpha.beta.delta.gamma

/-- The names of what can be called. -/
inductive Call where
  | alpha | beta | gamma | delta | round
  deriving DecidableEq, Repr

/-- A call by name. -/
def perform (w : Workload) : Call → Workload
  | .alpha => w.alpha
  | .beta => w.beta
  | .gamma => w.gamma
  | .delta => w.delta
  | .round => w.round

/-- The workload before any of the calls, and after each of them. -/
def trace (w : Workload) : List Call → List Workload
  | [] => [w]
  | c :: cs => w :: trace (w.perform c) cs

end Workload

end ProfilingTargets
