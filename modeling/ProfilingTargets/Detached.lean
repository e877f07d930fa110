import ProfilingTargets.Duration
import ProfilingTargets.Error

/-!
# Tasks that leave work behind

A task may leave blocking work behind that goes on after the task has ended. Whoever
runs the task does not wait for that work: it is abandoned as soon as the task has a
result.
-/

namespace ProfilingTargets

/-- A task as it turns out. -/
structure Detached (α : Type) where
  /-- What the task gives, unless it breaks off. -/
  result : Except Panic α
  /-- How long the task itself takes. -/
  own : Duration := ⟨0⟩
  /-- How long the blocking work goes on that it leaves behind. -/
  leftBehind : List Duration := []

namespace Detached

/-- Runs a task: what it gives, and how long that takes. -/
def run {α : Type} (t : Detached α) : Except Panic (α × Duration) :=
  match t.result with
  | .ok value => .ok (value, t.own)
  | .error p => .error p

/-- Whether running a task took as long as blocking work does. -/
def waited (took work : Duration) : Bool := work.nanos ≤ took.nanos

end Detached

end ProfilingTargets
