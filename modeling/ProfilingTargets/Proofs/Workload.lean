import Mathlib.Logic.Function.Iterate
import ProfilingTargets.Workload

/-!
# Busy work: what rounds count

A round counts six calls, whatever it multiplies (`round_eq`), and so rounds count six calls
each, in a word that wraps (`iterate_round`).
-/

namespace ProfilingTargets.Workload

theorem round_eq (work : Workload) : work.round = { work with calls := work.calls + 6 } := by
  simp only [round, alpha, beta, delta, gamma, call, UInt64.add_assoc]
  rfl

theorem iterate_round (work : Workload) (n : Nat) :
    round^[n] work = { work with calls := work.calls + 6 * UInt64.ofNat n } := by
  induction n with
  | zero => simp
  | succ n ih =>
    rw [Function.iterate_succ_apply', ih, round_eq, UInt64.ofNat_add, UInt64.mul_add, UInt64.add_assoc]
    rfl

end ProfilingTargets.Workload
