import Mathlib
import ProfilingTargets.Proofs.Workload

/-!
# What calls count

A call counts the subroutines that it enters, its own and those from inside it: `delta` counts
three, and a round, which calls `delta`, counts six (`perform_eq`). So some calls count as many
as they enter together (`foldl_perform`), whatever their order is, as far as the number fits into
a word.

## What is proved

* `isChain_trace`: the counter rises with every call.
* `counts_run`: what calls count, that only their numbers matter, and what rounds count.
-/

namespace ProfilingTargets.Workload

variable {w : Workload} {calls : List Call}

/-- How many subroutines a call enters. -/
def Call.weight : Call → Nat
  | .alpha | .beta | .gamma => 1
  | .delta => 3
  | .round => 6

/-- How many subroutines some calls enter. -/
def entered (calls : List Call) : Nat :=
  calls.count .alpha + calls.count .beta + calls.count .gamma + 3 * calls.count .delta +
    6 * calls.count .round

theorem entered_cons (c : Call) (calls : List Call) :
    entered (c :: calls) = c.weight + entered calls := by
  cases c <;> simp [entered, Call.weight] <;> omega

theorem entered_replicate_round (n : Nat) : entered (List.replicate n .round) = 6 * n := by
  simp [entered, List.count_replicate]

/-! ### Calls -/

/-- **A call counts the subroutines that it enters**, and does nothing else to a workload. -/
theorem perform_eq (w : Workload) (c : Call) :
    w.perform c = { w with calls := w.calls + UInt64.ofNat c.weight } := by
  cases c with
  | alpha | beta | gamma => rfl
  | delta =>
    simp only [perform, delta, alpha, beta, call, UInt64.add_assoc]
    rfl
  | round => exact round_eq w

theorem foldl_perform (w : Workload) (calls : List Call) :
    calls.foldl perform w = { w with calls := w.calls + UInt64.ofNat (entered calls) } := by
  induction calls generalizing w with
  | nil => simp [entered]
  | cons c calls ih =>
    rw [List.foldl_cons, ih, perform_eq, entered_cons, UInt64.ofNat_add, UInt64.add_assoc]

/-- As long as the counter does not overflow, it counts exactly. -/
theorem toNat_foldl_perform (h : w.calls.toNat + entered calls < 2 ^ 64) :
    (calls.foldl perform w).calls.toNat = w.calls.toNat + entered calls := by
  have hentered : entered calls < 2 ^ 64 := by omega
  rw [foldl_perform, UInt64.toNat_add, UInt64.toNat_ofNat_of_lt' hentered, Nat.mod_eq_of_lt h]

theorem toNat_perform {c : Call} (h : w.calls.toNat + c.weight < 2 ^ 64) :
    (w.perform c).calls.toNat = w.calls.toNat + c.weight := by
  have hone : entered [c] = c.weight := entered_cons c []
  rw [← hone] at h ⊢
  exact toNat_foldl_perform h

/-! ### Traces -/

/-- **A trace is the workload after each beginning of the calls.** -/
theorem trace_eq (w : Workload) (calls : List Call) :
    w.trace calls = calls.inits.map (·.foldl perform w) := by
  induction calls generalizing w with
  | nil => rfl
  | cons c calls ih =>
    rw [trace, ih, List.inits_cons, List.map_cons, List.map_map]
    rfl

theorem head?_trace (w : Workload) (calls : List Call) : (w.trace calls).head? = some w := by
  cases calls <;> rfl

/-- **The counter rises with every call.** -/
theorem isChain_trace (h : w.calls.toNat + entered calls < 2 ^ 64) :
    ((w.trace calls).map (·.calls)).IsChain (· < ·) := by
  induction calls generalizing w with
  | nil => exact .singleton w.calls
  | cons c calls ih =>
    rw [entered_cons] at h
    have hcall := toNat_perform (w := w) (c := c) (by omega)
    have hweight : 0 < c.weight := by cases c <;> decide
    have hrises : w.calls < (w.perform c).calls := by
      rw [UInt64.lt_iff_toNat_lt]
      omega
    rw [trace, List.map_cons, List.isChain_cons, List.head?_map, head?_trace]
    refine ⟨?_, ih (by omega)⟩
    rintro _ ⟨⟩
    exact hrises

/-- **Calls count in proportion to their numbers.** As long as the counter does not overflow, it
rises with every call, and comes to what the calls enter together. What it comes to depends on
where it began and on how often each was called, and on nothing else: not on the order, and not
on what a call multiplies. So rounds count the calls of a round each. -/
theorem counts_run (w : Workload) (calls : List Call) :
    (w.calls.toNat + entered calls < 2 ^ 64 →
      (calls.foldl perform w).calls.toNat = w.calls.toNat + entered calls ∧
        ((w.trace calls).map (·.calls)).Pairwise (· < ·)) ∧
    w.trace calls = calls.inits.map (·.foldl perform w) ∧
    (∀ (w' : Workload) (calls' : List Call), w'.calls = w.calls →
      (∀ c, calls'.count c = calls.count c) →
        (calls'.foldl perform w').calls = (calls.foldl perform w).calls) ∧
    ∀ n, w.calls.toNat + 6 * n < 2 ^ 64 →
      ((List.replicate n Call.round).foldl perform w).calls.toNat =
        w.calls.toNat + callsPerRound.toNat * n := by
  refine ⟨?_, trace_eq w calls, ?_, ?_⟩
  · intro h
    exact ⟨toNat_foldl_perform h, (isChain_trace h).pairwise⟩
  · intro w' calls' hstart hcount
    rw [foldl_perform, foldl_perform, hstart, entered, entered]
    simp only [hcount]
  · intro n h
    have hfits : w.calls.toNat + entered (List.replicate n .round) < 2 ^ 64 := by
      rwa [entered_replicate_round]
    rw [toNat_foldl_perform hfits, entered_replicate_round]
    rfl

/-- Nested calls, up to the greatest number that the counter can hold. -/
theorem counts_run_greatest :
    (18446744073709551605 : UInt64).toNat + entered [.delta, .round, .alpha] < 2 ^ 64 ∧
      ([Call.delta, .round, .alpha].foldl perform ⟨5, 18446744073709551605⟩).calls.toNat =
        2 ^ 64 - 1 :=
  ⟨by decide, ((counts_run ⟨5, 18446744073709551605⟩ _).1 (by decide)).1.trans (by decide)⟩

end ProfilingTargets.Workload
