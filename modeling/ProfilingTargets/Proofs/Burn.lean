import Mathlib
import ProfilingTargets.Burn
import ProfilingTargets.Proofs.Workload

/-!
# Where a burn stops

A burn does the rounds of its plan one after another, each after a look that found the flag
set, until the plan is done or a look finds it cleared. Where it stands after some rounds is
told from their number (`Stands`), and the number at which it stops is told from the plan and
the flag alone (`Stops`). There is one such number for each flag, the least of the two that
could stop a burn (`Stops.eq_min`).

The program's loop goes on for as long as its head says, and `loop` for a number of rounds
that is given to it. `Loops` is a run of the loop without that number.

## What is proved

* `Stands.loop`: from wherever a burn stands, the loop comes to an end, and stops there.
* `burns_run`: for every plan and whatever the flag is found to be, what a burn does, in which
  order, and on which looks it depends.
-/

namespace ProfilingTargets.Burn

variable {plan : Plan} {running running' : Nat → Bool} {p : Progress} {n k k' : Nat}

/-! ### Where to stop -/

/-- How many looks find a flag set before the first one that does not. -/
noncomputable def leading (running : Nat → Bool) : ℕ∞ :=
  ⨅ (i : Nat) (_ : running i = false), (i : ℕ∞)

theorem le_leading_iff : (k : ℕ∞) ≤ leading running ↔ ∀ i < k, running i = true := by
  simp only [leading, le_iInf_iff, Nat.cast_le]
  constructor
  · intro h i hi
    by_contra hcleared
    exact absurd (h i (Bool.eq_false_iff.2 hcleared)) (Nat.not_le.2 hi)
  · intro h i hcleared
    by_contra hi
    rw [h i (Nat.lt_of_not_le hi)] at hcleared
    cases hcleared

/-- **The number of rounds after which a burn of `n` planned ones stops.** -/
structure Stops (n : Nat) (running : Nat → Bool) (k : Nat) : Prop where
  /-- It is within the plan. -/
  planned : k ≤ n
  /-- The flag is found set before each round. -/
  found : ∀ i < k, running i = true
  /-- If rounds are missing, it is found cleared then. -/
  cleared : k < n → running k = false

/-- **A burn stops after the planned rounds, or after as many as there are looks that find the
flag set, whichever is less.** -/
theorem Stops.eq_min (h : Stops n running k) : (k : ℕ∞) = min (n : ℕ∞) (leading running) := by
  refine le_antisymm (le_min (Nat.cast_le.2 h.planned) (le_leading_iff.2 h.found)) ?_
  rcases h.planned.lt_or_eq with hlt | rfl
  · exact (min_le_right _ _).trans (iInf₂_le k (h.cleared hlt))
  · exact min_le_left _ _

theorem Stops.unique (h : Stops n running k) (h' : Stops n running k') : k = k' :=
  Nat.cast_inj.1 (h.eq_min.trans h'.eq_min.symm)

/-- Only the looks that are made count. -/
theorem Stops.congr (h : Stops n running k)
    (heq : ∀ i < n, (∀ j < i, running j = true) → running' i = running i) :
    Stops n running' k where
  planned := h.planned
  found i hi := by
    rw [heq i (hi.trans_le h.planned) fun j hj => h.found j (hj.trans hi)]
    exact h.found i hi
  cleared hlt := (heq k hlt h.found).trans (h.cleared hlt)

/-! ### The loop -/

/-- **The loop, for as long as its head says**: it goes from one progress to another, and ends
there. -/
inductive Loops (plan : Plan) (running : Nat → Bool) : Progress → Progress → Prop where
  /-- The head says that no round is to be done. -/
  | ends {p p' : Progress} (h : head plan running p = (false, p')) : Loops plan running p p'
  /-- The head says that a round is to be done, and the loop goes on from there. -/
  | goesOn {p p' p'' : Progress} (h : head plan running p = (true, p'))
    (hrest : Loops plan running p'.round p'') : Loops plan running p p''

/-- What has been done after some rounds: a look that found the flag set, and a round, as many
times. -/
def inTurn (k : Nat) : List Act := (List.replicate k [.look true, .round]).flatten

/-- The look that a burn ends with if rounds are missing. -/
def lastLook (n k : Nat) : List Act := if k < n then [.look false] else []

/-- **Where a burn stands after `k` rounds**, and perhaps a last look. -/
structure Stands (plan : Plan) (k : Nat) (last : List Act) (p : Progress) : Prop where
  /-- The rounds are counted. -/
  done : p.done.toNat = k
  /-- They have been done on the workload. -/
  work : p.work = Workload.round^[k] { multiplies := plan.multiplies }
  /-- Each comes after a look. -/
  acts : p.acts.reverse = inTurn k ++ last

theorem Stands.ext {last : List Act} {p' : Progress} (h : Stands plan k last p)
    (h' : Stands plan k last p') : p = p' := by
  obtain ⟨done, work, acts⟩ := p
  obtain ⟨done', work', acts'⟩ := p'
  rw [Progress.mk.injEq]
  exact ⟨UInt64.toNat_inj.1 (h.done.trans h'.done.symm), h.work.trans h'.work.symm,
    List.reverse_injective (h.acts.trans h'.acts.symm)⟩

theorem stands_start (plan : Plan) : Stands plan 0 [] (.start plan) := ⟨rfl, rfl, rfl⟩

/-- Once the plan is done, the flag is not looked at any more. -/
theorem Stands.head_of_done (h : Stands plan k [] p) (hk : k = plan.iterations.toNat) :
    head plan running p = (false, p) := by
  have hdone : ¬ p.done < plan.iterations := by
    rw [UInt64.lt_iff_toNat_lt, h.done, hk]
    exact lt_irrefl _
  rw [head, if_neg hdone]

/-- Before that it is looked at once, and this decides. -/
theorem Stands.head_of_lt (h : Stands plan k [] p) (hk : k < plan.iterations.toNat)
    (running : Nat → Bool) :
    head plan running p = (running k, { p with acts := .look (running k) :: p.acts }) := by
  have hleft : p.done < plan.iterations := by
    rw [UInt64.lt_iff_toNat_lt, h.done]
    exact hk
  rw [head, if_pos hleft, h.done]

/-- A look that finds the flag cleared is the last act. -/
theorem Stands.look (h : Stands plan k [] p) :
    Stands plan k [.look false] { p with acts := .look false :: p.acts } where
  done := h.done
  work := h.work
  acts := by rw [List.reverse_cons, h.acts, List.append_nil]

/-- **A look that finds it set is followed by a round**, which the counter has room for. -/
theorem Stands.round (h : Stands plan k [] p) (hk : k < plan.iterations.toNat) :
    Stands plan (k + 1) [] { p with acts := .look true :: p.acts }.round where
  done := by
    have hroom : p.done.toNat + 1 < UInt64.size := by
      rw [h.done]
      exact (Nat.succ_le_of_lt hk).trans_lt plan.iterations.toNat_lt
    rw [Progress.round, UInt64.toNat_add, ← h.done]
    exact Nat.mod_eq_of_lt hroom
  work := by
    rw [Progress.round, h.work, Function.iterate_succ_apply']
  acts := by
    have hacts := h.acts
    rw [List.append_nil] at hacts
    simp only [Progress.round, List.reverse_cons, hacts, List.append_assoc, List.append_nil]
    rw [inTurn, inTurn, List.replicate_succ', List.flatten_append]
    rfl

/-- **From wherever a burn stands, the loop comes to an end**, and it is where the burn stops. -/
theorem Stands.loop {left : Nat} (h : Stands plan k [] p) (hleft : k + left = plan.iterations.toNat)
    (hfound : ∀ i < k, running i = true) :
    Loops plan running p (loop plan running left p) ∧
      ∃ k', Stops plan.iterations.toNat running k' ∧
        Stands plan k' (lastLook plan.iterations.toNat k') (Burn.loop plan running left p) := by
  induction left generalizing k p with
  | zero =>
    have hdone : k = plan.iterations.toNat := hleft
    have hlast : lastLook plan.iterations.toNat k = [] := if_neg (by omega)
    refine ⟨.ends (h.head_of_done hdone), k, ⟨hdone.le, hfound, ?_⟩, ?_⟩
    · intro hlt
      omega
    · rw [hlast]
      exact h
  | succ left ih =>
    have hlt : k < plan.iterations.toNat := by omega
    have hhead := h.head_of_lt hlt running
    cases hflag : running k with
    | false =>
      rw [hflag] at hhead
      have hlast : lastLook plan.iterations.toNat k = [.look false] := if_pos hlt
      rw [Burn.loop, hhead]
      refine ⟨.ends hhead, k, ⟨hlt.le, hfound, fun _ => hflag⟩, ?_⟩
      rw [hlast]
      exact h.look
    | true =>
      rw [hflag] at hhead
      have hfound' : ∀ i < k + 1, running i = true := by
        intro i hi
        rcases Nat.lt_succ_iff_lt_or_eq.1 hi with hi | rfl
        · exact hfound i hi
        · exact hflag
      obtain ⟨hloops, hstops⟩ := ih (h.round hlt) (by omega) hfound'
      rw [Burn.loop, hhead]
      exact ⟨.goesOn hhead hloops, hstops⟩

/-! ### Runs -/

/-- **A run stops after as many rounds as `run` reports**, and this is where it stands then. -/
theorem stands_progress (plan : Plan) (running : Nat → Bool) :
    Stops plan.iterations.toNat running (run plan running).iterations ∧
      Stands plan (run plan running).iterations
        (lastLook plan.iterations.toNat (run plan running).iterations)
        (progress plan running) := by
  have hfound : ∀ i < 0, running i = true := fun i hi => absurd hi (Nat.not_lt_zero i)
  obtain ⟨-, k, hstops, hstands⟩ := (stands_start plan).loop (Nat.zero_add _) hfound
  have hk : (run plan running).iterations = k := hstands.done
  rw [hk]
  exact ⟨hstops, hstands⟩

/-- What looks find while rounds are done. -/
theorem filterMap_found?_inTurn (k : Nat) :
    (inTurn k).filterMap Act.found? = List.replicate k true := by
  induction k with
  | zero => rfl
  | succ k ih =>
    rw [inTurn, List.replicate_succ, List.flatten_cons, List.filterMap_append,
      List.replicate_succ, ← ih]
    rfl

theorem look_false_notMem_inTurn (k : Nat) : Act.look false ∉ inTurn k := by
  simp [inTurn, List.mem_flatten, List.mem_replicate]

/-- **What a burn does**, whatever the flag is found to be. -/
structure Burns (plan : Plan) (running : Nat → Bool) : Prop where
  /-- The loop comes to an end. -/
  ends : Loops plan running (.start plan) (progress plan running)
  /-- It does the rounds of the plan, or as many as there are looks that find the flag set before
  one that does not, whichever is less. -/
  iterations : ((run plan running).iterations : ℕ∞) =
    min (plan.iterations.toNat : ℕ∞) (leading running)
  /-- These are the rounds that the workload has gone through. -/
  work : (progress plan running).work =
    Workload.round^[(run plan running).iterations] { multiplies := plan.multiplies }
  /-- It makes six calls in each round, as long as a word can hold their number. -/
  calls : 6 * (run plan running).iterations < 2 ^ 64 →
    (run plan running).calls.toNat = 6 * (run plan running).iterations
  /-- A look that finds the flag set comes before each round; a look that finds it cleared comes
  after the last one if rounds are missing. -/
  acts : (progress plan running).acts.reverse =
    (List.replicate (run plan running).iterations [.look true, .round]).flatten ++
      if (run plan running).iterations < plan.iterations.toNat then [.look false] else []
  /-- What the looks find, one after another, is what `running` says. -/
  looks : ∃ looks ≤ plan.iterations.toNat,
    (progress plan running).acts.reverse.filterMap Act.found? = (List.range looks).map running
  /-- Nothing is done after a look that finds it cleared. -/
  last : ∀ before after,
    (progress plan running).acts.reverse = before ++ .look false :: after → after = []
  /-- A look that is not made, since the plan is done or an earlier one has found the flag cleared,
  makes no difference. -/
  unseen : ∀ running',
    (∀ i < plan.iterations.toNat, (∀ j < i, running j = true) → running' i = running i) →
    progress plan running' = progress plan running ∧ run plan running' = run plan running

/-- The looks of a burn find what the flag's values say, in their order. -/
theorem looks_of_stops (h : Stops n running k) :
    (inTurn k ++ lastLook n k).filterMap Act.found? =
      (List.range (if k < n then k + 1 else k)).map running := by
  have hset : (List.range k).map running = List.replicate k true := by
    refine List.eq_replicate_iff.2 ⟨by simp, ?_⟩
    intro b hb
    obtain ⟨i, hi, rfl⟩ := List.mem_map.1 hb
    exact h.found i (List.mem_range.1 hi)
  rw [List.filterMap_append, filterMap_found?_inTurn, ← hset, lastLook]
  by_cases hlt : k < n
  · rw [if_pos hlt, if_pos hlt, List.range_succ, List.map_append, List.map_singleton,
      h.cleared hlt]
    rfl
  · rw [if_neg hlt, if_neg hlt]
    exact List.append_nil _

/-- A look that finds the flag cleared is the last one. -/
theorem eq_nil_of_look_false {before after : List Act}
    (h : inTurn k ++ lastLook n k = before ++ .look false :: after) : after = [] := by
  have hfree := look_false_notMem_inTurn k
  rcases List.append_eq_append_iff.1 h with ⟨between, -, hlast⟩ | ⟨between, hturn, hlast⟩
  · -- the look is among the last ones, and there is one at most
    rw [lastLook] at hlast
    split at hlast
    · cases between with
      | nil => exact (List.cons.inj hlast).2.symm
      | cons act between =>
        have hnil := (List.cons.inj hlast).2
        exact absurd hnil.symm (by simp)
    · exact absurd hlast.symm (by simp)
  · cases between with
    | nil =>
      rw [lastLook] at hlast
      split at hlast
      · exact (List.cons.inj hlast).2
      · exact absurd hlast (by simp)
    | cons act between =>
      obtain ⟨rfl, -⟩ := List.cons.inj hlast
      rw [hturn] at hfree
      exact absurd (List.mem_append_right _ List.mem_cons_self) hfree

/-- **A burn stops exactly where the flag says**, or when its plan is done. -/
theorem burns_run (plan : Plan) (running : Nat → Bool) : Burns plan running := by
  obtain ⟨hstops, hstands⟩ := stands_progress plan running
  constructor
  case ends => exact ((stands_start plan).loop (Nat.zero_add _) (by simp)).1
  case iterations => exact hstops.eq_min
  case work => exact hstands.work
  case calls =>
    intro hfits
    have hcalls : (run plan running).calls =
        6 * UInt64.ofNat (run plan running).iterations := by
      show (progress plan running).work.calls = _
      rw [hstands.work, Workload.iterate_round]
      exact UInt64.zero_add _
    have hword : (run plan running).iterations < UInt64.size :=
      hstops.planned.trans_lt plan.iterations.toNat_lt
    rw [hcalls, UInt64.toNat_mul, UInt64.toNat_ofNat_of_lt' hword]
    exact Nat.mod_eq_of_lt hfits
  case acts => exact hstands.acts
  case looks =>
    refine ⟨_, ?_, by rw [hstands.acts, looks_of_stops hstops]⟩
    have hplanned := hstops.planned
    split <;> omega
  case last =>
    intro before after h
    rw [hstands.acts] at h
    exact eq_nil_of_look_false h
  case unseen =>
    intro running' heq
    obtain ⟨hstops', hstands'⟩ := stands_progress plan running'
    have hk := hstops'.unique (hstops.congr heq)
    rw [hk] at hstands'
    have hprogress := hstands'.ext hstands
    exact ⟨hprogress, by rw [run, hprogress]; rfl⟩

/-- A flag that is set again later. -/
example : run { iterations := 5, multiplies := 3 } (fun i => i < 2 || i == 4) = ⟨2, 12⟩ := by
  decide

end ProfilingTargets.Burn
