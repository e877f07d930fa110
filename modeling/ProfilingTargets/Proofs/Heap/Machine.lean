import Mathlib.Data.List.Nodup
import Mathlib.Data.List.Perm.Basic
import ProfilingTargets.Heap.Interleaving

/-!
# Threads, their calls and their blocks

How calls to the allocator that are made at once get on with each other. No two threads
share a call and no two blocks a name (`Machine.Distinct`), so that a move is about one call
and leaves the others where they are (`Machine.Change`). A call that nobody comes between
does what `Allocator.perform` does (`Machine.run_alone`).
-/

namespace ProfilingTargets.Heap

/-! ### Entries by key -/

/-- An entry that is found by its key, and the others, are all the entries. -/
theorem perm_of_lookup {κ ν : Type} [DecidableEq κ] {entries : List (κ × ν)} {k : κ} {v : ν}
    (hnodup : (entries.map (·.1)).Nodup) (h : entries.lookup k = some v) :
    entries.Perm ((k, v) :: entries.filter (·.1 != k)) := by
  induction entries with
  | nil => cases h
  | cons entry rest ih =>
    obtain ⟨m, w⟩ := entry
    rw [List.map_cons, List.nodup_cons] at hnodup
    by_cases hm : k = m
    · subst hm
      rw [List.lookup_cons_self] at h
      cases h
      have hrest : rest.filter (·.1 != k) = rest := by
        refine List.filter_eq_self.2 fun other hother => bne_iff_ne.2 ?_
        intro hk
        exact hnodup.1 (List.mem_map.2 ⟨other, hother, hk⟩)
      rw [List.filter_cons_of_neg (by simp), hrest]
    · rw [List.lookup_cons, beq_eq_false_iff_ne.2 hm] at h
      have hkept : ((m, w) :: rest).filter (·.1 != k) = (m, w) :: rest.filter (·.1 != k) :=
        List.filter_cons_of_pos (bne_iff_ne.2 (Ne.symm hm))
      rw [hkept]
      exact ((ih hnodup.2 h).cons _).trans (List.Perm.swap _ _ _)

theorem notMem_of_lookup {κ ν : Type} [DecidableEq κ] {entries : List (κ × ν)} {k : κ}
    (h : entries.lookup k = none) : k ∉ entries.map (·.1) := by
  intro hmem
  obtain ⟨entry, hentry, rfl⟩ := List.mem_map.1 hmem
  simpa using List.lookup_eq_none_iff.1 h entry hentry

namespace Machine

/-! ### Who holds what -/

section

variable (m : Machine) (thread : Nat) (o : Operation) (blocks : List (String × Layout))
  (step : Step) (rest : List Step) (others : List (Nat × Flight))

@[simp] theorem blocks_afterCall : (m.afterCall thread o blocks).allocator.blocks = blocks := rfl

@[simp] theorem counters_afterCall :
    (m.afterCall thread o blocks).allocator.counters = m.allocator.counters := rfl

@[simp] theorem flights_afterCall :
    (m.afterCall thread o blocks).flights = (thread, ⟨o, o.steps⟩) :: m.flights := rfl

@[simp] theorem blocks_afterStep :
    (m.afterStep thread o step rest others).allocator.blocks = m.allocator.blocks := rfl

@[simp] theorem counters_afterStep :
    (m.afterStep thread o step rest others).allocator.counters =
      m.allocator.counters.apply step := rfl

@[simp] theorem flights_afterStep :
    (m.afterStep thread o step rest others).flights =
      (thread, ⟨o, step.followedBy (m.allocator.counters.apply step) ++ rest⟩) :: others := rfl

@[simp] theorem flights_afterReturn : (m.afterReturn o others).flights = others := rfl

end

/-- **Every thread is in one call at most, and every block has a name of its own.** -/
structure Distinct (m : Machine) : Prop where
  /-- No thread is in two calls. -/
  threads : (m.flights.map (·.1)).Nodup
  /-- No name is in use twice. -/
  names : m.names.Nodup

/-- The names of blocks that calls will leave. -/
def leftNames (flights : List (Nat × Flight)) : List String :=
  flights.flatMap fun call => call.2.operation.leaves.toList.map (·.1)

/-- **What one move can do** to a machine: nothing, or a call begins, makes a step, or
returns. -/
inductive Change (m : Machine) : Machine → Option Operation → Prop where
  /-- Nothing happens. -/
  | same : Change m m none
  /-- A call begins, and takes its block. -/
  | called (thread : Nat) (o : Operation) (blocks : List (String × Layout))
    (taken : m.allocator.blocks.Perm (o.takes.toList ++ blocks)) :
    Change m (m.afterCall thread o blocks) (some o)
  /-- A call makes its next step. -/
  | stepped (thread : Nat) (o : Operation) (step : Step) (rest : List Step)
    (others : List (Nat × Flight)) (here : m.flights.Perm ((thread, ⟨o, step :: rest⟩) :: others)) :
    Change m (m.afterStep thread o step rest others) none
  /-- A call returns, and leaves its block. -/
  | returned (thread : Nat) (o : Operation) (others : List (Nat × Flight))
    (here : m.flights.Perm ((thread, ⟨o, []⟩) :: others)) :
    Change m (m.afterReturn o others) none

section

variable {m : Machine}

theorem names_eq (m : Machine) :
    m.names = m.allocator.blocks.map (·.1) ++ leftNames m.flights := rfl

/-- An operation is about a new name or a live block. -/
theorem operation?_cases {request : Request} {o : Operation} (ho : m.operation? request = some o) :
    (∃ name layout, o = ⟨none, some (name, layout)⟩ ∧ name ∉ m.names) ∨
      ∃ name layout, m.allocator.block? name = some layout ∧ o.takes = some (name, layout) ∧
        ∀ block ∈ o.leaves, block.1 = name := by
  cases request with
  | alloc name layout | allocZeroed name layout =>
    by_cases hname : name ∈ m.names
    · simp [operation?, hname] at ho
    · simp only [operation?, List.contains_iff_mem, hname, if_false, Option.some.injEq] at ho
      exact .inl ⟨name, layout, ho.symm, hname⟩
  | realloc name size =>
    obtain ⟨layout, hblock, rfl⟩ := Option.map_eq_some_iff.1 ho
    refine .inr ⟨name, layout, hblock, rfl, ?_⟩
    rintro block ⟨⟩
    rfl
  | dealloc name =>
    obtain ⟨layout, hblock, rfl⟩ := Option.map_eq_some_iff.1 ho
    refine .inr ⟨name, layout, hblock, rfl, ?_⟩
    rintro block ⟨⟩

/-- Who begins a call was in none. -/
theorem begins?_eq_some {move : Move} {o : Operation} (h : m.begins? move = some o) :
    ∃ thread request, move = .call thread request ∧ m.flights.lookup thread = none ∧
      m.operation? request = some o := by
  cases move with
  | advance thread => cases h
  | call thread request =>
    cases hlookup : m.flights.lookup thread with
    | some flight => simp [begins?, hlookup] at h
    | none =>
      simp only [begins?, hlookup, Option.isSome_none, Bool.false_eq_true, if_false] at h
      exact ⟨thread, request, rfl, hlookup, h⟩

/-- The block that an operation takes, and the others, are all the blocks. -/
theorem Distinct.perm_blocksWithout (hm : m.Distinct) {request : Request} {o : Operation}
    (ho : m.operation? request = some o) :
    m.allocator.blocks.Perm (o.takes.toList ++ m.blocksWithout o) := by
  have hnodup : (m.allocator.blocks.map (·.1)).Nodup := (List.nodup_append.1 hm.names).1
  rcases operation?_cases ho with ⟨name, layout, rfl, -⟩ | ⟨name, layout, hblock, htakes, -⟩
  · exact List.Perm.refl _
  · rw [blocksWithout, htakes]
    exact perm_of_lookup hnodup hblock

/-- **Every move makes one of these changes.** -/
theorem Distinct.change (hm : m.Distinct) (move : Move) :
    Change m (m.step move) (m.begins? move) := by
  cases move with
  | call thread request =>
    rw [step, Machine.call]
    cases hbegins : m.begins? (.call thread request) with
    | none => exact .same
    | some o =>
      obtain ⟨_, _, hmove, -, ho⟩ := begins?_eq_some hbegins
      cases hmove
      exact .called thread o _ (hm.perm_blocksWithout ho)
  | advance thread =>
    rw [step, Machine.advance, begins?]
    split
    · exact .same
    · next o hlookup => exact .returned thread o _ (perm_of_lookup hm.threads hlookup)
    · next o step rest hlookup =>
      exact .stepped thread o step rest _ (perm_of_lookup hm.threads hlookup)

/-- The names in use, with the block apart that an operation takes. -/
theorem Distinct.perm_names (hm : m.Distinct) {request : Request} {o : Operation}
    (ho : m.operation? request = some o) :
    m.names.Perm (o.takes.toList.map (·.1) ++
      ((m.blocksWithout o).map (·.1) ++ leftNames m.flights)) := by
  have hblocks := (hm.perm_blocksWithout ho).map Prod.fst
  rw [List.map_append] at hblocks
  rw [names_eq, ← List.append_assoc]
  exact hblocks.append_right _

/-- A call that begins holds its block's name and no other one. -/
theorem Distinct.afterCall (hm : m.Distinct) {thread : Nat} {request : Request} {o : Operation}
    (hidle : m.flights.lookup thread = none) (ho : m.operation? request = some o) :
    (m.afterCall thread o (m.blocksWithout o)).Distinct := by
  have hperm := hm.perm_names ho
  have hnodup := hperm.nodup_iff.1 hm.names
  constructor
  · exact List.nodup_cons.2 ⟨notMem_of_lookup hidle, hm.threads⟩
  · have hnew : (o.leaves.toList.map (·.1) ++
        ((m.blocksWithout o).map (·.1) ++ leftNames m.flights)).Nodup := by
      rcases operation?_cases ho with
        ⟨name, layout, rfl, hname⟩ | ⟨name, layout, -, htakes, hleaves⟩
      · exact List.nodup_cons.2 ⟨fun h => hname (hperm.mem_iff.2 h), hnodup⟩
      · rw [htakes] at hnodup
        cases hleft : o.leaves with
        | none => exact hnodup.of_cons
        | some block =>
          obtain rfl := hleaves block hleft
          exact hnodup
    refine List.Perm.nodup ?_ hnew
    exact List.perm_append_comm_assoc _ _ _

/-- Who holds what does not depend on which steps are still to be made. -/
theorem Distinct.afterStep (hm : m.Distinct) {thread : Nat} {o : Operation} {step : Step}
    {rest : List Step} {others : List (Nat × Flight)}
    (here : m.flights.Perm ((thread, ⟨o, step :: rest⟩) :: others)) :
    (m.afterStep thread o step rest others).Distinct := by
  constructor
  · exact (here.map Prod.fst).nodup_iff.1 hm.threads
  · have hnames := hm.names
    rw [names_eq] at hnames ⊢
    exact ((here.flatMap_right _).append_left _).nodup_iff.1 hnames

/-- A call that returns hands its block's name over. -/
theorem Distinct.afterReturn (hm : m.Distinct) {thread : Nat} {o : Operation} {steps : List Step}
    {others : List (Nat × Flight)} (here : m.flights.Perm ((thread, ⟨o, steps⟩) :: others)) :
    (m.afterReturn o others).Distinct := by
  constructor
  · exact ((here.map Prod.fst).nodup_iff.1 hm.threads).of_cons
  · have hnames := hm.names
    rw [names_eq] at hnames ⊢
    have hperm : (m.allocator.blocks.map (·.1) ++ leftNames m.flights).Perm
        (m.allocator.blocks.map (·.1) ++ (o.leaves.toList.map (·.1) ++ leftNames others)) :=
      (here.flatMap_right _).append_left _
    have hmoved := hperm.trans (List.perm_append_comm_assoc _ _ _)
    rw [Machine.afterReturn, List.map_append, List.append_assoc]
    exact hmoved.nodup_iff.1 hnames

/-- **Every move keeps them apart.** -/
theorem Distinct.step (hm : m.Distinct) (move : Move) : (m.step move).Distinct := by
  cases move with
  | call thread request =>
    rw [Machine.step, Machine.call]
    cases hbegins : m.begins? (.call thread request) with
    | none => exact hm
    | some o =>
      obtain ⟨_, _, hmove, hidle, ho⟩ := begins?_eq_some hbegins
      cases hmove
      exact hm.afterCall hidle ho
  | advance thread =>
    rw [Machine.step, Machine.advance]
    split
    · exact hm
    · next o hlookup => exact hm.afterReturn (perm_of_lookup hm.threads hlookup)
    · next o step rest hlookup => exact hm.afterStep (perm_of_lookup hm.threads hlookup)

end

/-! ### A call on its own -/

/-- The counters after steps that no other thread's steps come between. -/
def makeSteps (c : Counters) : List Step → Counters
  | [] => c
  | step :: rest =>
    makeSteps ((step.followedBy (c.apply step)).foldl Counters.apply (c.apply step)) rest

section

variable (a : Allocator) (thread : Nat) (o : Operation)

theorem advance_alone_nil :
    advance { allocator := a, flights := [(thread, ⟨o, []⟩)] } thread =
      { allocator := { a with blocks := o.leaves.toList ++ a.blocks } } := by
  simp [advance, afterReturn, Machine.others]

theorem advance_alone_cons (step : Step) (rest : List Step) :
    advance { allocator := a, flights := [(thread, ⟨o, step :: rest⟩)] } thread =
      { allocator := { a with counters := a.counters.apply step }
        flights := [(thread, ⟨o, step.followedBy (a.counters.apply step) ++ rest⟩)] } := by
  simp [advance, Machine.afterStep, Machine.others]

/-- A call on its own makes its steps and returns. -/
theorem run_alone_steps (steps : List Step) :
    ∃ n, run { allocator := a, flights := [(thread, ⟨o, steps⟩)] }
        (List.replicate n (.advance thread)) =
      { allocator := ⟨makeSteps a.counters steps, o.leaves.toList ++ a.blocks⟩ } := by
  induction steps generalizing a with
  | nil => exact ⟨1, advance_alone_nil a thread o⟩
  | cons step rest ih =>
    let counters := a.counters.apply step
    obtain ⟨n, hn⟩ := ih ⟨(step.followedBy counters).foldl Counters.apply counters, a.blocks⟩
    cases step with
    | addLive size =>
      -- one move more, for the peak
      refine ⟨n + 2, ?_⟩
      rw [List.replicate_succ, List.replicate_succ]
      simp only [run, List.foldl_cons, Machine.step, advance_alone_cons, Step.followedBy,
        List.cons_append, List.nil_append] at hn ⊢
      exact hn
    | _ =>
      refine ⟨n + 1, ?_⟩
      rw [List.replicate_succ]
      simp only [run, List.foldl_cons, Machine.step, advance_alone_cons] at hn ⊢
      exact hn

end

/-- A block that is allocated had a name that no block has, and is counted and live. -/
theorem of_allocate {a b : Allocator} {name : String} {layout : Layout}
    (h : Allocator.allocate true name layout a = .ok (true, b)) :
    name ∉ names { allocator := a } ∧
      b = ⟨a.counters.recordAlloc layout.size, (name, layout) :: a.blocks⟩ := by
  unfold Allocator.allocate at h
  split at h
  · cases h
  next hlegal =>
    split at h
    · cases h
    cases h
    refine ⟨?_, rfl⟩
    rw [Bool.not_eq_true, Bool.or_eq_false_iff, Option.isSome_eq_false_iff,
      Option.isNone_iff_eq_none] at hlegal
    rw [names_eq, List.mem_append, not_or]
    exact ⟨notMem_of_lookup hlegal.1, List.not_mem_nil⟩

/-- What `Allocator.perform` does to counters and blocks is what the operation does. -/
theorem operation?_of_perform {a b : Allocator} {request : Request}
    (h : a.perform true request = .ok (true, b)) :
    ∃ o, operation? { allocator := a } request = some o ∧
      b = ⟨makeSteps a.counters o.steps,
        o.leaves.toList ++ blocksWithout { allocator := a } o⟩ := by
  cases request with
  | alloc name layout | allocZeroed name layout =>
    obtain ⟨hname, rfl⟩ := of_allocate h
    refine ⟨⟨none, some (name, layout)⟩, ?_, rfl⟩
    simp only [operation?, List.contains_iff_mem, hname, if_false]
  | realloc name size =>
    cases hblock : a.block? name with
    | none => simp [Allocator.perform, hblock] at h
    | some layout =>
      simp only [Allocator.perform, hblock] at h
      split at h
      · cases h
      split at h
      · cases h
      cases h
      refine ⟨⟨some (name, layout), some (name, { layout with size := size })⟩, ?_, rfl⟩
      simp only [operation?, hblock, Option.map_some]
  | dealloc name =>
    cases hblock : a.block? name with
    | none => simp [Allocator.perform, hblock] at h
    | some layout =>
      simp only [Allocator.perform, hblock] at h
      cases h
      refine ⟨⟨some (name, layout), none⟩, ?_, rfl⟩
      simp only [operation?, hblock, Option.map_some]

/-- **A call that is made alone does what `Allocator.perform` does.** -/
theorem run_alone {a b : Allocator} {request : Request}
    (h : a.perform true request = .ok (true, b)) (thread : Nat) :
    ∃ n, run { allocator := a } (.call thread request :: List.replicate n (.advance thread)) =
      { allocator := b } := by
  obtain ⟨o, ho, rfl⟩ := operation?_of_perform h
  let taken : Allocator := { a with blocks := blocksWithout { allocator := a } o }
  obtain ⟨n, hn⟩ := run_alone_steps taken thread o o.steps
  refine ⟨n, ?_⟩
  have hcall : Machine.step { allocator := a } (.call thread request) =
      afterCall { allocator := a } thread o (blocksWithout { allocator := a } o) := by
    simp only [Machine.step, Machine.call, begins?, List.lookup_nil, ho, Option.isSome_none,
      Bool.false_eq_true, if_false]
  rw [run, List.foldl_cons, hcall]
  exact hn

end Machine

end ProfilingTargets.Heap
