import ProfilingTargets.Heap.Allocator

/-!
# Interleaved calls

Several threads call the allocator at once. A call updates the counters step by step, and
the steps of other calls may come between any two of its own.

## The model

A call that succeeds takes a block away, leaves one, or both (`Operation`). From when it
begins nobody else can ask for the block that it takes, and only when it returns is there
the block that it leaves. In between it makes its steps, those of the release first; with
its addition to the live bytes it learns what the peak has to be raised to.

A `Move` is the beginning of a call, or the next thing that a thread's call does. A move
that does not apply changes nothing, so that any list of moves is a schedule.
-/

namespace ProfilingTargets.Heap

/-- The steps of an allocation, but for the one that raises the peak. -/
def allocSteps (size : UInt64) : List Step := [.countAlloc, .addAllocBytes size, .addLive size]

/-- The steps of a release. -/
def freeSteps (size : UInt64) : List Step := [.countFree, .addFreeBytes size, .subtractLive size]

/-- What a thread has to do next after a step that led to these counters. Whoever has added
to the live bytes raises the peak to what they were then. -/
def Step.followedBy (c : Counters) : Step → List Step
  | .addLive _ => [.raisePeak c.liveBytes]
  | _ => []

/-- What a call that succeeds does to the live blocks. -/
structure Operation where
  /-- The block that it releases. -/
  takes : Option (String × Layout)
  /-- The block that it returns. -/
  leaves : Option (String × Layout)
  deriving DecidableEq, Repr

/-- The steps of a call: those of the release, then those of the allocation. -/
def Operation.steps (o : Operation) : List Step :=
  o.takes.toList.flatMap (fun block => freeSteps block.2.size) ++
    o.leaves.toList.flatMap fun block => allocSteps block.2.size

/-- A call under way. -/
structure Flight where
  /-- What it does. -/
  operation : Operation
  /-- The steps that it has still to make. -/
  steps : List Step
  deriving DecidableEq, Repr

/-- An allocator and the calls under way, each with its thread. -/
structure Machine where
  /-- The counters and the live blocks. -/
  allocator : Allocator := {}
  /-- The calls by thread. -/
  flights : List (Nat × Flight) := []
  deriving DecidableEq, Repr

/-- What can happen next. -/
inductive Move where
  /-- A thread calls the allocator, and the system grants the request. -/
  | call (thread : Nat) (request : Request)
  /-- The call of a thread makes its next step, or returns if there is none. -/
  | advance (thread : Nat)
  deriving DecidableEq, Repr

namespace Machine

/-- The names in use: those of the live blocks, and those of blocks that are to be returned. -/
def names (m : Machine) : List String :=
  m.allocator.blocks.map (·.1) ++
    m.flights.flatMap fun call => call.2.operation.leaves.toList.map (·.1)

/-- What a request does if it is granted. Only a live block can be released or changed, and
a new one has a new name. -/
def operation? (m : Machine) : Request → Option Operation
  | .alloc name layout | .allocZeroed name layout =>
    if m.names.contains name then none else some ⟨none, some (name, layout)⟩
  | .realloc name size => (m.allocator.block? name).map fun layout =>
    ⟨some (name, layout), some (name, { layout with size := size })⟩
  | .dealloc name => (m.allocator.block? name).map fun layout => ⟨some (name, layout), none⟩

/-- What a call does that begins with a move, if one does. A thread makes one call at a time. -/
def begins? (m : Machine) : Move → Option Operation
  | .call thread request =>
    if (m.flights.lookup thread).isSome then none else m.operation? request
  | .advance _ => none

/-- The live blocks without the one that an operation takes. -/
def blocksWithout (m : Machine) (o : Operation) : List (String × Layout) :=
  match o.takes with
  | some block => m.allocator.without block.1
  | none => m.allocator.blocks

/-- The calls of the other threads. -/
def others (m : Machine) (thread : Nat) : List (Nat × Flight) :=
  m.flights.filter (·.1 != thread)

/-- A call has begun, and these are the live blocks now. -/
def afterCall (m : Machine) (thread : Nat) (o : Operation) (blocks : List (String × Layout)) :
    Machine where
  allocator := { m.allocator with blocks := blocks }
  flights := (thread, ⟨o, o.steps⟩) :: m.flights

/-- A call has made a step, and these are the others. -/
def afterStep (m : Machine) (thread : Nat) (o : Operation) (step : Step) (rest : List Step)
    (others : List (Nat × Flight)) : Machine where
  allocator := { m.allocator with counters := m.allocator.counters.apply step }
  flights :=
    (thread, ⟨o, step.followedBy (m.allocator.counters.apply step) ++ rest⟩) :: others

/-- A call has returned, and these are the others. -/
def afterReturn (m : Machine) (o : Operation) (others : List (Nat × Flight)) : Machine where
  allocator := { m.allocator with blocks := o.leaves.toList ++ m.allocator.blocks }
  flights := others

/-- A thread calls the allocator. -/
def call (m : Machine) (thread : Nat) (request : Request) : Machine :=
  match m.begins? (.call thread request) with
  | none => m
  | some o => m.afterCall thread o (m.blocksWithout o)

/-- The call of a thread goes on. -/
def advance (m : Machine) (thread : Nat) : Machine :=
  match m.flights.lookup thread with
  | none => m
  | some ⟨o, []⟩ => m.afterReturn o (m.others thread)
  | some ⟨o, step :: rest⟩ => m.afterStep thread o step rest (m.others thread)

/-- The machine after a move. -/
def step (m : Machine) : Move → Machine
  | .call thread request => m.call thread request
  | .advance thread => m.advance thread

/-- The machine after some moves. -/
def run (m : Machine) (moves : List Move) : Machine := moves.foldl step m

end Machine

end ProfilingTargets.Heap
