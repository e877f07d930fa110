import ProfilingTargets.Heap.Counters

/-!
# The counting allocator

An allocator that passes every request on to the system and counts those that
succeed. Whether the system grants a request is its own choice. Live blocks are
known by name, so that a release or a change can be asked for only of a live block.
-/

namespace ProfilingTargets.Heap

/-- What is asked of a block. -/
structure Layout where
  /-- Its size in bytes. -/
  size : UInt64
  /-- What its address is a multiple of. -/
  align : UInt64
  deriving DecidableEq, Repr

/-- One more than the greatest signed word. -/
def layoutBound : Nat := UInt64.size / 2

/-- A layout is possible if its alignment is a power of two and its size, rounded up to
the alignment, is at most the greatest signed word. -/
def Layout.isPossible (l : Layout) : Bool :=
  l.align != 0 && l.align &&& (l.align - 1) == 0 && l.align.toNat ≤ layoutBound &&
    l.size.toNat ≤ layoutBound - l.align.toNat

/-- A request to the allocator. -/
inductive Request where
  /-- A new block. -/
  | alloc (name : String) (layout : Layout)
  /-- A new block of zeros. -/
  | allocZeroed (name : String) (layout : Layout)
  /-- Another size for a block. -/
  | realloc (name : String) (size : UInt64)
  /-- The end of a block. -/
  | dealloc (name : String)
  deriving DecidableEq, Repr

/-- Why a request is not passed on. -/
inductive Refusal where
  /-- It breaks the rules of allocators: no size, or no such block, or a name in use. -/
  | illegal
  /-- Its layout is impossible. -/
  | impossible
  deriving DecidableEq, Repr

/-- An allocator: the counters and the live blocks. -/
structure Allocator where
  /-- The counters. -/
  counters : Counters := {}
  /-- The live blocks by name. -/
  blocks : List (String × Layout) := []
  deriving DecidableEq, Repr

namespace Allocator

/-- The layout of a live block. -/
def block? (a : Allocator) (name : String) : Option Layout := a.blocks.lookup name

/-- The live blocks but one. -/
def without (a : Allocator) (name : String) : List (String × Layout) :=
  a.blocks.filter (·.1 != name)

/-- A request for a new block. -/
def allocate (granted : Bool) (name : String) (layout : Layout) (a : Allocator) :
    Except Refusal (Bool × Allocator) :=
  if (a.block? name).isSome || layout.size = 0 then .error .illegal
  else if !layout.isPossible then .error .impossible
  else if granted then
    .ok (true, ⟨a.counters.recordAlloc layout.size, (name, layout) :: a.blocks⟩)
  else .ok (false, a)

/-- What comes of a request that the system grants or not: whether it succeeded, and
the allocator after it. A block whose change is not granted stays as it was. -/
def perform (granted : Bool) (a : Allocator) : Request → Except Refusal (Bool × Allocator)
  | .alloc name layout => allocate granted name layout a
  | .allocZeroed name layout => allocate granted name layout a
  | .realloc name size =>
    match a.block? name with
    | none => .error .illegal
    | some layout =>
      if !{ layout with size := size }.isPossible then .error .impossible
      else if size = 0 then .error .illegal
      else if granted then
        .ok (true,
          ⟨(a.counters.recordFree layout.size).recordAlloc size,
            (name, { layout with size := size }) :: a.without name⟩)
      else .ok (false, a)
  | .dealloc name =>
    match a.block? name with
    | none => .error .illegal
    | some layout => .ok (true, ⟨a.counters.recordFree layout.size, a.without name⟩)

end Allocator

end ProfilingTargets.Heap
