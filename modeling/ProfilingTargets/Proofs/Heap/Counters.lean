import Mathlib
import ProfilingTargets.Heap.Counters

/-!
# What allocations and releases do to the counters

The counters are words: the totals wrap, and the live bytes are a signed word to which
sizes are added as if they were signed. As long as the live bytes stay below `2 ^ 63`
that is the sum and the difference of numbers (`toInt_add_size`, `toInt_sub_size`). The
totals of bytes agree with the live bytes even where they wrap (`Balanced`).
-/

namespace ProfilingTargets.Heap

/-! ### Sizes as signed words -/

theorem toInt_toInt64 {size : UInt64} (h : size.toNat < 2 ^ 63) :
    size.toInt64.toInt = size.toNat := by
  have htoInt : size.toInt64.toInt = size.toBitVec.toInt := rfl
  rw [htoInt, BitVec.toInt_eq_toNat_of_lt]
  · rfl
  · have hnat : size.toBitVec.toNat = size.toNat := rfl
    omega

/-- Adding a size that fits adds numbers. -/
theorem toInt_add_size {live : Int64} {size : UInt64} (hlive : 0 ≤ live.toInt)
    (hfits : live.toInt + size.toNat < 2 ^ 63) :
    (live + size.toInt64).toInt = live.toInt + size.toNat := by
  have hsize := toInt_toInt64 (show size.toNat < 2 ^ 63 by omega)
  rw [Int64.toInt_add, hsize]
  exact Int.bmod_eq_of_le (by omega) (by omega)

/-- Taking off a size that is there subtracts numbers. -/
theorem toInt_sub_size {live : Int64} {size : UInt64} (h : size.toNat ≤ live.toInt) :
    (live - size.toInt64).toInt = live.toInt - size.toNat := by
  have hlt : live.toInt < 2 ^ 63 := Int64.toInt_lt live
  have hsize := toInt_toInt64 (show size.toNat < 2 ^ 63 by omega)
  rw [Int64.toInt_sub, hsize]
  exact Int.bmod_eq_of_le (by omega) (by omega)

namespace Counters

variable (c : Counters) (size : UInt64)

/-- The peak is raised to a value, if that is more. -/
theorem toInt_peakLiveBytes_raisePeak (live : Int64) :
    (c.apply (.raisePeak live)).peakLiveBytes.toInt = max live.toInt c.peakLiveBytes.toInt := by
  rw [apply]
  split
  · next h => exact (max_eq_left (Int64.lt_iff_toInt_lt.1 h).le).symm
  · next h => exact (max_eq_right (not_lt.1 (mt Int64.lt_iff_toInt_lt.2 h))).symm

/-! ### An allocation -/

@[simp] theorem liveBytes_recordAlloc :
    (c.recordAlloc size).liveBytes = c.liveBytes + size.toInt64 := rfl

@[simp] theorem totalAllocs_recordAlloc :
    (c.recordAlloc size).totalAllocs = c.totalAllocs + 1 := rfl

@[simp] theorem totalFrees_recordAlloc : (c.recordAlloc size).totalFrees = c.totalFrees := rfl

@[simp] theorem totalAllocBytes_recordAlloc :
    (c.recordAlloc size).totalAllocBytes = c.totalAllocBytes + size := rfl

@[simp] theorem totalFreeBytes_recordAlloc :
    (c.recordAlloc size).totalFreeBytes = c.totalFreeBytes := rfl

/-- **The peak rises to the live bytes**, if they are more. -/
theorem toInt_peakLiveBytes_recordAlloc :
    (c.recordAlloc size).peakLiveBytes.toInt =
      max (c.recordAlloc size).liveBytes.toInt c.peakLiveBytes.toInt :=
  toInt_peakLiveBytes_raisePeak _ _

/-! ### A release -/

@[simp] theorem liveBytes_recordFree :
    (c.recordFree size).liveBytes = c.liveBytes - size.toInt64 := rfl

@[simp] theorem peakLiveBytes_recordFree :
    (c.recordFree size).peakLiveBytes = c.peakLiveBytes := rfl

@[simp] theorem totalAllocs_recordFree : (c.recordFree size).totalAllocs = c.totalAllocs := rfl

@[simp] theorem totalFrees_recordFree :
    (c.recordFree size).totalFrees = c.totalFrees + 1 := rfl

@[simp] theorem totalAllocBytes_recordFree :
    (c.recordFree size).totalAllocBytes = c.totalAllocBytes := rfl

@[simp] theorem totalFreeBytes_recordFree :
    (c.recordFree size).totalFreeBytes = c.totalFreeBytes + size := rfl

/-! ### Bytes in and out -/

/-- **The totals of bytes differ by the live bytes**, as words. -/
def Balanced (c : Counters) : Prop :=
  c.totalAllocBytes - c.totalFreeBytes = c.liveBytes.toUInt64

variable {c}

theorem Balanced.recordAlloc (h : c.Balanced) : (c.recordAlloc size).Balanced := by
  have hlive : (c.liveBytes + size.toInt64).toUInt64 = c.liveBytes.toUInt64 + size := rfl
  rw [Balanced, totalAllocBytes_recordAlloc, totalFreeBytes_recordAlloc, liveBytes_recordAlloc,
    hlive, ← h]
  grind

theorem Balanced.recordFree (h : c.Balanced) : (c.recordFree size).Balanced := by
  have hlive : (c.liveBytes - size.toInt64).toUInt64 = c.liveBytes.toUInt64 - size := rfl
  rw [Balanced, totalAllocBytes_recordFree, totalFreeBytes_recordFree, liveBytes_recordFree,
    hlive, ← h]
  grind

end Counters

end ProfilingTargets.Heap
