import Mathlib
import ProfilingTargets.Workload

/-!
# What is multiplied

A subroutine multiplies threes, in a word that wraps. However many of them are multiplied at a
time, and in whatever order, a number of threes makes one word only (`MadeOf.unique`): their
power, as far as it fits (`MadeOf.toNat`). The loop takes one three more at each step
(`MadeOf.steps`); squaring takes as many again as there are already (`MadeOf.powerFrom`), and so
comes to the same word in 32 steps at most.

## What is proved

* `MadeOf.unique`: ways to compute a product agree, if all they do is to multiply.
* `products_agree`: what the loop computes, from where on its product does not fit into a word,
  that every way to compute it agrees with the loop, squaring among them, and how products
  compose.
-/

namespace ProfilingTargets.Workload

/-- **A word that is made of so many threes**, by multiplying words that are. -/
inductive MadeOf : Nat → UInt64 → Prop where
  /-- To begin with there is no three. -/
  | one : MadeOf 0 1
  /-- A three. -/
  | three : MadeOf 1 3
  /-- The threes of two words. -/
  | mul {m n : Nat} {a b : UInt64} (ha : MadeOf m a) (hb : MadeOf n b) : MadeOf (m + n) (a * b)

namespace MadeOf

variable {m n : Nat} {a b z : UInt64}

/-- **Multiplying words wraps at every step, and comes to the power that is wrapped once.** -/
theorem toNat (h : MadeOf n z) : z.toNat = 3 ^ n % 2 ^ 64 := by
  induction h with
  | one => rfl
  | three => rfl
  | mul _ _ iha ihb => rw [UInt64.toNat_mul, iha, ihb, ← Nat.mul_mod, pow_add]

/-- **So many threes make one word only.** -/
theorem unique (ha : MadeOf n a) (hb : MadeOf n b) : a = b :=
  UInt64.toNat_inj.1 (ha.toNat.trans hb.toNat.symm)

theorem odd (h : MadeOf n z) : z % 2 = 1 := by
  have hodd : 3 ^ n % 2 = 1 := Nat.odd_iff.1 (Odd.pow (by decide))
  have hwrapped : 3 ^ n % 2 ^ 64 % 2 = 3 ^ n % 2 := Nat.mod_mod_of_dvd _ (by decide)
  rw [← UInt64.toNat_inj, UInt64.toNat_mod, h.toNat]
  exact hwrapped.trans hodd

/-! ### The ways to compute a product -/

/-- The loop takes a three at each step. -/
theorem steps (h : MadeOf n z) (times : Nat) : MadeOf (n + times) (Workload.steps times z) := by
  induction times generalizing n z with
  | zero => exact h
  | succ times ih =>
    have hstep := ih (h.mul three)
    rwa [Nat.add_right_comm, Nat.add_assoc n times] at hstep

/-- **Squaring**: what is still to be taken are `n` times the threes of the base. -/
theorem powerFrom {bits k : Nat} (hacc : MadeOf m z) (hbase : MadeOf k b) (hn : n < 2 ^ bits) :
    MadeOf (m + k * n) (Workload.powerFrom bits b n z) := by
  induction bits generalizing m k n z b with
  | zero =>
    obtain rfl : n = 0 := Nat.lt_one_iff.1 hn
    exact hacc
  | succ bits ih =>
    rw [Workload.powerFrom]
    by_cases hzero : n = 0
    · rw [if_pos hzero, hzero]
      exact hacc
    · have hhalf : n / 2 < 2 ^ bits := by omega
      have hsquare := hbase.mul hbase
      rw [if_neg hzero]
      by_cases hodd : n % 2 = 1
      · have hthrees : m + k * n = m + k + (k + k) * (n / 2) := by
          conv_lhs => rw [← Nat.div_add_mod n 2, hodd]
          ring
        rw [if_pos hodd, hthrees]
        exact ih (hacc.mul hbase) hsquare hhalf
      · have hthrees : m + k * n = m + (k + k) * (n / 2) := by
          conv_lhs => rw [← Nat.div_add_mod n 2, Nat.mod_two_ne_one.1 hodd]
          ring
        rw [if_neg hodd, hthrees]
        exact ih hacc hsquare hhalf

end MadeOf

variable (times : UInt32)

theorem madeOf_steppedProduct : MadeOf (times.toNat + 1) (steppedProduct times) := by
  rw [Nat.add_comm]
  exact MadeOf.three.steps times.toNat

theorem madeOf_product : MadeOf (times.toNat + 1) (product times) := by
  have h := MadeOf.three.powerFrom MadeOf.three times.toNat_lt
  rwa [Nat.one_mul, Nat.add_comm] at h

/-- **A product fits into a word up to the power 40.** -/
theorem toNat_steppedProduct_eq_iff :
    (steppedProduct times).toNat = 3 ^ (times.toNat + 1) ↔ times < 40 := by
  rw [(madeOf_steppedProduct times).toNat, UInt32.lt_iff_toNat_lt,
    Nat.mod_eq_iff_lt (by decide)]
  constructor
  · intro h
    by_contra hmany
    have hleast : 3 ^ 41 ≤ 3 ^ (times.toNat + 1) :=
      Nat.pow_le_pow_right (by decide) (Nat.succ_le_succ (Nat.le_of_not_lt hmany))
    omega
  · intro h
    have hgreatest : 3 ^ (times.toNat + 1) ≤ 3 ^ 40 := Nat.pow_le_pow_right (by decide) h
    omega

/-- **The ways to compute a product agree.** The loop comes to the power, as far as it fits into
a word; from the 40th step on it does not fit, and the loop goes on with what does. Whatever
makes, for every number of steps, a word of one three more computes what the loop computes, and
only that; squaring is such a way. So products compose, and all of them are odd. -/
theorem products_agree :
    (∀ times, (steppedProduct times).toNat = 3 ^ (times.toNat + 1) % 2 ^ 64) ∧
    (∀ times, (steppedProduct times).toNat = 3 ^ (times.toNat + 1) ↔ times < 40) ∧
    (∀ compute : UInt32 → UInt64,
      (∀ times, MadeOf (times.toNat + 1) (compute times)) ↔ compute = steppedProduct) ∧
    product = steppedProduct ∧
    (∀ a b sum : UInt32, sum.toNat = a.toNat + b.toNat + 1 →
      steppedProduct sum = steppedProduct a * steppedProduct b) ∧
    ∀ times, steppedProduct times % 2 = 1 := by
  have hagree : ∀ compute : UInt32 → UInt64,
      (∀ times, MadeOf (times.toNat + 1) (compute times)) ↔ compute = steppedProduct := by
    intro compute
    constructor
    · intro h
      funext times
      exact (h times).unique (madeOf_steppedProduct times)
    · rintro rfl
      exact madeOf_steppedProduct
  refine ⟨fun times => (madeOf_steppedProduct times).toNat, toNat_steppedProduct_eq_iff, hagree,
    (hagree product).1 madeOf_product, ?_, fun times => (madeOf_steppedProduct times).odd⟩
  intro a b sum hsum
  have hthrees := (madeOf_steppedProduct a).mul (madeOf_steppedProduct b)
  have hnumber : a.toNat + 1 + (b.toNat + 1) = sum.toNat + 1 := by omega
  rw [hnumber] at hthrees
  exact (madeOf_steppedProduct sum).unique hthrees

/-- A product that wraps, of one that fits and one that fits. -/
theorem products_agree_sixty :
    (60 : UInt32).toNat = (39 : UInt32).toNat + (20 : UInt32).toNat + 1 ∧
      steppedProduct 60 = steppedProduct 39 * steppedProduct 20 :=
  ⟨rfl, products_agree.2.2.2.2.1 39 20 60 rfl⟩

/-- The first product that does not fit. -/
example : (product 40).toNat + 2 ^ 64 = 3 ^ 41 := by decide

end ProfilingTargets.Workload
