import Mathlib.Data.Nat.Init
import Mathlib.Algebra.Order.Group.Nat

/-!
# Masks and alignment

An address is aligned by masking its low bits.  With a power of two as the size this is
rounding to a multiple, as long as nothing wraps around in the 64 bits.
-/

namespace McKernelTest.Machine

/-- The complement of an `unsigned long`. -/
def complement (value : Nat) : Nat :=
  2 ^ 64 - 1 - value

/-- Clear the bits below the size. -/
def alignDown (addr size : Nat) : Nat :=
  addr &&& complement (size - 1)

/-- Go on to the next multiple of the size. -/
def alignUp (addr size : Nat) : Nat :=
  alignDown ((addr + size - 1) % 2 ^ 64) size

variable {addr bits : Nat}

theorem alignDown_two_pow (isUlong : addr < 2 ^ 64) (small : bits ≤ 64) :
    alignDown addr (2 ^ bits) = addr / 2 ^ bits * 2 ^ bits := by
  have positive : 0 < 2 ^ bits := Nat.two_pow_pos bits
  have most : 2 ^ bits ≤ 2 ^ 64 := Nat.pow_le_pow_right (by decide) small
  have mask : complement (2 ^ bits - 1) = 2 ^ 64 - (2 ^ bits - 1 + 1) := by
    rw [complement]
    omega
  apply Nat.eq_of_testBit_eq
  intro i
  rw [alignDown, mask, Nat.testBit_and, Nat.testBit_two_pow_sub_succ (by omega),
    Nat.testBit_two_pow_sub_one, Nat.testBit_mul_two_pow, Nat.testBit_div_two_pow]
  by_cases low : i < bits
  · simp [low, low.not_ge]
  · have high : bits ≤ i := Nat.le_of_not_lt low
    rw [Nat.sub_add_cancel high]
    by_cases inside : i < 64
    · simp [low, high, inside]
    · have absent : addr.testBit i = false :=
        Nat.testBit_lt_two_pow (isUlong.trans_le (Nat.pow_le_pow_right (by decide) (by omega)))
      simp [absent]

/-- Aligning up rounds to the next multiple. -/
theorem alignUp_two_pow (fits : addr + 2 ^ bits ≤ 2 ^ 64) (small : bits ≤ 64) :
    alignUp addr (2 ^ bits) = (addr + 2 ^ bits - 1) / 2 ^ bits * 2 ^ bits := by
  have positive : 0 < 2 ^ bits := Nat.two_pow_pos bits
  have isUlong : addr + 2 ^ bits - 1 < 2 ^ 64 := by omega
  rw [alignUp, Nat.mod_eq_of_lt isUlong, alignDown_two_pow isUlong small]

end McKernelTest.Machine
