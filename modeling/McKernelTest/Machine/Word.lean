import Mathlib.Data.Int.Init
import Mathlib.Algebra.Group.Int.Defs
import Mathlib.Algebra.Group.Nat.Defs

/-!
# Conversions between the integer types

C converts silently between signed and unsigned operands.  A value of a signed
type is an integer, a value of an unsigned type a natural number, and every
conversion keeps the value modulo `2 ^ 64`, or modulo `2 ^ 32` for `int`.
-/

namespace McKernelTest.Machine

/-- The conversion to `unsigned long` or `size_t`. -/
def toUlong (value : Int) : Nat :=
  (value % 2 ^ 64).toNat

/-- The conversion to `long`, `ssize_t` or `loff_t`. -/
def toLong (value : Int) : Int :=
  value.bmod (2 ^ 64)

/-- The conversion to `unsigned int`. -/
def toUint (value : Int) : Nat :=
  (value % 2 ^ 32).toNat

/-- The conversion to `int`. -/
def toInt (value : Int) : Int :=
  value.bmod (2 ^ 32)

theorem toUlong_eq_mod (value : Nat) : toUlong value = value % 2 ^ 64 := by
  rw [toUlong]
  omega

theorem toUlong_natCast {value : Nat} (small : value < 2 ^ 64) : toUlong value = value := by
  rw [toUlong_eq_mod, Nat.mod_eq_of_lt small]

/-- The way through the signed type changes nothing. -/
theorem toUlong_toLong (value : Int) : toUlong (toLong value) = toUlong value := by
  have same : value.bmod (2 ^ 64) % 2 ^ 64 = value % 2 ^ 64 := Int.bmod_emod
  rw [toUlong, toLong, same, toUlong]

theorem toLong_eq_self {value : Int} (least : -2 ^ 63 ≤ value) (greatest : value < 2 ^ 63) :
    toLong value = value := by
  apply Int.bmod_eq_of_le <;> omega

theorem toInt_natCast {value : Nat} (small : value < 2 ^ 31) : toInt value = value := by
  apply Int.bmod_eq_of_le <;> omega

end McKernelTest.Machine
