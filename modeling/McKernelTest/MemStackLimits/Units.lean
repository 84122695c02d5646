import McKernelTest.MemStackLimits.Core

/-!
# Sizes in GiB, MiB and KiB

`value_to_unit` is right as long as the number of GiB is an `int`.
-/

namespace McKernelTest.MemStackLimits

open Machine

/-- The bytes that the units stand for. -/
def Units.bytes (units : Units) : Int :=
  units.gib * 0x40000000 + units.mib * 0x100000 + units.kib * 0x400

/-- The units are what a value has of them, up to a part of a KiB. -/
structure Decomposes (value : Nat) (units : Units) : Prop where
  gib_nonneg : 0 ≤ units.gib
  mib_nonneg : 0 ≤ units.mib
  mib_lt : units.mib < 1024
  kib_nonneg : 0 ≤ units.kib
  kib_lt : units.kib < 1024
  bytes_le : units.bytes ≤ value
  lt_bytes : value < units.bytes + 1024

theorem toInt_lt (value : Int) : toInt value < 2 ^ 31 := by
  have bound := Int.bmod_lt (x := value) (m := 2 ^ 32) (by decide)
  exact bound

theorem valueToUnit_gib (value : Nat) :
    (valueToUnit value).gib = toInt ((value / 0x40000000 : Nat) : Int) := by
  rw [valueToUnit]

/-- The loop subtracts a multiple of a GiB. -/
theorem subtractGib_eq {rounds tmpSize : Nat} (enough : rounds * 0x40000000 ≤ tmpSize)
    (isSize : tmpSize < 2 ^ 64) : subtractGib rounds tmpSize = tmpSize - rounds * 0x40000000 := by
  induction rounds generalizing tmpSize with
  | zero => rw [subtractGib, Nat.zero_mul, Nat.sub_zero]
  | succ rounds ih =>
      have others : rounds * 0x40000000 ≤ tmpSize - 0x40000000 :=
        Nat.le_sub_of_add_le (by omega)
      have less : toUlong (tmpSize - 0x40000000) = tmpSize - 0x40000000 := by
        rw [toUlong]
        omega
      rw [subtractGib, less, ih others (by omega), Nat.sub_sub, Nat.add_comm, ← Nat.succ_mul]

/-- Without truncation the units are quotients and remainders. -/
theorem valueToUnit_of_lt {value : Nat} (small : value < 2 ^ 61) :
    valueToUnit value = ⟨(value / 0x40000000 : Nat), (value % 0x40000000 / 0x100000 : Nat),
      (value % 0x100000 / 0x400 : Nat)⟩ := by
  have gibSmall : value / 0x40000000 < 2 ^ 31 := by omega
  have mibSmall : value % 0x40000000 / 0x100000 < 2 ^ 31 := by omega
  have productSmall : value % 0x40000000 / 0x100000 * 0x100000 < 2 ^ 31 := by omega
  have kibSmall : value % 0x100000 / 0x400 < 2 ^ 31 := by omega
  have enough : value / 0x40000000 * 0x40000000 ≤ value := by omega
  have isSize : value < 2 ^ 64 := by omega
  have rest : value - value / 0x40000000 * 0x40000000 = value % 0x40000000 := by omega
  have afterMib :
      toUlong ((value % 0x40000000 : Nat) - (value % 0x40000000 / 0x100000 * 0x100000 : Nat)) =
      value % 0x100000 := by
    rw [toUlong]
    omega
  have afterGib : subtractGib (value / 0x40000000) value = value % 0x40000000 := by
    rw [subtractGib_eq enough isSize, rest]
  have gib : toInt ((value / 0x40000000 : Nat) : Int) = (value / 0x40000000 : Nat) :=
    toInt_natCast gibSmall
  have mib : toInt ((value % 0x40000000 / 0x100000 : Nat) : Int) =
      (value % 0x40000000 / 0x100000 : Nat) :=
    toInt_natCast mibSmall
  have product : toInt ((value % 0x40000000 / 0x100000 : Nat) * 0x100000) =
      (value % 0x40000000 / 0x100000 * 0x100000 : Nat) :=
    toInt_natCast productSmall
  have kib : toInt ((value % 0x100000 / 0x400 : Nat) : Int) = (value % 0x100000 / 0x400 : Nat) :=
    toInt_natCast kibSmall
  simp only [valueToUnit, gib, Int.toNat_natCast, afterGib, mib, product, afterMib, kib]

/-- The decomposition is right exactly below `2 ^ 61`: from there on the number of GiB does
not fit in an `int`. -/
theorem value_to_unit_iff (value : Nat) (isSize : value < 2 ^ 64) :
    Decomposes value (valueToUnit value) ↔ value < 2 ^ 61 := by
  constructor
  · intro decomposes
    have gib : (valueToUnit value).gib < 2 ^ 31 := by
      rw [valueToUnit_gib]
      exact toInt_lt _
    have most := decomposes.lt_bytes
    have mib := decomposes.mib_lt
    have kib := decomposes.kib_lt
    rw [Units.bytes] at most
    omega
  · intro small
    rw [valueToUnit_of_lt small]
    constructor <;> simp only [Units.bytes] <;> omega

/-- Five GiB and a half. -/
theorem value_to_unit_iff_five : Decomposes 0x160000000 (valueToUnit 0x160000000) ↔
    0x160000000 < 2 ^ 61 :=
  value_to_unit_iff 0x160000000 (by decide)

/-- `2 ^ 62` bytes are taken apart into nothing. -/
theorem large_size_lost :
    valueToUnit (2 ^ 62) = ⟨0, 0, 0⟩ ∧ ¬Decomposes (2 ^ 62) (valueToUnit (2 ^ 62)) := by
  have lost : valueToUnit (2 ^ 62) = ⟨0, 0, 0⟩ := by decide
  refine ⟨lost, fun decomposes => ?_⟩
  have most := decomposes.lt_bytes
  rw [lost] at most
  revert most
  decide

end McKernelTest.MemStackLimits
