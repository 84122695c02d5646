import Mathlib.Data.List.Basic

/-!
# CPU sets of a dynamic size

A set is an array of 64-bit words.  `CPU_SET_S` silently ignores a CPU that lies outside
the array.
-/

namespace McKernelTest.Posix

/-- The words of a `cpu_set_t`. -/
abbrev CpuSet := List (BitVec 64)

namespace CpuSet

/-- `CPU_ALLOC_SIZE`: the bytes of a set for the given number of CPUs. -/
def allocSize (count : Nat) : Nat :=
  (count + 63) / 64 * 8

/-- `CPU_ZERO_S` on a set that `CPU_ALLOC` has returned. -/
def zero (size : Nat) : CpuSet :=
  List.replicate (size / 8) 0

/-- `CPU_SET_S`. -/
def set (cpu size : Nat) (cpus : CpuSet) : CpuSet :=
  if cpu / 8 < size then cpus.modify (cpu / 64) fun word => word ||| 1#64 <<< (cpu % 64) else cpus

/-- `CPU_ISSET`. -/
def IsSet (cpu : Nat) (cpus : CpuSet) : Prop :=
  ∃ word, cpus[cpu / 64]? = some word ∧ word.getLsbD (cpu % 64) = true

/-- A word with one bit. -/
theorem getLsbD_bit {bit : Nat} (small : bit < 64) (other : Nat) :
    (1#64 <<< bit).getLsbD other = true ↔ other = bit := by
  rw [BitVec.getLsbD_shiftLeft, BitVec.getLsbD_one]
  simp only [Bool.and_eq_true, decide_eq_true_eq, Bool.not_eq_true', decide_eq_false_iff_not]
  omega

/-- A set with one CPU. -/
theorem isSet_set_zero {count cpu : Nat} (known : cpu < count) (other : Nat) :
    IsSet other (set cpu (allocSize count) (zero (allocSize count))) ↔ other = cpu := by
  have inside : cpu / 8 < allocSize count := by
    rw [allocSize]
    omega
  have words : cpu / 64 < allocSize count / 8 := by
    rw [allocSize]
    omega
  have word : (set cpu (allocSize count) (zero (allocSize count)))[other / 64]? =
      if other / 64 < allocSize count / 8 then
        some (if cpu / 64 = other / 64 then 1#64 <<< (cpu % 64) else 0)
      else none := by
    rw [set, if_pos inside, zero, List.getElem?_modify, List.getElem?_replicate]
    split <;> simp
  rw [IsSet, word]
  by_cases same : cpu / 64 = other / 64
  · rw [if_pos same, if_pos (same ▸ words)]
    simp only [Option.some.injEq, exists_eq_left']
    rw [getLsbD_bit (Nat.mod_lt _ (by decide))]
    omega
  · have differ : other ≠ cpu := by
      rintro rfl
      exact same rfl
    rw [if_neg same]
    split <;> simp [differ]

end CpuSet

end McKernelTest.Posix
