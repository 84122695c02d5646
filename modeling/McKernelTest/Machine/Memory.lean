import Mathlib.Algebra.Order.Group.Nat
import Mathlib.Data.Nat.Init
import Mathlib.Logic.Function.Basic

/-!
# Words and texts in byte memory

Memory gives a byte for every address.  An unsigned word of `width` bytes is stored with
its lowest byte first.  A word is changed only by stores to its own bytes.  A text ends at
the first zero.
-/

namespace McKernelTest.Machine

/-- The bytes by their addresses. -/
abbrev Memory := Nat → UInt8

namespace Memory

/-- Store one byte. -/
def setByte (memory : Memory) (address : Nat) (byte : UInt8) : Memory :=
  Function.update memory address byte

/-- The word of `width` bytes at an address. -/
def load (memory : Memory) (address : Nat) : Nat → Nat
  | 0 => 0
  | width + 1 => (memory address).toNat + 256 * load memory (address + 1) width

/-- Store a word of `width` bytes at an address. -/
def store (memory : Memory) (address value : Nat) : Nat → Memory
  | 0 => memory
  | width + 1 =>
      store (memory.setByte address (UInt8.ofNat value)) (address + 1) (value / 256) width

/-- `memset`. -/
def memset (memory : Memory) (address : Nat) (byte : UInt8) (size : Nat) : Memory :=
  fun index => if address ≤ index ∧ index < address + size then byte else memory index

variable {memory : Memory} {address index value width : Nat}

theorem store_outside (outside : index < address ∨ address + width ≤ index) :
    memory.store address value width index = memory index := by
  induction width generalizing memory address value with
  | zero => rfl
  | succ width ih =>
      have different : index ≠ address := by omega
      rw [store, ih (by omega), setByte, Function.update_of_ne different]

/-- A store to another byte leaves a word alone. -/
theorem load_setByte (byte : UInt8) (outside : index < address ∨ address + width ≤ index) :
    (memory.setByte index byte).load address width = memory.load address width := by
  induction width generalizing address with
  | zero => rfl
  | succ width ih =>
      have different : address ≠ index := by omega
      rw [load, load, ih (by omega), setByte, Function.update_of_ne different]

/-- What has been stored is loaded again. -/
theorem load_store :
    (memory.store address value width).load address width = value % 256 ^ width := by
  induction width generalizing memory address value with
  | zero => rw [load, Nat.pow_zero, Nat.mod_one]
  | succ width ih =>
      have lowest : (memory.setByte address (UInt8.ofNat value)).store (address + 1)
          (value / 256) width address = UInt8.ofNat value := by
        rw [store_outside (Or.inl (Nat.lt_succ_self address)), setByte, Function.update_self]
      have digits : value % 256 ^ (width + 1) =
          value % 256 + 256 * (value / 256 % 256 ^ width) := by
        rw [Nat.pow_succ', Nat.mod_mul]
      rw [store, load, ih, lowest, digits, UInt8.toNat_ofNat']

/-! ## Texts -/

/-- Perform stores of bytes, each with its address. -/
def storeAll (memory : Memory) (stores : List (UInt8 × Nat)) : Memory :=
  stores.foldl (fun memory store => memory.setByte store.2 store.1) memory

/-- The text that begins at an address. -/
def HasText (memory : Memory) (address : Nat) : List UInt8 → Prop
  | [] => memory address = 0
  | byte :: text => byte ≠ 0 ∧ memory address = byte ∧ memory.HasText (address + 1) text

theorem storeAll_before {bytes : List UInt8} (before : index < address) :
    memory.storeAll (bytes.zipIdx address) index = memory index := by
  induction bytes generalizing memory address with
  | nil => rfl
  | cons byte bytes ih =>
      rw [List.zipIdx_cons, storeAll, List.foldl_cons, ← storeAll, ih (by omega), setByte,
        Function.update_of_ne before.ne]

/-- Bytes with a zero behind them, stored one after the other, make a text. -/
theorem hasText_storeAll (bytes : List UInt8) :
    (memory.storeAll ((bytes ++ [0]).zipIdx address)).HasText address
      (bytes.takeWhile (· ≠ 0)) := by
  induction bytes generalizing memory address with
  | nil => exact Function.update_self address 0 memory
  | cons byte bytes ih =>
      have here : memory.storeAll ((byte :: bytes ++ [0]).zipIdx address) address = byte := by
        rw [List.cons_append, List.zipIdx_cons, storeAll, List.foldl_cons, ← storeAll,
          storeAll_before (Nat.lt_succ_self address), setByte, Function.update_self]
      by_cases zero : byte = 0
      · rw [List.takeWhile_cons_of_neg (by simpa using zero)]
        exact here.trans zero
      · rw [List.takeWhile_cons_of_pos (by simpa using zero)]
        exact ⟨zero, here, ih⟩

end Memory

end McKernelTest.Machine
