import Mathlib.Data.Nat.Init

/-!
# Address spaces

An address space says for every address whether a byte is mapped there, with
which protection and sharing, and what it holds.  Every operation replaces what
lies in one range and leaves the rest, so the laws of `overwrite` are the laws of
all of them.
-/

namespace McKernelTest.Posix

/-- A mapped byte. -/
structure Cell where
  prot : BitVec 32
  shared : Bool
  value : UInt8
  deriving DecidableEq

/-- The mapped bytes by their addresses. -/
abbrev AddressSpace := Nat → Option Cell

/-- The address lies in the range of `length` bytes from `start` on. -/
def InRange (start length address : Nat) : Prop :=
  start ≤ address ∧ address < start + length

instance (start length address : Nat) : Decidable (InRange start length address) :=
  inferInstanceAs (Decidable (_ ∧ _))

/-- The kernel maps and unmaps whole pages. -/
def roundUp (pageSize length : Nat) : Nat :=
  (length + (pageSize - 1)) / pageSize * pageSize

namespace AddressSpace

/-- Replace what lies in a range. -/
def overwrite (space : AddressSpace) (start length : Nat) (contents : AddressSpace) :
    AddressSpace :=
  fun address => if InRange start length address then contents address else space address

/-- An anonymous mapping at a fixed address, filled with zeros. -/
def mapFixed (pageSize : Nat) (space : AddressSpace) (start length : Nat) (prot : BitVec 32)
    (shared : Bool) : AddressSpace :=
  space.overwrite start (roundUp pageSize length) fun _ => some ⟨prot, shared, 0⟩

/-- `munmap`. -/
def unmap (pageSize : Nat) (space : AddressSpace) (start length : Nat) : AddressSpace :=
  space.overwrite start (roundUp pageSize length) fun _ => none

/-- `memset` on mapped bytes. -/
def memset (space : AddressSpace) (start length : Nat) (value : UInt8) : AddressSpace :=
  space.overwrite start length fun address =>
    (space address).map fun cell => { cell with value := value }

variable {space contents : AddressSpace} {start length address : Nat}

theorem overwrite_inside (inside : InRange start length address) :
    space.overwrite start length contents address = contents address :=
  if_pos inside

theorem overwrite_outside (outside : ¬InRange start length address) :
    space.overwrite start length contents address = space address :=
  if_neg outside

end AddressSpace

theorem roundUp_eq_self {pageSize length : Nat} (whole : length % pageSize = 0) :
    roundUp pageSize length = length := by
  obtain ⟨pages, rfl⟩ := Nat.dvd_of_mod_eq_zero whole
  rcases Nat.eq_zero_or_pos pageSize with rfl | positive
  · simp [roundUp]
  · have quotient : (pageSize * pages + (pageSize - 1)) / pageSize = pages := by
      rw [Nat.mul_add_div positive, Nat.div_eq_of_lt (by omega), Nat.add_zero]
    rw [roundUp, quotient, Nat.mul_comm]

end McKernelTest.Posix
