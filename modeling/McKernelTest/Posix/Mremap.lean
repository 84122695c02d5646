import McKernelTest.Posix.AddressSpace
import Mathlib.Logic.Basic

/-!
# `mremap`

A mapping can be longer than the object behind it.  Its bytes behind the end of the object
are mapped, but an access finds nothing there.  `mremap` makes a mapping shorter or longer
and moves it if need be; what it has been asked for and what lies around the mapping decide
where it may go, or why the call has to be refused.  In every case the effect is the same:
the bytes are found at the new place, and what is left of the old place is unmapped.
-/

namespace McKernelTest.Posix

/-- What an access can fail with. -/
inductive Fault where
  | segv
  | bus
  deriving DecidableEq, Repr

/-- The mapped bytes, and which of them lie behind the end of their object. -/
structure Mappings where
  space : AddressSpace
  beyond : Nat → Bool

namespace Mappings

/-- What an access finds that needs a protection. -/
def access (memory : Mappings) (prot : BitVec 32) (address : Nat) : Except Fault Cell :=
  match memory.space address with
  | none => .error .segv
  | some cell =>
      if cell.prot &&& prot = 0 then .error .segv
      else if memory.beyond address then .error .bus
      else .ok cell

/-- The bytes that can be accessed. -/
def accessible (memory : Mappings) : AddressSpace :=
  fun address => if memory.beyond address then none else memory.space address

/-- All bytes of a range are mapped. -/
def Mapped (memory : Mappings) (start length : Nat) : Prop :=
  ∀ address, InRange start length address → (memory.space address).isSome = true

/-- No byte of a range is mapped. -/
def Free (memory : Mappings) (start length : Nat) : Prop :=
  ∀ address, InRange start length address → memory.space address = none

/-- The mapping of `oldSize` bytes at `source` becomes one of `newSize` bytes at `target`.  New
bytes are like the first one; in a shared mapping they lie behind the end of the object. -/
def relocate (memory : Mappings) (source oldSize target newSize : Nat) : Mappings where
  space address :=
    if InRange target newSize address then
      if address - target < oldSize then memory.space (source + (address - target))
      else (memory.space source).map ({ · with value := 0 })
    else if InRange source oldSize address then none
    else memory.space address
  beyond address :=
    if InRange target newSize address then
      if address - target < oldSize then memory.beyond (source + (address - target))
      else (memory.space source).any (·.shared)
    else memory.beyond address

section Relocate

variable {memory : Mappings} {source oldSize target newSize : Nat}

/-- The old bytes are found at the new place. -/
theorem relocate_moved (memory : Mappings) (source target : Nat) {offset : Nat}
    (old : offset < oldSize) (new : offset < newSize) :
    (memory.relocate source oldSize target newSize).space (target + offset) =
        memory.space (source + offset) ∧
      (memory.relocate source oldSize target newSize).beyond (target + offset) =
        memory.beyond (source + offset) := by
  have inside : InRange target newSize (target + offset) :=
    ⟨Nat.le_add_right _ _, Nat.add_lt_add_left new target⟩
  simp [relocate, inside, old]

/-- The bytes by which the mapping has become longer. -/
theorem relocate_fresh (target : Nat) {offset : Nat} {cell : Cell}
    (first : memory.space source = some cell)
    (old : oldSize ≤ offset) (new : offset < newSize) :
    (memory.relocate source oldSize target newSize).space (target + offset) =
        some { cell with value := 0 } ∧
      (memory.relocate source oldSize target newSize).beyond (target + offset) = cell.shared := by
  have inside : InRange target newSize (target + offset) :=
    ⟨Nat.le_add_right _ _, Nat.add_lt_add_left new target⟩
  simp [relocate, inside, Nat.not_lt.mpr old, first]

/-- What is left of the old place is unmapped. -/
theorem relocate_left {address : Nat} (old : InRange source oldSize address)
    (outside : ¬InRange target newSize address) :
    (memory.relocate source oldSize target newSize).space address = none := by
  simp [relocate, old, outside]

/-- Everything else stays. -/
theorem relocate_outside {address : Nat} (outsideOld : ¬InRange source oldSize address)
    (outsideNew : ¬InRange target newSize address) :
    (memory.relocate source oldSize target newSize).space address = memory.space address ∧
      (memory.relocate source oldSize target newSize).beyond address = memory.beyond address := by
  simp [relocate, outsideOld, outsideNew]

end Relocate

end Mappings

/-- The arguments of `mremap`. -/
structure MremapCall where
  oldAddress : Nat
  oldSize : Nat
  newSize : Nat
  flags : BitVec 32
  newAddress : Nat

/-- `MREMAP_MAYMOVE`. -/
def mremapMaymove : BitVec 32 := 1

/-- `MREMAP_FIXED`. -/
def mremapFixed : BitVec 32 := 2

/-- The errors of `mremap`. -/
inductive MremapError where
  | efault
  | einval
  | enomem
  deriving DecidableEq, Repr

/-- The value of `errno`. -/
def MremapError.code : MremapError → Int
  | .enomem => 12
  | .efault => 14
  | .einval => 22

namespace MremapCall

variable (call : MremapCall) (memory : Mappings)

def MayMove : Prop := call.flags &&& mremapMaymove ≠ 0

def IsFixed : Prop := call.flags &&& mremapFixed ≠ 0

instance : Decidable call.MayMove := inferInstanceAs (Decidable (_ ≠ _))

instance : Decidable call.IsFixed := inferInstanceAs (Decidable (_ ≠ _))

/-- The old and the new place have no byte in common. -/
def Disjoint : Prop :=
  call.oldAddress + call.oldSize ≤ call.newAddress ∨
    call.newAddress + call.newSize ≤ call.oldAddress

instance : Decidable call.Disjoint := inferInstanceAs (Decidable (_ ∨ _))

/-- There is room for the bytes by which the mapping becomes longer. -/
def RoomBehind : Prop :=
  memory.Free (call.oldAddress + call.oldSize) (call.newSize - call.oldSize)

/-- Where the mapping has to go, or the error of the call. -/
inductive Answer where
  | place (target : Nat)
  | anywhere
  | refused (error : MremapError)

open Classical in
/-- The answer to a call. -/
noncomputable def answer (pageSize : Nat) : Answer :=
  if call.IsFixed then
    if ¬call.MayMove ∨ call.newAddress % pageSize ≠ 0 ∨ ¬call.Disjoint then .refused .einval
    else if ¬memory.Mapped call.oldAddress call.oldSize then .refused .efault
    else .place call.newAddress
  else if call.newSize ≤ call.oldSize then .place call.oldAddress
  else if ¬memory.Mapped call.oldAddress call.oldSize then .refused .efault
  else if call.RoomBehind memory then .place call.oldAddress
  else if call.MayMove then .anywhere
  else .refused .enomem

/-- What the call may return, and the memory it leaves. -/
def Conforms (pageSize : Nat) (result : Except Int Nat × Mappings) : Prop :=
  match call.answer memory pageSize with
  | .place target =>
      result = (.ok target, memory.relocate call.oldAddress call.oldSize target call.newSize)
  | .anywhere => ∃ target, 0 < target ∧ target % pageSize = 0 ∧ memory.Free target call.newSize ∧
      result = (.ok target, memory.relocate call.oldAddress call.oldSize target call.newSize)
  | .refused error => result = (.error error.code, memory)

section Answers

variable {call memory} {pageSize : Nat}

/-- A mapping that does not become longer stays where it is. -/
theorem answer_of_shorter (notFixed : ¬call.IsFixed) (shorter : call.newSize ≤ call.oldSize) :
    call.answer memory pageSize = .place call.oldAddress := by
  rw [answer, if_neg notFixed, if_pos shorter]

/-- A mapping with room behind it grows where it is. -/
theorem answer_of_room (notFixed : ¬call.IsFixed)
    (mapped : memory.Mapped call.oldAddress call.oldSize) (room : call.RoomBehind memory) :
    call.answer memory pageSize = .place call.oldAddress := by
  rw [answer, if_neg notFixed, if_neg (not_not.mpr mapped), if_pos room, ite_self]

/-- A mapping without room behind it moves if it may. -/
theorem answer_of_noRoom (notFixed : ¬call.IsFixed) (longer : call.oldSize < call.newSize)
    (mapped : memory.Mapped call.oldAddress call.oldSize) (noRoom : ¬call.RoomBehind memory) :
    call.answer memory pageSize = if call.MayMove then .anywhere else .refused .enomem := by
  rw [answer, if_neg notFixed, if_neg (Nat.not_le.mpr longer), if_neg (not_not.mpr mapped),
    if_neg noRoom]

/-- A mapping moves to a fixed address unless it would overlap itself. -/
theorem answer_of_fixed (isFixed : call.IsFixed) (mayMove : call.MayMove)
    (aligned : call.newAddress % pageSize = 0)
    (mapped : memory.Mapped call.oldAddress call.oldSize) :
    call.answer memory pageSize =
      if call.Disjoint then .place call.newAddress else .refused .einval := by
  rw [answer, if_pos isFixed]
  by_cases disjoint : call.Disjoint
  · rw [if_neg (by simp [mayMove, aligned, disjoint]), if_neg (not_not.mpr mapped), if_pos disjoint]
  · rw [if_pos (Or.inr (Or.inr disjoint)), if_neg disjoint]

end Answers

end MremapCall

end McKernelTest.Posix
