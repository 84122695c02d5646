import McKernelTest.Machine.Page
import McKernelTest.Machine.Word
import McKernelTest.Process.Trace
import McKernelTest.Text.Format

/-!
# Looking up pages in `/proc/<pid>/pagemap`

The file has an entry of eight bytes for every page of the process.  `check_page_size`
reads the entry of a page and compares the page size in it with the one that is expected.

A read of an entry delivers its eight bytes or fails.  The position of the read is the one
that `lseek` has set.
-/

namespace McKernelTest.Pagemap

open Machine Process

/-- The calls of the tests that look at the page map, and their accesses to memory. -/
inductive Op where
  | getpid
  | openFile (path : List Char)
  | lseek (fd offset : Int)
  | read (fd position : Int)
  | close (fd : Int)
  | errno
  | printf (format : String) (text : List Char) (values : List Int)
  | calloc (count size : Nat)
  | free (address : Nat)
  | createTempFile (name : String) (size : Nat)
  | mmap (length : Nat) (fd : Int)
  | storeUlong (address value : Nat)
  | storeByte (address : Nat) (value : UInt8)
  | loadByte (address : Nat)
  deriving DecidableEq, Repr

/-- The result of a call.  `calloc` and `mmap` return addresses, and the temporary file has
a path if it could be created. -/
@[reducible]
def Res : Op → Type
  | .getpid | .openFile _ | .lseek _ _ | .close _ | .errno => Int
  | .read _ _ => Option (BitVec 64)
  | .calloc _ _ | .mmap _ _ => Nat
  | .createTempFile _ _ => Option (List Char)
  | .loadByte _ => UInt8
  | .printf _ _ _ | .free _ | .storeUlong _ _ | .storeByte _ _ => Unit

abbrev Program := Code Op Res

abbrev PagemapCall := Call Op Res

/-- `printf` of `errno` behind the name of the file. -/
def printErrno (format : String) (pfname : List Char) : Program Unit := do
  let errno ← .perform Op.errno
  .perform (Op.printf format pfname [errno])

/-- The `snprintf` of the file name, which fits in the buffer. -/
def pfnameOf (pid : Int) : List Char :=
  "/proc/".toList ++ Text.decimalInt pid ++ "/pagemap".toList

/-! ## `check_page_size` -/

/-- The three assignments to `offset`.  The quotient is computed as `unsigned long`. -/
def offsetOf (va : Nat) : Int :=
  let offset := toLong (va &&& pageMask : Nat)
  let offset := toLong (toUlong offset / pageSize : Nat)
  toLong (offset * 8)

/-- `PAGEMAP_PAGE_SHIFT_BITS`. -/
def pagemapPageShiftBits : BitVec 64 := 0x1F80000000000000

/-- The page size of an entry. -/
def pagemapPsize (entry : BitVec 64) : BitVec 64 :=
  1#64 <<< ((entry &&& pagemapPageShiftBits) >>> 55)

/-- `check_page_size` between `open` and `close`. -/
def checkOpened (pfname : List Char) (fd : Int) (va pagesize : Nat) : Program Int := do
  let position ← .perform (Op.lseek fd (offsetOf va))
  if position = -1 then
    printErrno "%s lseek() failed. %d\n" pfname
    return 0
  else
    match ← .perform (Op.read fd (offsetOf va)) with
    | none =>
        let errno ← .perform Op.errno
        .perform (Op.printf "%s offset:%lx read() failed. %d\n" pfname [offsetOf va, errno])
        return 0
    | some entry =>
        if (pagemapPsize entry).toNat = pagesize then
          return 1
        else
          .perform (Op.printf "%s pagesize = 0x%lx, Not as expected.\n" pfname
            [(pagemapPsize entry).toNat])
          return 0

/-- `close` with its message. -/
def closePagemap (pfname : List Char) (fd : Int) : Program Unit := do
  let status ← .perform (Op.close fd)
  if status = -1 then
    printErrno "%s close() failed. %d\n" pfname

/-- `check_page_size`. -/
def checkPageSize (va pagesize : Nat) : Program Int := do
  let pid ← .perform Op.getpid
  let pfname := pfnameOf pid
  let fd ← .perform (Op.openFile pfname)
  if fd = -1 then
    printErrno "%s open() failed. %d\n" pfname
    return 0
  else
    let ret ← checkOpened pfname fd va pagesize
    closePagemap pfname fd
    return ret

/-! ## Entries -/

/-- The page shift in an entry: the bits 55 to 60. -/
def shiftOf (entry : BitVec 64) : Nat :=
  (entry.extractLsb' 55 6).toNat

theorem shiftOf_lt (entry : BitVec 64) : shiftOf entry < 64 :=
  (entry.extractLsb' 55 6).isLt

/-- The page size of an entry is the power of two for its shift. -/
theorem pagemapPsize_toNat (entry : BitVec 64) :
    (pagemapPsize entry).toNat = 2 ^ shiftOf entry := by
  have small := shiftOf_lt entry
  have masked : ((entry &&& pagemapPageShiftBits) >>> 55).toNat = shiftOf entry := by
    rw [BitVec.toNat_ushiftRight, BitVec.toNat_and, Nat.shiftRight_and_distrib, shiftOf,
      BitVec.extractLsb'_toNat]
    exact Nat.and_two_pow_sub_one_eq_mod (entry.toNat >>> 55) 6
  have power : 2 ^ shiftOf entry < 2 ^ 64 := Nat.pow_lt_pow_right (by decide) small
  rw [pagemapPsize, BitVec.shiftLeft_eq', masked, BitVec.toNat_shiftLeft, Nat.shiftLeft_eq]
  simpa using power

theorem pagemapPsize_eq_iff (entry : BitVec 64) (shift : Nat) :
    (pagemapPsize entry).toNat = 2 ^ shift ↔ shiftOf entry = shift := by
  rw [pagemapPsize_toNat]
  exact Nat.pow_right_inj (by decide)

/-- The offset is the one of the entry of the page. -/
theorem offsetOf_eq {va : Nat} (isUlong : va < 2 ^ 64) :
    offsetOf va = 8 * (va / pageSize : Nat) := by
  have quotient : toUlong (toLong (va &&& pageMask : Nat)) / pageSize = va / pageSize := by
    have beginning : va / pageSize * pageSize < 2 ^ 64 :=
      (Nat.div_mul_le_self va pageSize).trans_lt isUlong
    rw [toUlong_toLong, and_pageMask isUlong, toUlong_natCast beginning,
      Nat.mul_div_cancel _ (by decide)]
  have small : va / pageSize < 2 ^ 52 := by
    rw [pageSize_eq]
    omega
  have times {page : Nat} (small : page < 2 ^ 52) :
      toLong (toLong page * 8) = 8 * (page : Int) := by
    have same : toLong (page : Int) = page := toLong_eq_self (by omega) (by omega)
    rw [same, toLong_eq_self (by omega) (by omega), Int.mul_comm]
  rw [offsetOf, quotient, times small]

/-! ## The calls of a probe -/

/-- The operations of a probe of the page at `va`. -/
def ProbeOp (va : Nat) : Op → Prop
  | .getpid | .openFile _ | .close _ | .errno | .printf _ _ _ => True
  | .lseek _ offset => offset = offsetOf va
  | .read _ position => position = offsetOf va
  | .calloc _ _ | .free _ | .createTempFile _ _ | .mmap _ _ | .storeUlong _ _ | .storeByte _ _
  | .loadByte _ => False

theorem uses_checkOpened (pfname : List Char) (fd : Int) (va pagesize : Nat) :
    (checkOpened pfname fd va pagesize).Uses (ProbeOp va) := by
  refine ⟨rfl, fun position => ?_⟩
  change Code.Uses _ (if position = -1 then _ else _)
  split
  · exact ⟨trivial, fun _ => ⟨trivial, fun _ => trivial⟩⟩
  · refine ⟨rfl, fun entry => ?_⟩
    cases entry with
    | none => exact ⟨trivial, fun _ => ⟨trivial, fun _ => trivial⟩⟩
    | some entry =>
        change Code.Uses _ (if (pagemapPsize entry).toNat = pagesize then _ else _)
        split
        · trivial
        · exact ⟨trivial, fun _ => trivial⟩

theorem uses_closePagemap (pfname : List Char) (fd : Int) (va : Nat) :
    (closePagemap pfname fd).Uses (ProbeOp va) := by
  refine ⟨trivial, fun status => ?_⟩
  change Code.Uses _ (if status = -1 then _ else _)
  split
  · exact ⟨trivial, fun _ => ⟨trivial, fun _ => trivial⟩⟩
  · trivial

/-- A probe looks at the entry of its page only. -/
theorem uses_checkPageSize (va pagesize : Nat) : (checkPageSize va pagesize).Uses (ProbeOp va) := by
  refine ⟨trivial, fun pid => ⟨trivial, fun fd => ?_⟩⟩
  change Code.Uses _ (if fd = -1 then _ else _)
  split
  · exact ⟨trivial, fun _ => ⟨trivial, fun _ => trivial⟩⟩
  · refine .bind (uses_checkOpened _ _ _ _) fun ret => ?_
    exact .bind (uses_closePagemap _ _ _) fun _ => trivial

/-- The entry that has been read, if it came to that. -/
def entryRead (calls : List PagemapCall) : Option (BitVec 64) :=
  calls.findSome? fun call => match call with
    | ⟨.read _ _, entry⟩ => entry
    | _ => none

/-- What a probe returns. -/
def verdict (shift : Nat) (entry : Option (BitVec 64)) : Int :=
  if entry.map shiftOf = some shift then 1 else 0

section Verdict

variable {calls others : List PagemapCall} {pfname : List Char} {fd value : Int} {va shift : Nat}

theorem entryRead_append : entryRead (calls ++ others) = (entryRead calls).or (entryRead others) :=
  List.findSome?_append

theorem entryRead_printErrno {format : String}
    (performs : (printErrno format pfname).Performs calls ()) : entryRead calls = none := by
  rcases performs with ⟨errno, _, rfl, _, _, rfl, rfl, -⟩
  rfl

theorem entryRead_closePagemap (performs : (closePagemap pfname fd).Performs calls ()) :
    entryRead calls = none := by
  rcases performs with ⟨status, _, rfl, performs⟩
  change Code.Performs (if status = -1 then _ else _) _ _ at performs
  split at performs
  · have silent := entryRead_printErrno performs
    exact silent
  · rcases performs with ⟨rfl, -⟩
    rfl

theorem verdict_checkOpened
    (performs : (checkOpened pfname fd va (2 ^ shift)).Performs calls value) :
    value = verdict shift (entryRead calls) := by
  rcases performs with ⟨position, _, rfl, performs⟩
  change Code.Performs (if position = -1 then _ else _) _ _ at performs
  split at performs
  · rcases (Code.performs_bind _ _ _ _).mp performs with ⟨printed, _, _, rfl, prints, rfl, rfl⟩
    change 0 = verdict shift (entryRead (printed ++ []))
    rw [List.append_nil, entryRead_printErrno prints]
    rfl
  · rcases performs with ⟨entry, _, rfl, performs⟩
    cases entry with
    | none =>
        rcases performs with ⟨errno, _, rfl, _, _, rfl, rfl, rfl⟩
        rfl
    | some entry =>
        change Code.Performs (if (pagemapPsize entry).toNat = 2 ^ shift then _ else _) _ _
          at performs
        change value = if some (shiftOf entry) = some shift then 1 else 0
        simp only [pagemapPsize_eq_iff] at performs
        simp only [Option.some.injEq]
        split at performs
        · rcases performs with ⟨rfl, rfl⟩
          rw [if_pos ‹_›]
        · rcases performs with ⟨_, _, rfl, rfl, rfl⟩
          rw [if_neg ‹_›]

/-- A probe returns whether the entry that it has read has the shift that is expected. -/
theorem verdict_checkPageSize (performs : (checkPageSize va (2 ^ shift)).Performs calls value) :
    value = verdict shift (entryRead calls) := by
  rcases performs with ⟨pid, _, rfl, fd, _, rfl, performs⟩
  change Code.Performs (if fd = -1 then _ else _) _ _ at performs
  split at performs
  · rcases (Code.performs_bind _ _ _ _).mp performs with ⟨printed, _, _, rfl, prints, rfl, rfl⟩
    change 0 = verdict shift (entryRead (printed ++ []))
    rw [List.append_nil, entryRead_printErrno prints]
    rfl
  · rcases (Code.performs_bind _ _ _ _).mp performs with ⟨opened, _, ret, rfl, checks, ends⟩
    rcases (Code.performs_bind _ _ _ _).mp ends with ⟨closed, _, _, rfl, closes, rfl, rfl⟩
    change ret = verdict shift (entryRead (opened ++ (closed ++ [])))
    rw [List.append_nil, entryRead_append, entryRead_closePagemap closes, Option.or_none]
    exact verdict_checkOpened checks

end Verdict

end McKernelTest.Pagemap
