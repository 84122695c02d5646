import McKernelTest.Pagemap.Core

/-!
# `procfs#8`

The test allocates a page, writes to it and dumps its entry in the page map.  It multiplies
the address by eight before it divides by the page size, so that the offset depends on the
position of the address in its page.
-/

namespace McKernelTest.Procfs

open Machine Pagemap Process

/-- The value of `offset`.  The product is computed as `off_t`, the quotient as
`unsigned long`. -/
def procfs8Offset (buf1 : Nat) : Int :=
  toLong (toUlong (toLong (toLong buf1 * 8)) / pageSize : Nat)

/-- The message with `errno` of an error case. -/
def printFailure (format : String) : Program Unit := do
  let errno ← .perform Op.errno
  .perform (Op.printf format [] [errno])

/-- The error cases from `open_err` on. -/
def failed (buf1 : Nat) : Program (Option String) := do
  .perform (Op.free buf1)
  return some "TP failed."

/-- The error cases from `lseek_err` on. -/
def failedOpen (fd : Int) (buf1 : Nat) : Program (Option String) := do
  let status ← .perform (Op.close fd)
  if status = -1 then
    printFailure "close() failed. %d\n"
  failed buf1

/-- The run function with the file open. -/
def dumpEntry (pfname : List Char) (fd : Int) (buf1 : Nat) : Program (Option String) := do
  let ret ← .perform (Op.lseek fd (procfs8Offset buf1))
  if ret = -1 then
    printFailure "lseek() failed. %d\n"
    failedOpen fd buf1
  else
    match ← .perform (Op.read fd (procfs8Offset buf1)) with
    | none =>
        printFailure "read() failed. %d\n"
        failedOpen fd buf1
    | some buf2 =>
        .perform (Op.printf "dump %s(offset:%#016lx):%#016lx\n" pfname
          [procfs8Offset buf1, buf2.toNat])
        let status ← .perform (Op.close fd)
        if status = -1 then
          printFailure "close() failed. %d\n"
          failed buf1
        else
          .perform (Op.free buf1)
          return some "you need check McKernel Log & Dump PAGEMAP."

/-- The run function. -/
def procfs8RunFunc : Program (Option String) := do
  let pid ← .perform Op.getpid
  let buf1 ← .perform (Op.calloc pageSize 1)
  if buf1 = 0 then
    return some "calloc failed."
  else
    .perform (Op.printf "allocated: %#016lx\n" [] [toLong buf1])
    .perform (Op.storeUlong buf1 0xffffffffffffff)
    let fd ← .perform (Op.openFile (pfnameOf pid))
    if fd = -1 then
      printFailure "open() failed. %d\n"
      failed buf1
    else
      dumpEntry (pfnameOf pid) fd buf1

/-! ## The offset -/

theorem procfs8Offset_eq {va : Nat} (isUser : va < 2 ^ 47) :
    procfs8Offset va = (va / 512 : Nat) := by
  have address : toLong (va : Int) = va := toLong_eq_self (by omega) (by omega)
  have product : toLong ((va : Int) * 8) = (va * 8 : Nat) := toLong_eq_self (by omega) (by omega)
  have quotient : va * 8 / pageSize = va / 512 := by
    rw [pageSize_eq]
    omega
  rw [procfs8Offset, address, product, toUlong_natCast (by omega), quotient]
  exact toLong_eq_self (by omega) (by omega)

/-- The offset is the one of an entry only in the first eighth of a page. -/
theorem procfs8Offset_eq_iff {va : Nat} (isUser : va < 2 ^ 47) :
    procfs8Offset va = 8 * (va / pageSize : Nat) ↔ va % pageSize < 512 := by
  rw [procfs8Offset_eq isUser, pageSize_eq]
  omega

/-! ## The traces -/

/-- The operations after the allocation: every offset in use is the given one. -/
def AtOffset (offset : Int) : Op → Prop
  | .lseek _ other => other = offset
  | .read _ other => other = offset
  | .calloc _ _ => False
  | _ => True

theorem uses_failedOpen (fd : Int) (buf1 : Nat) (offset : Int) :
    (failedOpen fd buf1).Uses (AtOffset offset) := by
  refine ⟨trivial, fun status => ?_⟩
  change Code.Uses _ (if status = -1 then _ else _)
  split
  · exact ⟨trivial, fun _ => ⟨trivial, fun _ => ⟨trivial, fun _ => trivial⟩⟩⟩
  · exact ⟨trivial, fun _ => trivial⟩

theorem uses_dumpEntry (pfname : List Char) (fd : Int) (buf1 : Nat) :
    (dumpEntry pfname fd buf1).Uses (AtOffset (procfs8Offset buf1)) := by
  refine ⟨rfl, fun ret => ?_⟩
  change Code.Uses _ (if ret = -1 then _ else _)
  split
  · exact .bind ⟨trivial, fun _ => ⟨trivial, fun _ => trivial⟩⟩ fun _ => uses_failedOpen _ _ _
  · refine ⟨rfl, fun entry => ?_⟩
    cases entry with
    | none =>
        change Code.Uses _ (printFailure "read() failed. %d\n" >>= fun _ => failedOpen fd buf1)
        exact .bind ⟨trivial, fun _ => ⟨trivial, fun _ => trivial⟩⟩ fun _ => uses_failedOpen _ _ _
    | some buf2 =>
        refine ⟨trivial, fun _ => ⟨trivial, fun status => ?_⟩⟩
        change Code.Uses _ (if status = -1 then _ else _)
        split
        · exact ⟨trivial, fun _ => ⟨trivial, fun _ => ⟨trivial, fun _ => trivial⟩⟩⟩
        · exact ⟨trivial, fun _ => trivial⟩

/-- Every offset in a run that has been given its buffer at `va`. -/
theorem offset_of_performs {va : Nat} {calls : List PagemapCall} {value : Option String}
    (performs : procfs8RunFunc.Performs calls value)
    (allocated : ⟨.calloc pageSize 1, va⟩ ∈ calls) {fd offset : Int} {result : Int}
    (seek : ⟨.lseek fd offset, result⟩ ∈ calls) : offset = procfs8Offset va := by
  rcases performs with ⟨pid, _, rfl, buf1, rest, rfl, performs⟩
  have uses : ∀ call ∈ rest, AtOffset (procfs8Offset buf1) call.op := by
    refine Code.Uses.of_performs ?_ performs
    change Code.Uses _ (if buf1 = 0 then _ else _)
    split
    · trivial
    · refine ⟨trivial, fun _ => ⟨trivial, fun _ => ⟨trivial, fun fd => ?_⟩⟩⟩
      change Code.Uses _ (if fd = -1 then _ else _)
      split
      · exact ⟨trivial, fun _ => ⟨trivial, fun _ => ⟨trivial, fun _ => trivial⟩⟩⟩
      · exact uses_dumpEntry _ _ _
  simp only [List.mem_cons, Call.mk.injEq, reduceCtorEq, false_and, false_or] at allocated seek
  rcases allocated with ⟨-, same⟩ | later
  · rw [eq_of_heq same]
    exact uses _ seek
  · exact (uses _ later).elim

/-- A run that comes to `lseek`, with the buffer at `va`. -/
theorem exists_seek {va : Nat} (nonzero : va ≠ 0) :
    ∃ calls value, procfs8RunFunc.Performs calls value ∧ ⟨.calloc pageSize 1, va⟩ ∈ calls ∧
      ⟨.lseek 3 (procfs8Offset va), -1⟩ ∈ calls := by
  have performs : procfs8RunFunc.Performs
      [⟨.getpid, 7⟩, ⟨.calloc pageSize 1, va⟩, ⟨.printf "allocated: %#016lx\n" [] [toLong va], ()⟩,
        ⟨.storeUlong va 0xffffffffffffff, ()⟩, ⟨.openFile (pfnameOf 7), 3⟩,
        ⟨.lseek 3 (procfs8Offset va), -1⟩, ⟨.errno, 22⟩,
        ⟨.printf "lseek() failed. %d\n" [] [22], ()⟩, ⟨.close 3, 0⟩, ⟨.free va, ()⟩]
      (some "TP failed.") := by
    refine ⟨7, _, rfl, va, _, rfl, ?_⟩
    change Code.Performs (if va = 0 then _ else _) _ _
    rw [if_neg nonzero]
    exact ⟨(), _, rfl, (), _, rfl, 3, _, rfl, -1, _, rfl, 22, _, rfl, (), _, rfl, 0, _, rfl, (), _,
      rfl, rfl, rfl⟩
  exact ⟨_, _, performs, by simp, by simp⟩

/-! ## Comparison -/

/-- Both tests look for the entry of the page of `va` at its place. -/
structure SameOffset (va : Nat) : Prop where
  checkPageSize : ∀ pagesize calls value, (checkPageSize va pagesize).Performs calls value →
    ∀ fd offset result : Int, ⟨.lseek fd offset, result⟩ ∈ calls →
      offset = 8 * (va / pageSize : Nat)
  procfs8 : ∀ calls value, procfs8RunFunc.Performs calls value →
    ⟨.calloc pageSize 1, va⟩ ∈ calls →
    ∀ fd offset result : Int, ⟨.lseek fd offset, result⟩ ∈ calls →
      offset = 8 * (va / pageSize : Nat)

/-- The offsets agree exactly if `va` lies in the first eighth of its page. -/
theorem same_offset_iff (va : Nat) (isUser : va < 2 ^ 47) :
    SameOffset va ↔ va % pageSize < 512 := by
  constructor
  · intro same
    by_cases zero : va = 0
    · rw [zero]
      decide
    · rcases exists_seek zero with ⟨calls, value, performs, allocated, seek⟩
      exact (procfs8Offset_eq_iff isUser).mp
        (same.procfs8 calls value performs allocated _ _ _ seek)
  · intro first
    refine ⟨fun pagesize calls value performs fd offset result seek => ?_,
      fun calls value performs allocated fd offset result seek => ?_⟩
    · have isOffset := (uses_checkPageSize va pagesize).of_performs performs _ seek
      rw [← offsetOf_eq (by omega)]
      exact isOffset
    · rw [offset_of_performs performs allocated seek]
      exact (procfs8Offset_eq_iff isUser).mpr first

/-- A buffer near the beginning of a page. -/
theorem same_offset_iff_header : SameOffset 0x602010 ↔ 0x602010 % pageSize < 512 :=
  same_offset_iff 0x602010 (by decide)

/-- With the buffer at 0x602260, the test seeks into the middle of an entry. -/
theorem middle_of_entry : ¬SameOffset 0x602260 := by
  intro same
  have nonzero : 0x602260 ≠ 0 := by decide
  rcases exists_seek nonzero with ⟨calls, value, performs, allocated, seek⟩
  have place := same.procfs8 calls value performs allocated _ _ _ seek
  revert place
  decide

end McKernelTest.Procfs
