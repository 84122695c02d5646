import McKernelTest.Driver.MmapDev2
import McKernelTest.Posix.Mapping

/-!
# `mmap_dev#1` and `mmap_dev#2`

Both tests reset the buffer of `mmap_dev2`, map the device, store one byte in
every page of the mapping and compare all pages with the pattern they expect.
The first test maps the device privately and compares what it has written; the
second maps it twice and looks at the stores of one mapping through the other.

A test runs on the devices of the driver.  It ends with the message of the
assertion that failed, with NULL, or with a signal if an access finds no page.
-/

namespace McKernelTest.MmapDev

open Driver Machine Posix

/-- The devices of the driver. -/
abbrev Devs := DevPtr → TestMckDev

/-- How a test can end before its last line. -/
inductive Failure where
  | assertion (message : String)
  | killed
  deriving DecidableEq, Repr

/-- A test: the devices are changed also when it fails. -/
abbrev Test := ExceptT Failure (StateM Devs)

/-- `tp_assert`. -/
def tpAssert (test : Bool) (message : String) : Test Unit :=
  if test then pure () else throw (.assertion message)

/-- What the kernel answers: the device behind a path, the page at which it places
each mapping, and the results of `munmap`. -/
structure Answers where
  openNode : List Char → Option DevPtr
  mmapPlace : Option Nat
  peekPlace : Option Nat
  munmap : Int
  peekMunmap : Int

/-- `PAGE_ALIGN` in pages. -/
def pagesFor (size : Nat) : Nat :=
  toUlong (size + pageSize - 1) / pageSize

/-- The bytes of a device's buffer. -/
def bufferOf (dev : TestMckDev) : Memory :=
  dev.privateData.elim (fun _ => 0) VmallocArea.data

/-- The device with other bytes in its buffer. -/
def withBuffer (dev : TestMckDev) (bytes : Memory) : TestMckDev :=
  { dev with privateData := dev.privateData.map fun area => { area with data := bytes } }

/-! ## System calls -/

/-- `open`, with the driver's part of it. -/
def openDev (answers : Answers) (path : List Char) : Test (Option File) :=
  match answers.openNode path with
  | none => pure none
  | some dev =>
      let (res, file) := testMckMmapDev2Open dev ⟨none⟩
      pure (if res = 0 then some file else none)

/-- `ioctl`, which turns an error of the driver into -1. -/
def ioctl (file : File) (iocmd : Nat) : Test Int := do
  let devs ← get
  match testMckMmapDev2Ioctl devs file iocmd with
  | none => throw .killed
  | some (res, devs) =>
      set devs
      pure (if res < 0 then -1 else res)

/-- A mapping of the device: the area that the kernel keeps for it, and the page
table. -/
structure Region where
  vma : VmArea
  mapping : Mapping

/-- The area for a mapping of the given length at offset 0. -/
def areaAt (place pages : Nat) (nonempty : 0 < pages) (fits : (place + pages) * pageSize ≤ 2 ^ 64) :
    VmArea where
  vmStart := place * pageSize
  vmEnd := (place + pages) * pageSize
  vmPgoff := 0
  vmPrivateData := none
  vmOps := none
  ordered := Nat.mul_lt_mul_of_pos_right (Nat.lt_add_of_pos_right nonempty) (by decide)
  fits := fits
  startAligned := Nat.dvd_mul_left ..
  endAligned := Nat.dvd_mul_left ..

/-- `mmap` at offset 0, with the driver's part of it. -/
def mmap (place : Option Nat) (file : File) (size : Nat) (shared : Bool) : Test (Option Region) :=
  match place with
  | none => pure none
  | some place =>
      if valid : 0 < pagesFor size ∧ (place + pagesFor size) * pageSize ≤ 2 ^ 64 then
        let (res, vma) := testMckMmapDev2Mmap file (areaAt place (pagesFor size) valid.1 valid.2)
        pure (if res = 0 then some ⟨vma, .fresh vma.vmStart vma.pages shared⟩ else none)
      else
        pure none

/-! ## Memory accesses -/

/-- The page of the buffer that the driver hands out for a page of a region. -/
def Region.fault (devs : Devs) (region : Region) (index : Nat) : Option Nat :=
  (region.vma.fault devs index).bind fun answer => if answer.1 = 0 then answer.2.page else none

/-- `*ptr = value`. -/
def storeByte (region : Region) (address : Nat) (value : UInt8) : Test Region := do
  let devs ← get
  match region.vma.vmPrivateData with
  | none => throw .killed
  | some dev =>
      match region.mapping.store pageSize (region.fault devs) (bufferOf (devs dev)) address
          value with
      | none => throw .killed
      | some (mapping, bytes) =>
          set (Function.update devs dev (withBuffer (devs dev) bytes))
          pure { region with mapping := mapping }

/-- A load through a pointer. -/
def loadByte (region : Region) (address : Nat) : Test (UInt8 × Region) := do
  let devs ← get
  match region.vma.vmPrivateData with
  | none => throw .killed
  | some dev =>
      match region.mapping.load pageSize (region.fault devs) (bufferOf (devs dev)) address with
      | none => throw .killed
      | some (value, mapping) => pure (value, { region with mapping := mapping })

/-- `memcmp` of the memory at `address` with `buf`, from `offset` on. -/
def memcmpFrom (region : Region) (address : Nat) (buf : Memory) (offset : Nat) :
    Nat → Test (Int × Region)
  | 0 => pure (0, region)
  | remaining + 1 => do
      let (value, region) ← loadByte region (address + offset)
      if value = buf offset then
        memcmpFrom region address buf (offset + 1) remaining
      else
        pure ((value.toNat : Int) - (buf offset).toNat, region)

/-- `memcmp`. -/
def memcmp (region : Region) (address : Nat) (buf : Memory) (length : Nat) :
    Test (Int × Region) :=
  memcmpFrom region address buf 0 length

/-! ## The tests -/

/-- The character `'Z'`. -/
def zByte : UInt8 := 90

/-- The loop that accesses the pages from `i` on. -/
def accessPages (region : Region) (i : Nat) : Nat → Test Region
  | 0 => pure region
  | remaining + 1 => do
      let ptr := region.vma.vmStart + pageSize * i
      let region ← storeByte region ptr zByte
      accessPages region (i + 1) remaining

/-- The loop that validates the pages from `i` on. -/
def validatePages (region : Region) (buf : Memory) (val i : Nat) : Nat → Test Unit
  | 0 => pure ()
  | remaining + 1 => do
      let ptr := region.vma.vmStart + pageSize * i
      let buf := Function.update (buf.memset 0 (UInt8.ofNat val) pageSize) 0 zByte
      let (cmp, region) ← memcmp region ptr buf pageSize
      tpAssert (cmp = 0) "compare error."
      validatePages region buf (val + 1) (i + 1) remaining

/-- `devmap_do_devmap` of `mmap_dev#1`; `buf` is what the stack holds. -/
def devmapDoDevmap1 (answers : Answers) (buf : Memory) (path : Option (List Char))
    (size : Nat) : Test Unit := do
  tpAssert path.isSome "invalid argument(-d)."
  tpAssert (0 < size) "invalid argument(-s)."
  let fd ← openDev answers (path.getD [])
  tpAssert fd.isSome "file open error."
  let status ← ioctl (fd.getD ⟨none⟩) testMckMmapDev2BufReset
  tpAssert (status ≠ -1) "ioctl error."
  match ← mmap answers.mmapPlace (fd.getD ⟨none⟩) size false with
  | none => throw (.assertion "mmap error.")
  | some data =>
      let pages := toInt (toUlong (size + pageSize - 1) / pageSize : Nat)
      let data ← accessPages data 0 pages.toNat
      validatePages data buf 1 0 pages.toNat
      tpAssert (answers.munmap ≠ -1) "munmap error."

/-- `devmap_do_devmap` of `mmap_dev#2`. -/
def devmapDoDevmap2 (answers : Answers) (buf : Memory) (path : Option (List Char))
    (size : Nat) : Test Unit := do
  tpAssert path.isSome "invalid argument(-d)."
  tpAssert (0 < size) "invalid argument(-s)."
  let fd ← openDev answers (path.getD [])
  tpAssert fd.isSome "file open error."
  let status ← ioctl (fd.getD ⟨none⟩) testMckMmapDev2BufReset
  tpAssert (status ≠ -1) "ioctl error."
  match ← mmap answers.mmapPlace (fd.getD ⟨none⟩) size true with
  | none => throw (.assertion "mmap error.")
  | some data =>
      let pages := toInt (toUlong (size + pageSize - 1) / pageSize : Nat)
      let _ ← accessPages data 0 pages.toNat
      match ← mmap answers.peekPlace (fd.getD ⟨none⟩) size true with
      | none => throw (.assertion "peek mmap error.")
      | some peekData =>
          validatePages peekData buf 1 0 pages.toNat
          tpAssert (answers.munmap ≠ -1) "munmap error."
          tpAssert (answers.peekMunmap ≠ -1) "peek munmap error."

/-- The two tests by their mapping. -/
inductive TestNumber where
  | mmapDev1
  | mmapDev2
  deriving DecidableEq, Repr

/-- A run of one of the tests. -/
structure TestRun where
  number : TestNumber
  path : Option (List Char)
  size : Nat
  answers : Answers
  buf : Memory

/-- The result of `run_func`. -/
inductive Outcome where
  | returned (message : Option String)
  | killed
  deriving DecidableEq, Repr

/-- `run_func` of the two tests. -/
def TestRun.runFunc (run : TestRun) : Test Unit :=
  match run.number with
  | .mmapDev1 => devmapDoDevmap1 run.answers run.buf run.path run.size
  | .mmapDev2 => devmapDoDevmap2 run.answers run.buf run.path run.size

/-- What a finished test returns. -/
def outcomeOf : Except Failure Unit → Outcome
  | .ok () => .returned none
  | .error (.assertion message) => .returned (some message)
  | .error .killed => .killed

/-- Run the tests one after the other. -/
def runTests : List TestRun → Devs → List Outcome × Devs
  | [], devs => ([], devs)
  | run :: rest, devs =>
      let (result, devs) := run.runFunc.run devs
      let (outcomes, devs) := runTests rest devs
      (outcomeOf result :: outcomes, devs)

end McKernelTest.MmapDev
