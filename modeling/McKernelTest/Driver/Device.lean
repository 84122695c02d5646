import McKernelTest.Machine.Memory
import McKernelTest.Machine.Page
import McKernelTest.Machine.Word
import McKernelTest.Text.Format
import Mathlib.Algebra.Group.Int.Defs
import Mathlib.Algebra.Group.Nat.Defs

/-!
# The devices of the test driver

Every test suite with a driver side contributes one character device.  Two
suites exist: `mmap_dev`, which keeps no data of its own, and `mmap_dev2`,
which keeps a buffer of three pages that user programs map.

The kernel is outside this development.  A buffer is what `vmalloc_user` is
documented to return, and `vmalloc_to_page` enters only through the page it
finds behind an address of such a buffer.
-/

namespace McKernelTest.Driver

open Machine

/-- The left shift of an `unsigned long`. -/
def shiftLeft64 (value amount : Nat) : Nat :=
  toUlong (value * 2 ^ amount)

/-- A kernel error result.  Error codes are negative. -/
structure Errno where
  code : Int
  negative : code < 0

/-- `-ENOMEM`. -/
def enomem : Errno :=
  ⟨-12, by decide⟩

/-- `-EFAULT`. -/
def efault : Errno :=
  ⟨-14, by decide⟩

/-! ## Suite names and devices -/

/-- The characters that word splitting, pathname expansion or `echo` may
change when a text passes through an unquoted shell expansion. -/
def shellSpecial (character : Char) : Bool :=
  character = ' ' || character = '\t' || character = '\n' || character = '*' ||
    character = '?' || character = '[' || character = '\\' || character = Text.nul

/-- The name of a test suite.  A name is the argument of
`TEST_MCK_DRV_TEST_SUITE`, which is pasted into C identifiers as well as
turned into a text, so it is not empty and has none of the characters that a
shell treats specially. -/
structure SuiteName where
  chars : List Char
  nonempty : chars ≠ []
  plain : ∀ character ∈ chars, shellSpecial character = false
  noDash : chars.head? ≠ some '-'

/-- The suite `mmap_dev`. -/
def mmapDevName : SuiteName :=
  ⟨"mmap_dev".toList, by decide, by simp [shellSpecial, Text.nul], by decide⟩

/-- The suite `mmap_dev2`. -/
def mmapDev2Name : SuiteName :=
  ⟨"mmap_dev2".toList, by decide, by simp [shellSpecial, Text.nul], by decide⟩

/-- The functions a suite brings with it: its `init`, `fin` and `fops`. -/
inductive SuiteOps where
  | mmapDev
  | mmapDev2
  deriving DecidableEq, Repr

/-- A buffer returned by `vmalloc_user`.  `toPage` is `vmalloc_to_page` with
its result named by the number of the page inside the buffer; it is specified
only for addresses that belong to the buffer. -/
structure VmallocArea where
  addr : Nat
  pages : Nat
  data : Memory
  toPage : Nat → Nat
  addr_pos : 0 < addr
  addr_fits : addr + pages * pageSize ≤ 2 ^ 64
  toPage_spec : ∀ page < pages, ∀ offset < pageSize,
    toPage (addr + page * pageSize + offset) = page

/-- `struct test_mck_dev`.  A pointer that may be NULL is an option; the class
pointer names the class by the device it was created for. -/
structure TestMckDev where
  tsName : SuiteName
  ops : SuiteOps
  privateData : Option VmallocArea
  devno : Nat
  cls : Option Nat

/-- A device as the static initializer of `test_mck_devlist` leaves it. -/
def TestMckDev.fresh (tsName : SuiteName) (ops : SuiteOps) : TestMckDev where
  tsName := tsName
  ops := ops
  privateData := none
  devno := 0
  cls := none

/-! ## The buffer of `mmap_dev2` -/

/-- `test_mck_mmap_dev2_buf_size`. -/
def testMckMmapDev2BufSize : Nat :=
  pageSize * 3

/-- The loop of `test_mck_mmap_dev2_buffer_reset` from offset `off` on. -/
def bufferResetFrom (val off : Nat) (data : Memory) : Memory :=
  if off < testMckMmapDev2BufSize then
    let len := if off + pageSize < testMckMmapDev2BufSize then pageSize
      else testMckMmapDev2BufSize - off
    bufferResetFrom (val + 1) (off + pageSize) (data.memset off (UInt8.ofNat val) len)
  else
    data
termination_by testMckMmapDev2BufSize - off
decreasing_by
  simp only [pageSize_eq]
  omega

/-- `test_mck_mmap_dev2_buffer_reset`. -/
def testMckMmapDev2BufferReset (area : VmallocArea) : VmallocArea :=
  { area with data := bufferResetFrom 1 0 area.data }

/-- `test_mck_mmap_dev2_init`, given what `vmalloc_user` returned. -/
def testMckMmapDev2Init (allocated : Option VmallocArea) (dev : TestMckDev) :
    Int × TestMckDev :=
  match allocated with
  | none => (enomem.code, { dev with privateData := none })
  | some area => (0, { dev with privateData := some (testMckMmapDev2BufferReset area) })

/-- `test_mck_mmap_dev_init`. -/
def testMckMmapDevInit (dev : TestMckDev) : Int × TestMckDev :=
  (0, dev)

/-- `dev->init`. -/
def TestMckDev.init (dev : TestMckDev) (allocated : Option VmallocArea) : Int × TestMckDev :=
  match dev.ops with
  | .mmapDev => testMckMmapDevInit dev
  | .mmapDev2 => testMckMmapDev2Init allocated dev

end McKernelTest.Driver
