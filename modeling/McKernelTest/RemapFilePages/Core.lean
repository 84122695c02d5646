import McKernelTest.Machine.Word
import McKernelTest.MmapDev.Core
import McKernelTest.Posix.AddressSpace

/-!
# `remap_file_pages#0`

The test writes a file whose pages begin with a digest of their number, maps it, asks
the kernel to map its pages in reverse, and compares the first byte of every mapped
page with the digest that belongs there.

`char` is unsigned in this build.  The counters are `int`; a file of `2 ^ 31` pages or
more, for which they overflow, is outside the model.
-/

namespace McKernelTest.RemapFilePages

open Driver Machine Posix
open MmapDev (Failure)

/-- The test file with its size, and the mapping of it. -/
structure World where
  size : Nat
  file : Nat → UInt8
  mapping : Mapping

/-- A test: the world is changed also when it fails. -/
abbrev Test := ExceptT Failure (StateM World)

/-- `tp_assert`. -/
def tpAssert (test : Bool) (message : String) : Test Unit :=
  if test then pure () else throw (.assertion message)

/-- What the kernel answers: the descriptor and the path that `mkstemp` makes, the result
of `open`, the address at which it places the mapping, and what it makes of the mapping
when it is asked to remap the page at an address. -/
structure Kernel where
  mkstemp : List Char → Int × List Char
  openFile : List Char → Int
  mmapPlace : Option Nat
  remapFilePages : Nat → Nat → Mapping → Int × Mapping

/-! ## System calls and memory accesses -/

/-- `write` of the first `count` bytes of a buffer. -/
def write (buf : Nat → UInt8) (count : Nat) : Test Unit :=
  modify fun world =>
    { world with
      size := world.size + count
      file := fun index =>
        if world.size ≤ index ∧ index < world.size + count then buf (index - world.size)
        else world.file index }

/-- `mmap` of the file, shared and from its first page on. -/
def mmap (start size : Nat) : Test Unit :=
  modify fun world =>
    { world with mapping := .fresh start (roundUp pageSize size / pageSize) true }

/-- `remap_file_pages` of one page. -/
def remapFilePages (kernel : Kernel) (address pgoff : Nat) : Test Int := do
  let world ← get
  let (status, mapping) := kernel.remapFilePages address pgoff world.mapping
  set { world with mapping := mapping }
  return status

/-- A load through a pointer. -/
def loadByte (address : Nat) : Test UInt8 := do
  let world ← get
  match world.mapping.load pageSize some world.file address with
  | none => throw .killed
  | some (value, mapping) =>
      set { world with mapping := mapping }
      return value

/-! ## The functions of the suite -/

/-- `remap_file_pages_pgoff_to_addr`. -/
def remapFilePagesPgoffToAddr (start : Nat) (page : Int) : Nat :=
  toUlong (start + toUlong (pageSize * toUlong page))

/-- `remap_file_pages_hash`. -/
def remapFilePagesHash (page : Int) : UInt8 :=
  UInt8.ofInt (page.tmod 256)

/-- The loop that writes the pages from `page` on. -/
def createPages (buf : Nat → UInt8) (page : Nat) : Nat → Test Unit
  | 0 => return ()
  | remaining + 1 => do
      let buf := Function.update buf 0 (remapFilePagesHash page)
      write buf pageSize
      createPages buf (page + 1) remaining

/-- `remap_file_pages_create_file`; the result is the path that `mkstemp` has made. -/
def remapFilePagesCreateFile (kernel : Kernel) (path : List Char) (size : Nat) :
    Test (List Char) := do
  let (fd, path) := kernel.mkstemp path
  tpAssert (fd ≠ -1) "open error."
  createPages (fun _ => 0) 0 (size / pageSize)
  return path

/-- The number of the last page as an `int`. -/
def lastPage (size : Nat) : Int :=
  toInt (toUlong ((size / pageSize : Nat) - 1))

/-- The loop of `remap_file_pages_compare`; the last argument is `orig_page + 1`. -/
def comparePages (remapData : Nat) (remapPage : Nat) : Nat → Test Unit
  | 0 => return ()
  | origPage + 1 => do
      let remapAddr := remapFilePagesPgoffToAddr remapData remapPage
      let hash := remapFilePagesHash origPage
      let byte ← loadByte remapAddr
      tpAssert (byte = hash) "compare failed."
      comparePages remapData (remapPage + 1) origPage

/-- `remap_file_pages_compare`. -/
def remapFilePagesCompare (remapData size : Nat) : Test Unit :=
  comparePages remapData 0 (lastPage size + 1).toNat

/-! ## The run function -/

/-- The template in `test_file_name`. -/
def testFileName : List Char :=
  "remap_file_pages_tp-XXXXXX".toList

/-- The `snprintf` to `path`, which has 256 bytes. -/
def pathOf (dir : List Char) : List Char :=
  (dir ++ '/' :: testFileName).take 255

/-- The loop that remaps; the last argument is `mmap_page + 1`. -/
def remapPages (kernel : Kernel) (addr : Nat) (filePage : Nat) : Nat → Test Unit
  | 0 => return ()
  | mmapPage + 1 => do
      let remapAddr := remapFilePagesPgoffToAddr addr mmapPage
      let status ← remapFilePages kernel remapAddr filePage
      tpAssert (status = 0) "remap error"
      remapPages kernel addr (filePage + 1) mmapPage

/-- The run function. -/
def runFunc (kernel : Kernel) (dir : List Char) (fileSize : Nat) : Test Unit := do
  let path ← remapFilePagesCreateFile kernel (pathOf dir) fileSize
  tpAssert (kernel.openFile path ≠ -1) "file open error."
  match kernel.mmapPlace with
  | none => throw (.assertion "mmap error.")
  | some addr =>
      mmap addr fileSize
      remapPages kernel addr 0 (lastPage fileSize + 1).toNat
      remapFilePagesCompare addr fileSize

end McKernelTest.RemapFilePages
