import McKernelTest.Machine.Align
import McKernelTest.Mremap.Layout
import McKernelTest.Posix.Mremap

/-!
# The test cases of `mremap_mmap_anon`

Every test case lays out a few ranges, calls `mremap` once, and then looks at what it has
got: it checks the data, and it either accesses all of the new range or makes one access that
has to end in a signal handler.  The test cases come in four kinds, for private and shared
mappings and for small and large ranges.
-/

namespace McKernelTest.Mremap

open Machine Posix

/-! ## The functions that all test cases use -/

/-- Store a byte; nothing if the access faults. -/
def storeByte (memory : Mappings) (address : Nat) (value : UInt8) : Option Mappings :=
  match memory.access protWrite address with
  | .error _ => none
  | .ok cell => some { memory with
      space := fun other =>
        if other = address then some { cell with value := value } else memory.space other }

/-- Load a byte; nothing if the access faults. -/
def loadByte (memory : Mappings) (address : Nat) : Option UInt8 :=
  match memory.access protRead address with
  | .error _ => none
  | .ok cell => some cell.value

/-- `memset`, byte by byte. -/
def memsetBytes (value : UInt8) : Nat → Mappings → Nat → Option Mappings
  | 0, memory, _ => some memory
  | remaining + 1, memory, address =>
      (storeByte memory address value).bind fun memory =>
        memsetBytes value remaining memory (address + 1)

/-- `mremap_mmap_anon_access_check`: nothing if it faults, or else the message it returns. -/
def mremapMmapAnonAccessCheck (memory : Mappings) (addr len : Nat) : Option (Option String) :=
  if addr = 0 then
    some (some "invalid address")
  else if len ≤ 0 then
    some none
  else do
    let memory ← storeByte memory addr 'A'.toUInt8
    let ch ← loadByte memory addr
    if ch ≠ 'A'.toUInt8 then
      return some "first page access error"
    let memory ← storeByte memory (addr + len - 1) 'Z'.toUInt8
    let ch ← loadByte memory (addr + len - 1)
    if ch ≠ 'Z'.toUInt8 then
      return some "last page access error"
    let _ ← memsetBytes '0'.toUInt8 len memory addr
    return none

/-! ## A test case -/

/-- An address that is used after the call: the result, or the one of an entry. -/
inductive Base where
  | remap
  | entry (index : Nat)
  deriving DecidableEq, Repr

/-- A call of `mremap_mmap_anon_data_check`. -/
structure DataCheck where
  base : Base
  offset : Nat
  len : Nat
  expected : UInt8
  deriving DecidableEq, Repr

/-- What the test case asserts about the result of `mremap`. -/
inductive Expectation where
  /-- `remap != MAP_FAILED` and `errno == 0`. -/
  | mapped
  /-- `remap == naddr` and `errno == 0`. -/
  | placed
  /-- `remap == MAP_FAILED` and `errno` has the value. -/
  | fails (error : MremapError)
  deriving DecidableEq, Repr

/-- What the test case does at its end. -/
inductive Finish where
  | done
  /-- A call of `mremap_mmap_anon_access_check` for `remap`. -/
  | access (len : Nat)
  /-- A handler for the signal, and an access that has to raise it. -/
  | signal (signum : Fault) (base : Base) (offset : Nat)
  deriving DecidableEq, Repr

/-- A test case of the suite. -/
structure TestCase where
  params : List Request
  /-- The entry that is remapped. -/
  old : Nat
  oldSize : Nat
  newSize : Nat
  flags : BitVec 32
  /-- The entry and the offset that give `naddr`. -/
  naddr : Option (Nat × Nat)
  expectation : Expectation
  checks : List DataCheck
  finish : Finish

/-- How a test case ends. -/
inductive Outcome where
  | returned (message : Option String)
  /-- `exit` in the signal handler. -/
  | exited (status : Int)
  | killed
  deriving DecidableEq, Repr

/-- What the system does: the calls of `mremap_mmap_anon` and the address space before them,
`mremap`, and the result of `sigaction`. -/
structure Environment where
  calls : Calls
  space : AddressSpace
  mremap : Mappings → MremapCall → Except Int Nat × Mappings
  sigaction : Int

/-- The return value of `mremap`. -/
def remapOf : Except Int Nat → Nat
  | .ok address => address
  | .error _ => mapFailed

/-- `errno` after the call. -/
def errnoOf : Except Int Nat → Int
  | .ok _ => 0
  | .error code => code

/-- The two assertions about the result of `mremap`. -/
def checkResult (success : Prop) [Decidable success] (errno expected : Int) : Option String :=
  if success then
    if errno = expected then none else some "invalid errno."
  else
    some "mremap error."

/-- The assertions of a test case about the result. -/
def Expectation.check (naddr : Nat) (result : Except Int Nat) : Expectation → Option String
  | .mapped => checkResult (remapOf result ≠ mapFailed) (errnoOf result) 0
  | .placed => checkResult (remapOf result = naddr) (errnoOf result) 0
  | .fails error => checkResult (remapOf result = mapFailed) (errnoOf result) error.code

/-- The address, given that of the result and those of the entries. -/
def Base.address (remap : Nat) (addrs : Nat → Nat) : Base → Nat
  | .remap => remap
  | .entry index => addrs index

/-- The data checks in their order; nothing if all of them pass. -/
def runChecks (memory : Mappings) (remap : Nat) (addrs : Nat → Nat) :
    List DataCheck → Option Outcome
  | [] => none
  | check :: rest =>
      match mremapMmapAnonDataCheck memory.accessible
          (check.base.address remap addrs + check.offset) check.len check.expected with
      | none => some .killed
      | some (some message) => some (.returned (some message))
      | some none => runChecks memory remap addrs rest

/-- The end of a test case.  The handler calls `exit`. -/
def Finish.run (sigaction : Int) (memory : Mappings) (remap : Nat) (addrs : Nat → Nat) :
    Finish → Outcome
  | .done => .returned none
  | .access len =>
      match mremapMmapAnonAccessCheck memory remap len with
      | none => .killed
      | some message => .returned message
  | .signal signum base offset =>
      if sigaction ≠ 0 then
        .returned (some "sigaction(SIGSEGV) error.")
      else
        match memory.access protRead (base.address remap addrs + offset) with
        | .ok _ => .returned (some "signal handling error")
        | .error fault => if fault = signum then .exited 0 else .killed

namespace TestCase

/-- The call of `mremap` in a test case. -/
def call (test : TestCase) (addrs : Nat → Nat) : MremapCall where
  oldAddress := addrs test.old
  oldSize := test.oldSize
  newSize := test.newSize
  flags := test.flags
  newAddress := (test.naddr.map fun (index, offset) => addrs index + offset).getD 0

/-- What comes after `mremap`. -/
def afterCall (test : TestCase) (sigaction : Int) (addrs : Nat → Nat)
    (result : Except Int Nat × Mappings) : Outcome :=
  match test.expectation.check (test.call addrs).newAddress result.1 with
  | some message => .returned (some message)
  | none =>
      match runChecks result.2 (remapOf result.1) addrs test.checks with
      | some outcome => outcome
      | none => test.finish.run sigaction result.2 (remapOf result.1) addrs

/-- The addresses of the entries. -/
def addrsOf (params : List MremapMmapAnonParam) (index : Nat) : Nat :=
  (params[index]?.map (·.addr)).getD 0

/-- The run function. -/
def run (test : TestCase) (env : Environment) : Outcome :=
  let result := mremapMmapAnon env.calls env.space (test.params.map fun request => ⟨request, 0⟩)
  if result.ret = test.params.length then
    let addrs := addrsOf result.params
    test.afterCall env.sigaction addrs (env.mremap ⟨result.space, fun _ => false⟩ (test.call addrs))
  else
    .returned (some "mmap error.")

end TestCase

/-! ## The test cases -/

/-- `MREMAP_RANGE_LARGE_SIZE`. -/
def mremapRangeLargeSize : Nat :=
  alignUp largePageSize mremapRangeSize

/-- The size of a range, and whether the mappings are shared. -/
structure Variant where
  size : Nat
  shared : Int

section Cases

variable (variant : Variant)

/-- `PROT_READ|PROT_WRITE`. -/
def protReadWrite : BitVec 32 :=
  protRead ||| protWrite

/-- An entry in use. -/
def use (size : Nat) (prot : BitVec 32) : Request :=
  ⟨size, 0, variant.shared, prot⟩

/-- A free entry. -/
def free (size : Nat) : Request :=
  ⟨size, 1, 0, protNone⟩

def mremapMmapAnon000 : TestCase where
  params := [use variant variant.size protReadWrite, use variant variant.size protNone]
  old := 0
  oldSize := variant.size
  newSize := variant.size
  flags := 0
  naddr := none
  expectation := .mapped
  checks := [⟨.remap, 0, variant.size, '0'.toUInt8⟩]
  finish := .access variant.size

def mremapMmapAnon001 : TestCase where
  params := [use variant variant.size protReadWrite, use variant variant.size protNone]
  old := 0
  oldSize := 0xffffffffffffe000
  newSize := 0xffffffffffffe000
  flags := 0
  naddr := none
  expectation := .mapped
  checks := [⟨.remap, 0, variant.size, '0'.toUInt8⟩]
  finish := .access variant.size

def mremapMmapAnon002 : TestCase where
  params := [use variant (variant.size * 2) protReadWrite, use variant variant.size protNone]
  old := 0
  oldSize := variant.size * 2
  newSize := variant.size * 2 - pageSize
  flags := 0
  naddr := none
  expectation := .mapped
  checks := [⟨.remap, 0, variant.size * 2 - pageSize, '0'.toUInt8⟩]
  finish := .access (variant.size * 2 - pageSize)

def mremapMmapAnon003 : TestCase where
  params := [use variant variant.size protReadWrite, free variant.size,
    use variant variant.size protNone]
  old := 0
  oldSize := variant.size
  newSize := variant.size + variant.size
  flags := 0
  naddr := none
  expectation := .mapped
  checks := [⟨.remap, 0, variant.size, '0'.toUInt8⟩]
  finish := .access (variant.size + variant.size)

/-- The new part of a shared mapping has no pages. -/
def mremapMmapAnon103 : TestCase :=
  { mremapMmapAnon003 variant with finish := .signal .bus .remap variant.size }

def mremapMmapAnon004 : TestCase where
  params := [use variant variant.size protReadWrite, use variant variant.size protNone]
  old := 0
  oldSize := variant.size
  newSize := variant.size + variant.size
  flags := 0
  naddr := none
  expectation := .fails .enomem
  checks := []
  finish := .done

def mremapMmapAnon005 : TestCase where
  params := [use variant variant.size protReadWrite, use variant variant.size protNone]
  old := 0
  oldSize := variant.size
  newSize := variant.size + variant.size
  flags := mremapMaymove
  naddr := none
  expectation := .mapped
  checks := [⟨.remap, 0, variant.size, '0'.toUInt8⟩]
  finish := .access (variant.size + variant.size)

def mremapMmapAnon105 : TestCase :=
  { mremapMmapAnon005 variant with finish := .signal .bus .remap variant.size }

def mremapMmapAnon006 : TestCase where
  params := [use variant variant.size protReadWrite, free variant.size,
    use variant variant.size protNone]
  old := 0
  oldSize := variant.size
  newSize := variant.size
  flags := mremapMaymove ||| mremapFixed
  naddr := some (1, 0)
  expectation := .placed
  checks := [⟨.remap, 0, variant.size, '0'.toUInt8⟩]
  finish := .access variant.size

def mremapMmapAnon007 : TestCase where
  params := [use variant variant.size protReadWrite, use variant variant.size protNone,
    use variant (variant.size * 2) protReadWrite, use variant variant.size protNone]
  old := 0
  oldSize := variant.size
  newSize := variant.size
  flags := mremapMaymove ||| mremapFixed
  naddr := some (2, 0)
  expectation := .placed
  checks := [⟨.remap, 0, variant.size, '0'.toUInt8⟩,
    ⟨.entry 2, variant.size, variant.size * 2 - variant.size, '2'.toUInt8⟩]
  finish := .access variant.size

def mremapMmapAnon008 : TestCase where
  params := [use variant variant.size protNone, use variant variant.size protRead,
    use variant variant.size protReadWrite, use variant variant.size protRead,
    use variant variant.size protNone]
  old := 2
  oldSize := variant.size
  newSize := variant.size + variant.size + variant.size
  flags := mremapMaymove ||| mremapFixed
  naddr := some (1, 0)
  expectation := .fails .einval
  checks := []
  finish := .done

def mremapMmapAnon009 : TestCase where
  params := [use variant variant.size protNone, use variant (variant.size * 2) protReadWrite,
    use variant variant.size protNone]
  old := 1
  oldSize := variant.size * 2
  newSize := pageSize
  flags := mremapMaymove ||| mremapFixed
  naddr := some (1, pageSize)
  expectation := .fails .einval
  checks := []
  finish := .done

def mremapMmapAnon010 : TestCase where
  params := [use variant variant.size protNone, free variant.size,
    use variant (variant.size * 2) protReadWrite, use variant variant.size protNone]
  old := 2
  oldSize := variant.size * 2
  newSize := variant.size * 2
  flags := mremapMaymove ||| mremapFixed
  naddr := some (1, 0)
  expectation := .fails .einval
  checks := []
  finish := .done

def mremapMmapAnon011 : TestCase where
  params := [use variant variant.size protNone, use variant (variant.size * 2) protReadWrite,
    free variant.size, use variant variant.size protNone]
  old := 1
  oldSize := variant.size * 2
  newSize := variant.size * 2
  flags := mremapMaymove ||| mremapFixed
  naddr := some (1, pageSize)
  expectation := .fails .einval
  checks := []
  finish := .done

def mremapMmapAnon012 : TestCase where
  params := [use variant variant.size protNone, free variant.size,
    use variant variant.size protReadWrite, use variant variant.size protNone]
  old := 2
  oldSize := variant.size
  newSize := variant.size
  flags := mremapMaymove ||| mremapFixed
  naddr := some (1, 0)
  expectation := .placed
  checks := [⟨.remap, 0, variant.size, '2'.toUInt8⟩]
  finish := .access variant.size

def mremapMmapAnon013 : TestCase where
  params := [use variant variant.size protNone, use variant variant.size protReadWrite,
    free variant.size, use variant variant.size protNone]
  old := 1
  oldSize := variant.size
  newSize := variant.size
  flags := mremapMaymove ||| mremapFixed
  naddr := some (2, 0)
  expectation := .placed
  checks := [⟨.remap, 0, variant.size, '1'.toUInt8⟩]
  finish := .access variant.size

def mremapMmapAnon014 : TestCase :=
  { mremapMmapAnon002 variant with finish := .signal .segv .remap (variant.size * 2 - pageSize) }

def mremapMmapAnon015 : TestCase :=
  { mremapMmapAnon005 variant with finish := .signal .segv (.entry 0) 0 }

def mremapMmapAnon016 : TestCase :=
  { mremapMmapAnon006 variant with finish := .signal .segv (.entry 0) 0 }

/-- The test cases that are the same for private and shared mappings, but for two of them. -/
def casesWith (third fifth : TestCase) : List TestCase :=
  [mremapMmapAnon000 variant, mremapMmapAnon001 variant, mremapMmapAnon002 variant, third,
    mremapMmapAnon004 variant, fifth, mremapMmapAnon006 variant, mremapMmapAnon007 variant,
    mremapMmapAnon008 variant, mremapMmapAnon009 variant, mremapMmapAnon010 variant,
    mremapMmapAnon011 variant, mremapMmapAnon012 variant, mremapMmapAnon013 variant,
    mremapMmapAnon014 variant, mremapMmapAnon015 variant, mremapMmapAnon016 variant]

end Cases

/-- The test cases from a hundred on. -/
def hundred (base size : Nat) (shared : Bool) : List (Nat × TestCase) :=
  let variant : Variant := ⟨size, if shared then 1 else 0⟩
  let cases :=
    if shared then casesWith variant (mremapMmapAnon103 variant) (mremapMmapAnon105 variant)
    else casesWith variant (mremapMmapAnon003 variant) (mremapMmapAnon005 variant)
  cases.zipIdx.map fun (test, index) => (base + index, test)

/-- All test cases with their numbers. -/
def testCases : List (Nat × TestCase) :=
  hundred 0 mremapRangeSize false ++ hundred 100 mremapRangeSize true ++
    hundred 200 mremapRangeLargeSize false ++ hundred 300 mremapRangeLargeSize true

end McKernelTest.Mremap
