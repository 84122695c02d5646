import McKernelTest.Driver.Device
import McKernelTest.Ledger.Core

/-!
# Loading and unloading the test driver

The model follows `test_mck_setup` and `test_mck_cleanup` statement by
statement.  Every kernel call that can fail takes its outcome from a record,
so one value of the record is one pattern of successes and failures.  A call
that succeeds acquires its resource, a call that fails acquires nothing, and
every acquisition and release is entered in a ledger.

A release call releases the resource its arguments name.  `class_destroy` and
`device_destroy` of a NULL class, and `vfree` of a buffer that is not there,
name nothing.
-/

namespace McKernelTest.Driver

open Ledger

/-- The kinds of resource the driver handles.  Resources of one kind are told
apart by the index of their device or of their proc file. -/
inductive Resource where
  | chrdevRegion
  | devClass (device : Nat)
  | cdev (device : Nat)
  | deviceNode (device : Nat)
  | privateBuffer (device : Nat)
  | procDir
  | procFile (entry : Nat)
  deriving DecidableEq, Repr

/-- The outcomes of the kernel calls of one load.  `allocChrdevRegion` yields
the first device number; `classCreate` is false when the result is an
`ERR_PTR`, `procMkdir` and `procCreateData` are false when it is NULL. -/
structure KernelCalls where
  allocChrdevRegion : Except Errno Nat
  classCreate : Nat → Bool
  cdevAdd : Nat → Option Errno
  deviceCreate : Nat → Bool
  vmallocUser : Nat → Option VmallocArea
  procMkdir : Bool
  procCreateData : Nat → Bool

/-- `MAJOR`. -/
def major (devno : Nat) : Nat :=
  devno / 2 ^ 20

/-- `MINOR`. -/
def minor (devno : Nat) : Nat :=
  devno % 2 ^ 20

/-- `MKDEV`. -/
def mkdev (majorNumber minorNumber : Nat) : Nat :=
  (majorNumber * 2 ^ 20) ||| minorNumber

/-- `test_mck_minor`. -/
def testMckMinor : Nat := 0

/-- `struct test_mck_procfs_entry`; `pent` says whether the pointer is set. -/
structure ProcEnt where
  fname : List Char
  pent : Bool
  deriving DecidableEq, Repr

/-- The static data of the driver together with the ledger of its calls. -/
structure DriverState where
  testMckMajor : Nat
  testMckMajmin : List Char
  devlist : List TestMckDev
  testMckProcdir : Bool
  procEnts : List ProcEnt
  ledger : List (Entry Resource)

/-- `test_mck_devlist`, which includes `test_suite.list`. -/
def testMckDevlist : List TestMckDev :=
  [.fresh mmapDevName .mmapDev, .fresh mmapDev2Name .mmapDev2]

/-- The number of bytes of `test_mck_majmin` for a number of devices. -/
def sizeofMajmin (nrDevs : Nat) : Nat :=
  nrDevs * 8 + 1

/-- The driver as the module loader leaves it. -/
def DriverState.initial (devlist : List TestMckDev) : DriverState where
  testMckMajor := 0
  testMckMajmin := List.replicate (sizeofMajmin devlist.length) Text.nul
  devlist := devlist
  testMckProcdir := false
  procEnts := [⟨"devno".toList, false⟩, ⟨"tp_names".toList, false⟩]
  ledger := []

/-- Enter bookings in the ledger. -/
def DriverState.book (state : DriverState) (entries : List (Entry Resource)) : DriverState :=
  { state with ledger := state.ledger ++ entries }

/-! ## Cleaning up -/

/-- The loop of `test_mck_cleanup_procfs` from entry `i` on. -/
def cleanupProcEnts : Nat → List ProcEnt → List (Entry Resource) × List ProcEnt
  | _, [] => ([], [])
  | i, ent :: rest =>
      let (entries, rest) := cleanupProcEnts (i + 1) rest
      if ent.pent then
        (.release (.procFile i) :: entries, { ent with pent := false } :: rest)
      else
        (entries, ent :: rest)

/-- `test_mck_cleanup_procfs`. -/
def testMckCleanupProcfs (state : DriverState) : DriverState :=
  let (entries, procEnts) := cleanupProcEnts 0 state.procEnts
  { state.book (entries ++ [.release .procDir]) with
    procEnts := procEnts
    testMckProcdir := false }

/-- `dev->fin`: only `mmap_dev2` has a buffer to give back. -/
def TestMckDev.fin (i : Nat) (dev : TestMckDev) : List (Entry Resource) × TestMckDev :=
  match dev.ops, dev.privateData with
  | .mmapDev2, some _ => ([.release (.privateBuffer i)], { dev with privateData := none })
  | _, _ => ([], dev)

/-- The body of the loop of `test_mck_cleanup`.  `device_destroy` with a class looks a node up
by its number; the call is booked also where the node could not be created. -/
def cleanupDev (i : Nat) (dev : TestMckDev) : List (Entry Resource) × TestMckDev :=
  let (finEntries, dev) := dev.fin i
  let destroyed : List (Entry Resource) :=
    match dev.cls with
    | none => []
    | some cls => [.release (.deviceNode i), .release (.devClass cls)]
  (finEntries ++ [.release (.cdev i)] ++ destroyed, dev)

/-- The loop of `test_mck_cleanup` from device `i` on. -/
def cleanupDevs : Nat → List TestMckDev → List (Entry Resource) × List TestMckDev
  | _, [] => ([], [])
  | i, dev :: rest =>
      let (entries, dev) := cleanupDev i dev
      let (restEntries, rest) := cleanupDevs (i + 1) rest
      (entries ++ restEntries, dev :: rest)

/-- `test_mck_cleanup`. -/
def testMckCleanup (state : DriverState) : DriverState :=
  let state := testMckCleanupProcfs state
  let (entries, devlist) := cleanupDevs 0 state.devlist
  { state.book (entries ++ [.release .chrdevRegion]) with devlist := devlist }

/-! ## Setting up -/

/-- The loop of `test_mck_init_procfs` from entry `i` on, with whether it
finished. -/
def initProcEnts (kernel : KernelCalls) :
    Nat → List ProcEnt → Bool × List (Entry Resource) × List ProcEnt
  | _, [] => (true, [], [])
  | i, ent :: rest =>
      if kernel.procCreateData i then
        let (finished, entries, rest) := initProcEnts kernel (i + 1) rest
        (finished, .acquire (.procFile i) :: entries, { ent with pent := true } :: rest)
      else
        (false, [], { ent with pent := false } :: rest)

/-- `test_mck_init_procfs`. -/
def testMckInitProcfs (kernel : KernelCalls) (state : DriverState) : Int × DriverState :=
  if kernel.procMkdir then
    let (finished, entries, procEnts) := initProcEnts kernel 0 state.procEnts
    let state :=
      { state.book (.acquire .procDir :: entries) with
        testMckProcdir := true
        procEnts := procEnts }
    (if finished then 0 else enomem.code, state)
  else
    (enomem.code, { state with testMckProcdir := false })

/-- The variables of the device loop of `test_mck_setup`: `res`, the offset of
`majmin` in its array, the array itself, and what the loop has booked.  The
size arguments of `snprintf` are recorded before their conversion to `size_t`. -/
structure LoopState where
  res : Int
  position : Nat
  testMckMajmin : List Char
  sizes : List Int
  entries : List (Entry Resource)

/-- The size argument `sizeof(test_mck_majmin) - (majmin - test_mck_majmin) - 1`
as an integer. -/
def majminRoom (sizeof position : Nat) : Int :=
  (sizeof : Int) - position - 1

/-- The text of `"%3d:%-3d "`. -/
def devnoText (majorNumber i : Nat) : List Char :=
  Text.padLeft 3 (Text.decimal majorNumber) ++ [':'] ++
    Text.padRight 3 (Text.decimal i) ++ [' ']

/-- The publication of one device number: the `snprintf` of the loop and the
advance of `majmin`. -/
def publish (sizeof majorNumber i : Nat) (loop : LoopState) : LoopState :=
  let room := majminRoom sizeof loop.position
  let (buffer, print) := Text.snprintf loop.testMckMajmin loop.position
    (room % 2 ^ 64).toNat (devnoText majorNumber i)
  { loop with
    testMckMajmin := buffer
    position := loop.position + print
    sizes := loop.sizes ++ [room] }

/-- The result of `cdev_add` as the value assigned to `res`. -/
def KernelCalls.cdevAddResult (kernel : KernelCalls) (i : Nat) : Int :=
  match kernel.cdevAdd i with
  | none => 0
  | some error => error.code

/-- What a device's initialization acquires when it succeeds. -/
def TestMckDev.initEntries (dev : TestMckDev) (i : Nat) (allocated : Option VmallocArea) :
    List (Entry Resource) :=
  match dev.ops, allocated with
  | .mmapDev2, some _ => [.acquire (.privateBuffer i)]
  | _, _ => []

/-- The body of the device loop of `test_mck_setup`.  The first component is
false when the body leaves by `goto fail`; a failing `class_create` leaves
`res` as it is. -/
def setupDev (kernel : KernelCalls) (sizeof majorNumber i : Nat) (loop : LoopState)
    (dev : TestMckDev) : Bool × LoopState × TestMckDev :=
  if kernel.classCreate i then
    let dev := { dev with cls := some i, devno := mkdev majorNumber (testMckMinor + i) }
    let loop :=
      { loop with
        res := kernel.cdevAddResult i
        entries := loop.entries ++ [.acquire (.devClass i)] }
    if loop.res ≠ 0 then
      (false, loop, dev)
    else
      let loop :=
        { loop with
          entries := loop.entries ++ [.acquire (.cdev i)] ++
            (if kernel.deviceCreate i then [.acquire (.deviceNode i)] else []) }
      let loop := publish sizeof majorNumber i loop
      let (res, dev) := dev.init (kernel.vmallocUser i)
      let loop :=
        { loop with
          res := res
          entries := loop.entries ++ dev.initEntries i (kernel.vmallocUser i) }
      (decide (res = 0), loop, dev)
  else
    (false, loop, { dev with cls := none })

/-- The device loop of `test_mck_setup` from device `i` on. -/
def setupDevs (kernel : KernelCalls) (sizeof majorNumber : Nat) :
    Nat → LoopState → List TestMckDev → Bool × LoopState × List TestMckDev
  | _, loop, [] => (true, loop, [])
  | i, loop, dev :: rest =>
      match setupDev kernel sizeof majorNumber i loop dev with
      | (false, loop, dev) => (false, loop, dev :: rest)
      | (true, loop, dev) =>
          let (finished, loop, rest) := setupDevs kernel sizeof majorNumber (i + 1) loop rest
          (finished, loop, dev :: rest)

/-- The device loop as `test_mck_setup` enters it, with the major number
already stored. -/
def runDevLoop (kernel : KernelCalls) (majorNumber : Nat) (state : DriverState) :
    Bool × LoopState × List TestMckDev :=
  setupDevs kernel (sizeofMajmin state.devlist.length) majorNumber 0
    ⟨0, 0, state.testMckMajmin, [], []⟩ state.devlist

/-- The state of the driver when the device loop is left, in either way. -/
def afterDevLoop (kernel : KernelCalls) (majorNumber : Nat) (state : DriverState) :
    DriverState :=
  let (_, loop, devlist) := runDevLoop kernel majorNumber state
  { state.book (.acquire .chrdevRegion :: loop.entries) with
    testMckMajor := majorNumber
    testMckMajmin := loop.testMckMajmin
    devlist := devlist }

/-- `test_mck_setup`. -/
def testMckSetup (kernel : KernelCalls) (state : DriverState) : Int × DriverState :=
  match kernel.allocChrdevRegion with
  | .error error => (error.code, testMckCleanup state)
  | .ok devno =>
      let (finished, loop, _) := runDevLoop kernel (major devno) state
      let state := afterDevLoop kernel (major devno) state
      if finished then
        let (res, state) := testMckInitProcfs kernel state
        if res ≠ 0 then (res, testMckCleanup state) else (0, state)
      else
        (loop.res, testMckCleanup state)

/-- `test_mck_init`. -/
def testMckInit (kernel : KernelCalls) (state : DriverState) : Int × DriverState :=
  testMckSetup kernel state

/-- `test_mck_exit`. -/
def testMckExit (state : DriverState) : DriverState :=
  testMckCleanup state

/-- The whole life of the driver: it is unloaded exactly when it was loaded,
that is, when `test_mck_init` returned 0. -/
def lifetime (kernel : KernelCalls) (devlist : List TestMckDev) : List (Entry Resource) :=
  let (res, state) := testMckInit kernel (.initial devlist)
  if res = 0 then (testMckExit state).ledger else state.ledger

end McKernelTest.Driver
