import McKernelTest.Machine.Memory
import McKernelTest.Machine.Word
import McKernelTest.Process.Trace
import McKernelTest.Machine.Page
import McKernelTest.Text.Numeral

/-!
# `mem_stack_limits#0`

The test uses up a number of bytes on the stack.  The number is taken apart into GiB, MiB
and KiB, and a recursion enters a function with a local array of the size for each of
them.  The globals tell the functions how many frames are still to come.

A function that is entered performs an operation that gives it its array, with arbitrary
contents, and one that gives the array back when it returns.  The loop that touches the
pages of an array keeps its variable in the array.  The loops and the recursion are run
with fuel; `none` says that it was not enough.
-/

namespace McKernelTest.MemStackLimits

open Machine Process

/-- The sizes of the local arrays. -/
inductive MemUnit where
  | kib
  | mib
  | gib
  deriving DecidableEq, Repr

/-- `ULONG_1KiB_COUNT`, `ULONG_1MiB_COUNT` and `ULONG_1GiB_COUNT`. -/
def MemUnit.ulongCount : MemUnit → Nat
  | .kib => 0x80
  | .mib => 0x20000
  | .gib => 0x8000000

/-- `sizeof(tmp)`. -/
def MemUnit.sizeofTmp (unit : MemUnit) : Nat :=
  unit.ulongCount * 8

/-- The calls, and what happens to the stack: the entry into a function with its array,
the store of one byte by `memset`, and the return. -/
inductive Op where
  | enter (unit : MemUnit)
  | memset (offset : Nat)
  | leave (unit : MemUnit)
  | getStackAddr
  | printf (format : String) (values : List Int)
  deriving DecidableEq, Repr

/-- The result of a call; a function finds its array in any state. -/
@[reducible]
def Res : Op → Type
  | .enter _ => Memory
  | .getStackAddr => Nat
  | .memset _ | .leave _ | .printf _ _ => Unit

abbrev Program := Code Op Res

/-- The globals; the counters are `int`. -/
structure Globals where
  gibCount : Int
  mibCount : Int
  kibCount : Int
  lastSp : Nat
  deriving DecidableEq, Repr

/-! ## Touching the pages of an array -/

/-- The offset of `tmp[1]`. -/
def loopVariable : Nat := 8

/-- The loop with the variable `tmp[1]`. -/
def touchPages (unit : MemUnit) : Nat → Memory → Program (Option Memory)
  | 0, _ => return none
  | fuel + 1, tmp =>
      if tmp.load loopVariable 8 < unit.sizeofTmp then do
        .perform (Op.memset (tmp.load loopVariable 8))
        let tmp := tmp.setByte (tmp.load loopVariable 8) 0xFF
        touchPages unit fuel (tmp.store loopVariable (tmp.load loopVariable 8 + pageSize) 8)
      else
        return some tmp

/-! ## The recursion -/

/-- The functions differ in the size of their array and in the counter that they decrease;
`next` is `stack_limit_func`. -/
def frameFunc (unit : MemUnit) (decrease : Globals → Globals) (fuel : Nat)
    (next : Globals → Program (Option Globals)) (globals : Globals) : Program (Option Globals) := do
  let tmp ← .perform (Op.enter unit)
  match ← touchPages unit fuel (tmp.store loopVariable 0 8) with
  | none => return none
  | some _ =>
      let sp ← .perform Op.getStackAddr
      let result ← next (decrease { globals with lastSp := sp })
      .perform (Op.leave unit)
      return result

/-- `kib_func`. -/
def kibFunc : Nat → (Globals → Program (Option Globals)) → Globals → Program (Option Globals) :=
  frameFunc .kib fun globals => { globals with kibCount := globals.kibCount - 1 }

/-- `mib_func`. -/
def mibFunc : Nat → (Globals → Program (Option Globals)) → Globals → Program (Option Globals) :=
  frameFunc .mib fun globals => { globals with mibCount := globals.mibCount - 1 }

/-- `gib_func`. -/
def gibFunc : Nat → (Globals → Program (Option Globals)) → Globals → Program (Option Globals) :=
  frameFunc .gib fun globals => { globals with gibCount := globals.gibCount - 1 }

/-- `stack_limit_func`. -/
def stackLimitFunc : Nat → Globals → Program (Option Globals)
  | 0, _ => return none
  | fuel + 1, globals =>
      if globals.gibCount ≠ 0 then
        gibFunc fuel (stackLimitFunc fuel) globals
      else if globals.mibCount ≠ 0 then
        mibFunc fuel (stackLimitFunc fuel) globals
      else if globals.kibCount ≠ 0 then
        kibFunc fuel (stackLimitFunc fuel) globals
      else
        return some globals

/-! ## Sizes in GiB, MiB and KiB -/

/-- What `value_to_unit` stores through its pointers. -/
structure Units where
  gib : Int
  mib : Int
  kib : Int
  deriving DecidableEq, Repr

/-- The loop that subtracts a GiB, in `size_t`. -/
def subtractGib : Nat → Nat → Nat
  | 0, tmpSize => tmpSize
  | remaining + 1, tmpSize => subtractGib remaining (toUlong (tmpSize - 0x40000000))

/-- `value_to_unit`.  The quotients become `int`, and so does the product; one that
overflows wraps around.  The last assignment to `tmp_size` is not used. -/
def valueToUnit (value : Nat) : Units :=
  let gib := toInt ((value / 0x40000000 : Nat) : Int)
  let tmpSize := subtractGib gib.toNat value
  let mib := toInt ((tmpSize / 0x100000 : Nat) : Int)
  let tmpSize := toUlong (tmpSize - toInt (mib * 0x100000))
  let kib := toInt ((tmpSize / 0x400 : Nat) : Int)
  ⟨gib, mib, kib⟩

/-! ## The run function -/

/-- The run function with the size from the command line; the outer `none` is a lack of
fuel. -/
def runFunc (fuel : Nat) (args : Option Nat) : Program (Option (Option String)) := do
  let firstSp ← .perform Op.getStackAddr
  match args with
  | none => return some (some "internal error.(args == NULL)")
  | some size =>
      if size = 0 then
        return some (some "invalid parameter.(-s is zero)")
      else
        let count := valueToUnit size
        .perform (Op.printf "call: %d GiB + %d MiB + %d KiB\n" [count.gib, count.mib, count.kib])
        match ← stackLimitFunc fuel ⟨count.gib, count.mib, count.kib, 0⟩ with
        | none => return none
        | some globals =>
            let usedStack := toUlong (firstSp - globals.lastSp)
            let used := valueToUnit usedStack
            .perform (Op.printf "used_stack size: %ld (%d GiB + %d MiB + %d KiB)\n"
              [toLong usedStack, used.gib, used.mib, used.kib])
            return some none

end McKernelTest.MemStackLimits
