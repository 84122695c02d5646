import McKernelTest.Machine.Word
import McKernelTest.Process.Trace

/-!
# `cpu_thread_limits#1`

The test computes pi with `thread_num` threads.  The run function cuts the steps of the
integration into as many pieces, creates a thread for each of them, waits until all
threads run, and adds up what they have summed.

The operations on `double` are a parameter.  The two loops that wait for a shared
variable, `retry` in the run function and the one at the barrier, are operations that
block until they may go on.
-/

namespace McKernelTest.CpuThreadLimits

open Machine Process

/-- What the test does with values of type `double`. -/
structure Double (F : Type) where
  ofLong : Int → F
  zero : F
  half : F
  one : F
  four : F
  add : F → F → F
  mul : F → F → F
  div : F → F → F

/-- `numdiv`. -/
def numdiv : Int := 200000000

/-- `pi_arg_t`, without the fields that the thread writes. -/
structure PiArg where
  istart : Int
  iend : Int
  localId : Int
  deriving DecidableEq, Repr

/-- The calls, and the accesses to memory that is shared. -/
inductive Op (F : Type) where
  | getrlimitNproc
  | setrlimitNproc (rlimCur : Nat)
  | calloc (count : Int)
  | free
  | pthreadCreate (ith : Nat) (piargs : PiArg)
  | pthreadJoin (ith : Nat)
  | awaitWaiting (count : Int)
  | storeWaiting (ith : Nat)
  | awaitBarrier
  | storeBarrier
  | loadPsum (ith : Nat)
  | storePsum (ith : Nat) (psum : F)
  | printf (format : String) (values : List Int)
  | printfDouble (format : String) (value : F)
  deriving DecidableEq

/-- The result of a call; `getrlimit` returns the hard limit, and `calloc` says whether the
memory is there. -/
@[reducible]
def Res {F : Type} : Op F → Type
  | .getrlimitNproc => Nat
  | .calloc _ => Bool
  | .setrlimitNproc _ | .pthreadCreate _ _ => Int
  | .loadPsum _ => F
  | .free | .pthreadJoin _ | .awaitWaiting _ | .storeWaiting _ | .awaitBarrier | .storeBarrier
  | .storePsum _ _ | .printf _ _ | .printfDouble _ _ => Unit

abbrev Program (F : Type) := Code (Op F) Res

section Programs

variable {F : Type}

/-! ## The threads -/

/-- The loop of `pi_calc` from `i` on. -/
def sumFrom (double : Double F) (dx : F) (i : Int) : Nat → F → F
  | 0, sum => sum
  | remaining + 1, sum =>
      let x := double.mul (double.add (double.ofLong i) double.half) dx
      let sum := double.add sum (double.div double.four (double.add double.one (double.mul x x)))
      sumFrom double dx (i + 1) remaining sum

/-- The sum of a thread. -/
def psumOf (double : Double F) (piarg : PiArg) : F :=
  let dx := double.div double.one (double.ofLong numdiv)
  double.mul (sumFrom double dx piarg.istart (piarg.iend - piarg.istart).toNat double.zero) dx

/-- `pi_calc`. -/
def piCalc (double : Double F) (ith : Nat) (piarg : PiArg) : Program F Unit := do
  .perform (Op.storeWaiting ith)
  .perform Op.awaitBarrier
  .perform (Op.storePsum ith (psumOf double piarg))

/-! ## The run function -/

/-- The arguments for a thread: the products are computed as `long`. -/
def piargsOf (threadNum ith : Int) : PiArg where
  istart := (toLong (ith * numdiv)).tdiv threadNum
  iend := (toLong ((ith + 1) * numdiv)).tdiv threadNum
  localId := ith + 1

/-- The loop that creates the threads from `ith` on; the result is what `pthread_create`
has returned. -/
def createThreads (threadNum : Int) (ith : Nat) : Nat → Program F (List Int)
  | 0 => return []
  | remaining + 1 => do
      let iret ← .perform (Op.pthreadCreate ith (piargsOf threadNum ith))
      let irets ← createThreads threadNum (ith + 1) remaining
      return iret :: irets

/-- The loop that looks for threads that could not be created, from `ith` on. -/
def checkThreads (ith : Nat) : List Int → Program F (Option String)
  | [] => return none
  | iret :: irets =>
      if iret ≠ 0 then do
        .perform (Op.printf "failed to create thread[%d]: %d\n" [ith, iret])
        .perform Op.free
        return some "pthread_create failed."
      else
        checkThreads (ith + 1) irets

/-- The loop that joins the threads from `ith` on and adds up their sums. -/
def joinThreads (double : Double F) (ith : Nat) : Nat → F → Program F F
  | 0, pi => return pi
  | remaining + 1, pi => do
      .perform (Op.pthreadJoin ith)
      let psum ← .perform (Op.loadPsum ith)
      joinThreads double (ith + 1) remaining (double.add pi psum)

/-- The run function after the threads have been created. -/
def afterCreate (double : Double F) (threadNum : Int) (irets : List Int) :
    Program F (Option String) := do
  match ← checkThreads 0 irets with
  | some message => return some message
  | none =>
      .perform (Op.awaitWaiting threadNum)
      .perform Op.storeBarrier
      let pi ← joinThreads double 0 threadNum.toNat double.zero
      .perform (Op.printfDouble "PI = %16.14f\n" pi)
      return none

/-- The run function. -/
def runFunc (double : Double F) (threadNum cpuNum : Int) : Program F (Option String) := do
  if ¬0 < threadNum then
    return some "-t <child thread num> invalid argument."
  if ¬0 < cpuNum then
    return some "-c <num cpus> invalid argument."
  let rlimMax ← .perform Op.getrlimitNproc
  if ¬toUlong cpuNum ≤ rlimMax then
    return some "-c <num cpus> is larger than hard limit"
  let ret ← .perform (Op.setrlimitNproc (toUlong cpuNum))
  if ¬ret = 0 then
    return some "setrlimit error"
  let child ← .perform (Op.calloc threadNum)
  if ¬child then
    return some "calloc error."
  let irets ← createThreads threadNum 0 threadNum.toNat
  afterCreate double threadNum irets

end Programs

end McKernelTest.CpuThreadLimits
