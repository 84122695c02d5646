import McKernelTest.Posix.Fork
import McKernelTest.Posix.Pipe
import Mathlib.Algebra.Group.Int.Defs
import Mathlib.Algebra.Group.Nat.Defs

/-!
# The pipe hand-shake of `setpgid#0` and `getppid#0`

Two test cases synchronise a parent and a child over two pipes, `p2c` from the
parent to the child and `c2p` back.  The child announces itself with a
message, the parent answers, and the child confirms with a second message.

The messages are `PIPE_BUF_SIZE + 1` bytes long, although they are written
from the shorter literal `"1234567890"`: the bytes behind the literal are
whatever the program image holds there.
-/

namespace McKernelTest.PipeSync

open Posix Process

/-- The two pipes. -/
inductive PipeName where
  | p2c
  | c2p
  deriving DecidableEq, Repr

/-- The calls of the two test cases. -/
inductive Op where
  | pipe (pipe : PipeName)
  | fork
  | read (pipe : PipeName) (count : Nat)
  | write (pipe : PipeName) (data : List UInt8)
  | close (pipe : PipeName) (side : PipeEnd)
  | setpgid (pid pgid : Int)
  | getpid
  | getppid
  | getpgid (pid : Int)
  | printf (format : String) (values : List Int)
  deriving DecidableEq, Repr

/-- The result of a call.  The results of `write`, `close` and `printf` are
ignored by the code. -/
@[reducible]
def Res : Op → Type
  | .pipe _ | .fork | .setpgid _ _ | .getpid | .getppid | .getpgid _ => Int
  | .read _ _ => List UInt8
  | .write _ _ | .close _ _ | .printf _ _ => Unit

/-- How a process of a test case ends: the run function returns its message,
or the child exits. -/
inductive Ending where
  | returned (message : Option String)
  | exited (status : Int)
  deriving DecidableEq, Repr

abbrev Program := Code Op Res

/-- `PIPE_BUF_SIZE`. -/
def pipeBufSize : Nat := 0x10

/-- The message of the child and, in `setpgid#0`, of the parent. -/
def syncMessage (beyond : Nat → UInt8) : List UInt8 :=
  literalBytes "1234567890" beyond (pipeBufSize + 1)

@[simp]
theorem syncMessage_length (beyond : Nat → UInt8) :
    (syncMessage beyond).length = pipeBufSize + 1 := by
  simp [syncMessage]

/-- The object representation of a `pid_t`: four bytes, least significant
first. -/
def pidBytes (pid : Int) : List UInt8 :=
  (List.range 4).map fun i => UInt8.ofNat ((pid % 2 ^ 32).toNat / 256 ^ i % 256)

/-- The `pid_t` that four bytes represent. -/
def pidOfBytes (bytes : List UInt8) : Int :=
  Int.bmod (bytes.foldr (fun byte value => byte.toNat + 256 * value) 0 : Nat) (2 ^ 32)

section Code

/-- `pipe`. -/
abbrev pipe (name : PipeName) : Program Int :=
  .perform (Op.pipe name)

/-- `fork`. -/
abbrev fork : Program Int :=
  .perform Op.fork

/-- `read` into a buffer of which only the returned bytes matter. -/
abbrev read (name : PipeName) (count : Nat) : Program (List UInt8) :=
  .perform (Op.read name count)

/-- `write` of the given bytes. -/
abbrev write (name : PipeName) (data : List UInt8) : Program Unit :=
  .perform (Op.write name data)

/-- `close`. -/
abbrev close (name : PipeName) (side : PipeEnd) : Program Unit :=
  .perform (Op.close name side)

/-- `setpgid`. -/
abbrev setpgid (pid pgid : Int) : Program Int :=
  .perform (Op.setpgid pid pgid)

/-- `getpid`. -/
abbrev getpid : Program Int :=
  .perform Op.getpid

/-- `getppid`. -/
abbrev getppid : Program Int :=
  .perform Op.getppid

/-- `getpgid`. -/
abbrev getpgid (pid : Int) : Program Int :=
  .perform (Op.getpgid pid)

/-- `printf` of a format with integer arguments. -/
abbrev printf (format : String) (values : List Int) : Program Unit :=
  .perform (Op.printf format values)

variable (beyond : Nat → UInt8)

/-- `close_all_pipes`. -/
def closeAllPipes : Program Unit := do
  close .p2c .readEnd
  close .p2c .writeEnd
  close .c2p .readEnd
  close .c2p .writeEnd

/-- `setpgid0_parent_fn`. -/
def setpgid0ParentFn (childPid : Int) : Program (Option String) := do
  let _ ← read .c2p pipeBufSize
  printf "[parent] now rewrite child pgid\n" []
  let result ← setpgid childPid childPid
  if result = -1 then
    return some "[parent] setpgid faild."
  write .p2c (syncMessage beyond)
  let _ ← read .c2p pipeBufSize
  return none

/-- `setpgid0_child_fn`. -/
def setpgid0ChildFn : Program (Option String) := do
  let cPid ← getpid
  if cPid = -1 then
    return some "[child] getpid faild."
  let cPgid ← getpgid cPid
  if cPgid = -1 then
    return some "[child] getpgid faild."
  printf "[child] pid=%d, pgid=%d\n" [cPid, cPgid]
  write .c2p (syncMessage beyond)
  let _ ← read .p2c pipeBufSize
  let cPgid ← getpgid cPid
  if cPgid = -1 then
    return some "[child] getpgid faild."
  printf "[child] pid=%d, pgid=%d\n" [cPid, cPgid]
  write .c2p (syncMessage beyond)
  return none

/-- `getppid0_parent_fn`. -/
def getppid0ParentFn : Program (Option String) := do
  let _ ← read .c2p pipeBufSize
  let pPid ← getpid
  printf "[parent] pid=%d\n" [pPid]
  write .p2c (pidBytes pPid)
  let _ ← read .c2p pipeBufSize
  return none

/-- `getppid0_child_fn`. -/
def getppid0ChildFn : Program (Option String) := do
  let cPpid ← getppid
  printf "[child] ppid=%d\n" [cPpid]
  write .c2p (syncMessage beyond)
  let bytes ← read .p2c 4
  if cPpid ≠ pidOfBytes bytes then
    return some "[child] getppid faild."
  write .c2p (syncMessage beyond)
  return none

/-- The run function that both test cases share, up to the functions of the
two processes. -/
def runFunc (parentFn : Int → Program (Option String)) (childFn : Program (Option String)) :
    Program Ending := do
  let ret ← pipe .p2c
  if ret = -1 then
    return .returned (some "make pipe failed")
  let ret ← pipe .c2p
  if ret = -1 then
    close .p2c .readEnd
    close .p2c .writeEnd
    return .returned (some "make pipe failed")
  let childPid ← fork
  if childPid = -1 then
    return .returned (some "fork faild.")
  if childPid = 0 then
    let _ ← childFn
    closeAllPipes
    return .exited 0
  else
    let _ ← parentFn childPid
    closeAllPipes
    return .returned none

end Code

/-- The two test cases. -/
inductive SyncTest where
  | setpgid0
  | getppid0
  deriving DecidableEq, Repr

/-- The run function of a test case. -/
def SyncTest.run (beyond : Nat → UInt8) : SyncTest → Program Ending
  | .setpgid0 => runFunc (setpgid0ParentFn beyond) (setpgid0ChildFn beyond)
  | .getppid0 => runFunc (fun _ => getppid0ParentFn) (getppid0ChildFn beyond)

/-! ## Running the two processes -/

/-- The bytes in each pipe. -/
abbrev Pipes := PipeName → List UInt8

/-- The results of `pipe`. -/
def isPipeResult (result : Int) : Bool :=
  result = 0 || result = -1

/-- The kernel: byte queues, and arbitrary results for everything that is not
a read. -/
def perform (pipes : Pipes) (_ : Role) : (op : Op) → Res op → Option Pipes
  | .read pipe count, bytes =>
      (readQueue (pipes pipe) count bytes).map (Function.update pipes pipe)
  | .write pipe data, _ => some (Function.update pipes pipe (pipes pipe ++ data))
  | .pipe _, result => if isPipeResult result then some pipes else none
  | .fork, pid => if isForkResult pid then some pipes else none
  | .close _ _, _ | .setpgid _ _, _ | .getpid, _ | .getppid, _ | .getpgid _, _
  | .printf _ _, _ => some pipes

/-- Only `fork` starts a process. -/
def spawn (_ : Role) : (op : Op) → Res op → (Res op → Program Ending) →
    Option (Role × Program Ending)
  | .fork, pid, next => forkChild pid next
  | _, _, _ => none

/-- The system of the two processes. -/
def system : System Role Op Res Ending Empty Pipes where
  perform := perform
  spawn := spawn
  external := fun _ cause => cause.elim

abbrev SyncConfig := Config Role Op Res Ending Pipes

abbrev SyncEvent := Event Role Op Res Empty

/-- The start of a test case: one process, empty pipes. -/
def start (beyond : Nat → UInt8) (test : SyncTest) : SyncConfig where
  world := fun _ => []
  code := family (test.run beyond) none

end McKernelTest.PipeSync
