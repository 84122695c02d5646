import McKernelTest.Posix.Pipe
import McKernelTest.Process.Protocol
import McKernelTest.Text.Format

/-!
# `cpu_proc_limits#0`

The test case starts `proc_num` children, each with a pipe pair: `p2c` from the
parent to the child and `c2p` back.  It then kicks every child and reads every
answer.  Descriptors are tracked per process, because a read only sees the end
of a pipe when no process holds its write end any more.

A child may be killed at any time.  Its descriptors are closed then, and so are
those of a process that writes to a pipe without a reader.
-/

namespace McKernelTest.CpuProcLimits

open Posix Process

/-- The processes of the test case. -/
inductive Pid where
  | parent
  | child (id : Nat)
  deriving DecidableEq, Repr

/-- The pipes `pp[i].p2c` and `pp[i].c2p`. -/
inductive PipeId where
  | p2c (id : Nat)
  | c2p (id : Nat)
  deriving DecidableEq, Repr

/-- A descriptor: one end of one pipe. -/
structure Fd where
  pipe : PipeId
  side : PipeEnd
  deriving DecidableEq, Repr

/-- The calls of the test case.  The process that `fork` starts is named by its
place in `pp`. -/
inductive Op where
  | getrlimit
  | setrlimit (cur : Int)
  | calloc (count : Int)
  | free
  | pipe (pipe : PipeId)
  | fork (child : Nat)
  | close (fd : Fd)
  | read (fd : Fd) (count : Nat)
  | write (fd : Fd) (data : List UInt8)
  | sleep (seconds : Nat)
  | getpid
  | printf (format : String) (values : List Int)
  | exit (status : Int)
  deriving DecidableEq, Repr

/-- The result of a call: the hard limit, an address, the bytes read, with none
at the end of the pipe, or an `int`.  Other results are ignored by the code. -/
@[reducible]
def Res : Op → Type
  | .getrlimit | .calloc _ | .getpid => Nat
  | .setrlimit _ | .pipe _ | .fork _ => Int
  | .read _ _ => List UInt8
  | .free | .close _ | .write _ _ | .sleep _ | .printf _ _ | .exit _ => Unit

/-- How a process ends: the run function returns its message, or the child has
exited. -/
inductive Ending where
  | returned (message : Option String)
  | exited
  deriving DecidableEq, Repr

abbrev Program := Code Op Res

section Calls

/-- `getrlimit`, of which the hard limit is used. -/
abbrev getrlimit : Program Nat :=
  .perform Op.getrlimit

/-- `setrlimit` with the given soft limit. -/
abbrev setrlimit (cur : Int) : Program Int :=
  .perform (Op.setrlimit cur)

/-- `calloc` of the pipe table. -/
abbrev calloc (count : Int) : Program Nat :=
  .perform (Op.calloc count)

/-- `free` of the pipe table. -/
abbrev free : Program Unit :=
  .perform Op.free

/-- `pipe`. -/
abbrev pipe (name : PipeId) : Program Int :=
  .perform (Op.pipe name)

/-- `fork` of the child with the given place in the table. -/
abbrev fork (child : Nat) : Program Int :=
  .perform (Op.fork child)

/-- `close`. -/
abbrev close (fd : Fd) : Program Unit :=
  .perform (Op.close fd)

/-- `read`. -/
abbrev read (fd : Fd) (count : Nat) : Program (List UInt8) :=
  .perform (Op.read fd count)

/-- `write`. -/
abbrev write (fd : Fd) (data : List UInt8) : Program Unit :=
  .perform (Op.write fd data)

/-- `sleep`. -/
abbrev sleep (seconds : Nat) : Program Unit :=
  .perform (Op.sleep seconds)

/-- `getpid`. -/
abbrev getpid : Program Nat :=
  .perform Op.getpid

/-- `printf` of a format with integer arguments. -/
abbrev printf (format : String) (values : List Int) : Program Unit :=
  .perform (Op.printf format values)

/-- `_exit`. -/
abbrev exit (status : Int) : Program Unit :=
  .perform (Op.exit status)

end Calls

/-- `PIPE_BUF_SIZE`. -/
def pipeBufSize : Nat := 0x10

/-- `CHILD_SLEEP_SEC`. -/
def childSleepSec : Nat := 3

/-- The buffer after `snprintf` of a process id into zeros. -/
def answerBytes (pid : Nat) : List UInt8 :=
  (Text.snprintf (List.replicate pipeBufSize Text.nul) 0 pipeBufSize
    (Text.padZero 10 (Text.decimal pid))).1.map fun char => UInt8.ofNat char.toNat

theorem answerBytes_ne_nil (pid : Nat) : answerBytes pid ≠ [] := by
  have sized : (answerBytes pid).length = pipeBufSize := by
    simp only [answerBytes, Text.snprintf, List.length_map]
    rw [if_neg (by decide), Text.store_length]
    · simp
    · simp only [List.length_append, List.length_take, List.length_replicate, pipeBufSize,
        List.length_singleton]
      omega
  intro empty
  simp [empty, pipeBufSize] at sized

def p2cRead (id : Nat) : Fd := ⟨.p2c id, .readEnd⟩

def p2cWrite (id : Nat) : Fd := ⟨.p2c id, .writeEnd⟩

def c2pRead (id : Nat) : Fd := ⟨.c2p id, .readEnd⟩

def c2pWrite (id : Nat) : Fd := ⟨.c2p id, .writeEnd⟩

/-- `child_fn`. -/
def childFn (id : Nat) : Program Unit := do
  let buf ← read (p2cRead id) pipeBufSize
  if buf = [] then
    return ()
  sleep childSleepSec
  let pid ← getpid
  write (c2pWrite id) (answerBytes pid)

/-- The child's part of the run function. -/
def childBranch (forks : Nat) : Program Ending := do
  close (p2cWrite forks)
  close (c2pRead forks)
  childFn forks
  close (p2cRead forks)
  close (c2pWrite forks)
  free
  exit 0
  return .exited

/-- The loop that closes what the parent keeps of the pipes from `i` on. -/
def closeKept (i : Nat) : Nat → Program Unit
  | 0 => return ()
  | remaining + 1 => do
      close (p2cWrite i)
      close (c2pRead i)
      closeKept (i + 1) remaining

/-- The loop that kicks the children from `i` on. -/
def kick (beyond : Nat → UInt8) (i : Nat) : Nat → Program Unit
  | 0 => return ()
  | remaining + 1 => do
      write (p2cWrite i) (literalBytes "1234567890" beyond (pipeBufSize + 1))
      kick beyond (i + 1) remaining

/-- The loop that reads the answers from `i` on. -/
def collect (i : Nat) : Nat → Program Unit
  | 0 => return ()
  | remaining + 1 => do
      let _ ← read (c2pRead i) pipeBufSize
      close (p2cWrite i)
      close (c2pRead i)
      collect (i + 1) remaining

/-- The parent's part of the run function after all the forks. -/
def afterForks (beyond : Nat → UInt8) (procNum : Nat) : Program Ending := do
  let _ ← getpid
  kick beyond 0 procNum
  printf "Wait children's process will be finished. (about %dsec...)\n" [childSleepSec]
  collect 0 procNum
  free
  return .returned none

/-- The end of a run whose pipes could not be made. -/
def pipeFailed (forks : Nat) (p2cRet c2pRet : Int) : Program Ending := do
  closeKept 0 forks
  if p2cRet ≠ -1 then
    close (p2cRead forks)
    close (p2cWrite forks)
  if c2pRet ≠ -1 then
    close (c2pRead forks)
    close (c2pWrite forks)
  free
  return .returned (some "pipe open faild!!\n")

/-- One pass through `forkone` with `forks` children started; `next` is what
the parent does after a successful fork. -/
def forkStep (forks : Nat) (next : Program Ending) : Program Ending := do
  let p2cRet ← pipe (.p2c forks)
  let c2pRet ← pipe (.c2p forks)
  if p2cRet = -1 ∨ c2pRet = -1 then
    pipeFailed forks p2cRet c2pRet
  else
    let pid1 ← fork forks
    if pid1 ≠ 0 then
      if pid1 < 0 then
        closeKept 0 (forks + 1)
        free
        return .returned (some "fork() Failed.")
      else
        next
    else
      childBranch forks

/-- The label `forkone` with `forks` children started and `remaining` to
follow the next one.  The last child is not followed by the two closes. -/
def forkone (beyond : Nat → UInt8) (forks : Nat) : Nat → Program Ending
  | 0 => forkStep forks (afterForks beyond (forks + 1))
  | remaining + 1 =>
      forkStep forks do
        close (p2cRead forks)
        close (c2pWrite forks)
        forkone beyond (forks + 1) remaining

/-- The run function. -/
def runFunc (beyond : Nat → UInt8) (procNum cpuNum : Int) : Program Ending := do
  if ¬0 < procNum then
    return .returned (some "-p <child proc num> invalid argument.")
  if ¬0 < cpuNum then
    return .returned (some "-c <num cpus> invalid argument.")
  let rlimMax ← getrlimit
  if ¬cpuNum ≤ rlimMax then
    return .returned (some "-c <num cpus> is larger than hard limit")
  let ret ← setrlimit cpuNum
  if ret ≠ 0 then
    return .returned (some "setrlimit error")
  let pp ← calloc procNum
  if pp = 0 then
    return .returned (some "calloc error.")
  forkone beyond 0 (procNum.toNat - 1)

/-! ## Running the processes -/

/-- The bytes in each pipe, the open descriptors and the living processes. -/
structure World where
  queue : PipeId → List UInt8
  opens : List (Pid × Fd)
  alive : Pid → Bool

namespace World

/-- Some process holds the descriptor. -/
def isOpen (world : World) (fd : Fd) : Bool :=
  world.opens.any fun entry => entry.2 = fd

/-- The process ends, and its descriptors are closed. -/
def die (world : World) (pid : Pid) : World :=
  { world with
    opens := world.opens.filter fun entry => entry.1 ≠ pid
    alive := Function.update world.alive pid false }

/-- The child starts with a copy of the descriptors of the parent. -/
def birth (world : World) (pid child : Pid) : World :=
  { world with
    opens := world.opens ++
      (world.opens.filter fun entry => entry.1 = pid).map fun entry => (child, entry.2)
    alive := Function.update world.alive child true }

end World

/-- The results of `pipe`. -/
def pipeOn (world : World) (pid : Pid) (name : PipeId) (result : Int) : Option World :=
  if result = 0 then
    some { world with opens := (pid, ⟨name, .readEnd⟩) :: (pid, ⟨name, .writeEnd⟩) :: world.opens }
  else if result = -1 then some world
  else none

/-- The results of `fork` in the parent. -/
def forkOn (world : World) (pid : Pid) (child : Nat) (result : Int) : Option World :=
  if 0 < result then some (world.birth pid (.child child))
  else if result = -1 then some world
  else none

/-- A read waits for bytes or for the end of the pipe. -/
def readOn (world : World) (fd : Fd) (count : Nat) (bytes : List UInt8) : Option World :=
  if world.queue fd.pipe = [] then
    if bytes = [] ∧ world.isOpen ⟨fd.pipe, .writeEnd⟩ = false then some world else none
  else
    (readQueue (world.queue fd.pipe) count bytes).map fun rest =>
      { world with queue := Function.update world.queue fd.pipe rest }

/-- A write appends its bytes, or kills the writer when there is no reader. -/
def writeOn (world : World) (pid : Pid) (fd : Fd) (data : List UInt8) : World :=
  if world.isOpen ⟨fd.pipe, .readEnd⟩ then
    { world with queue := Function.update world.queue fd.pipe (world.queue fd.pipe ++ data) }
  else
    world.die pid

/-- The kernel, for a living process. -/
def performAlive (world : World) (pid : Pid) : (op : Op) → Res op → Option World
  | .pipe name, result => pipeOn world pid name result
  | .fork child, result => forkOn world pid child result
  | .close fd, _ => some { world with opens := world.opens.filter fun entry => entry ≠ (pid, fd) }
  | .read fd count, bytes => readOn world fd count bytes
  | .write fd data, _ => some (writeOn world pid fd data)
  | .exit _, _ => some (world.die pid)
  | .getrlimit, _ | .setrlimit _, _ | .calloc _, _ | .free, _ | .sleep _, _ | .getpid, _
  | .printf _ _, _ => some world

/-- The kernel. -/
def perform (world : World) (pid : Pid) (op : Op) (result : Res op) : Option World :=
  if world.alive pid then performAlive world pid op result else none

/-- A successful `fork` starts the child, which sees the result 0. -/
def forkChild (child : Nat) (pid : Int) (next : Int → Program Ending) :
    Option (Pid × Program Ending) :=
  if 0 < pid then some (.child child, next 0) else none

/-- Only `fork` starts a process. -/
def spawn (_ : Pid) : (op : Op) → Res op → (Res op → Program Ending) →
    Option (Pid × Program Ending)
  | .fork child, pid, next => forkChild child pid next
  | _, _, _ => none

/-- A living child can be killed at any time. -/
def kill (world : World) (child : Nat) : Option World :=
  if world.alive (.child child) then some (world.die (.child child)) else none

/-- The system of the parent and its children; the environment kills children. -/
def system : System Pid Op Res Ending Nat World where
  perform := perform
  spawn := spawn
  external := kill

abbrev LimitsConfig := Config Pid Op Res Ending World

abbrev LimitsEvent := Event Pid Op Res Nat

/-- The start of the test case. -/
def start (beyond : Nat → UInt8) (procNum cpuNum : Int) : LimitsConfig where
  world := ⟨fun _ => [], [], fun pid => pid = .parent⟩
  code := fun
    | .parent => some (runFunc beyond procNum cpuNum)
    | .child _ => none

end McKernelTest.CpuProcLimits
