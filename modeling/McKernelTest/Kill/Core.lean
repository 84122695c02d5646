import McKernelTest.Process.Trace
import McKernelTest.Posix.Fork

/-!
# The kill test cases

`kill#0`, `kill#1` and `kill#2` fork `proc_num` children, send `SIGUSR1` to them and wait
for them.  They differ in whom they send the signal to: `kill#0` to its process group,
`kill#1` to every process, and `kill#2` to a process group that it puts the children into.

The process ids are kept in the array `child_pids`, which `malloc` leaves unwritten.
Reading an entry that has not been written is a call of its own here, with any result.
-/

namespace McKernelTest.Kill

open Posix Process

/-- The calls of the test cases.  A `fork` is named by its round of the loop. -/
inductive Op where
  | malloc (bytes : Int)
  | free
  | getCpuId
  | setpgid (pid pgid : Int)
  | getpgid (pid : Int)
  | fork (cnt : Nat)
  | signal
  | waitSignal
  | sleep (seconds : Nat)
  | kill (pid : Int) (signal : Nat)
  | waitpid (pid : Int)
  | printf (format : String) (values : List Int)
  | fprintf (format : String) (values : List Int)
  | loadUnwritten (index : Nat)
  deriving DecidableEq, Repr

/-- The result of a call: an address for `malloc`, the `errno` of a `signal` that failed,
an `int`, or nothing that the code looks at. -/
@[reducible]
def Res : Op → Type
  | .malloc _ => Nat
  | .signal => Option Int
  | .getCpuId | .setpgid _ _ | .getpgid _ | .fork _ | .loadUnwritten _ => Int
  | .free | .waitSignal | .sleep _ | .kill _ _ | .waitpid _ | .printf _ _ | .fprintf _ _ => Unit

/-- How a process ends: the run function returns its message, `_exit` is called, or a
store goes through the null pointer. -/
inductive Ending where
  | returned (message : Option String)
  | exited (status : Int)
  | crashed
  deriving DecidableEq, Repr

abbrev Program := Code Op Res

section Calls

/-- `malloc` of an array. -/
abbrev malloc (bytes : Int) : Program Nat :=
  .perform (Op.malloc bytes)

/-- `free`. -/
abbrev free : Program Unit :=
  .perform Op.free

/-- `syscall(__NR_get_cpu_id)`, which only McKernel has. -/
abbrev getCpuId : Program Int :=
  .perform Op.getCpuId

/-- `setpgid`. -/
abbrev setpgid (pid pgid : Int) : Program Int :=
  .perform (Op.setpgid pid pgid)

/-- `getpgid`. -/
abbrev getpgid (pid : Int) : Program Int :=
  .perform (Op.getpgid pid)

/-- `fork` in the given round. -/
abbrev fork (cnt : Nat) : Program Int :=
  .perform (Op.fork cnt)

/-- `signal(SIGUSR1, &kill_sig_handler)`. -/
abbrev signal : Program (Option Int) :=
  .perform Op.signal

/-- The loop that runs until the handler has set `sig_count`. -/
abbrev waitSignal : Program Unit :=
  .perform Op.waitSignal

/-- `sleep`. -/
abbrev sleep (seconds : Nat) : Program Unit :=
  .perform (Op.sleep seconds)

/-- `kill`. -/
abbrev kill (pid : Int) (signal : Nat) : Program Unit :=
  .perform (Op.kill pid signal)

/-- `waitpid` for the given process. -/
abbrev waitpid (pid : Int) : Program Unit :=
  .perform (Op.waitpid pid)

/-- `printf` of a format with integer arguments. -/
abbrev printf (format : String) (values : List Int) : Program Unit :=
  .perform (Op.printf format values)

/-- `fprintf(stderr, ...)` of a format with integer arguments. -/
abbrev fprintf (format : String) (values : List Int) : Program Unit :=
  .perform (Op.fprintf format values)

/-- A read of an entry that has not been written. -/
abbrev loadUnwritten (index : Nat) : Program Int :=
  .perform (Op.loadUnwritten index)

end Calls

def sigusr1 : Nat := 10

/-- The entries of `child_pids` that have been written. -/
abbrev ChildPids := Nat → Option Int

/-- A read of `child_pids[index]`. -/
def loadPid (childPids : ChildPids) (index : Nat) : Program Int :=
  match childPids index with
  | some pid => return pid
  | none => loadUnwritten index

/-- `kill_child_fn`, which does not return. -/
def killChildFn : Program Ending := do
  let failure ← signal
  if failure ≠ none then
    fprintf "signal(SIGUSR1, ..) failed" []
    return .exited 1
  waitSignal
  return .exited 0

/-- The fork loop from the round `cnt` on, followed by `next` with the counter, the array
and `fork_error_flag`.  The array is at the address `table`. -/
def forkLoop (table : Nat) (next : Nat → ChildPids → Nat → Program Ending) (cnt : Nat)
    (childPids : ChildPids) : Nat → Program Ending
  | 0 => next cnt childPids 0
  | remaining + 1 => do
      let child ← fork cnt
      if child = -1 then
        fprintf "[warning] fork() failed.\n" []
        next cnt childPids 1
      else if child = 0 then
        killChildFn
      else
        let pgid ← getpgid child
        printf "Generate child process pid:%d, pgid:%d\n" [child, pgid]
        if table = 0 then
          return .crashed
        forkLoop table next (cnt + 1) (Function.update childPids cnt (some child)) remaining

/-- The loop that waits for the children from `cnt` on. -/
def waitLoop (childPids : ChildPids) (cnt : Nat) : Nat → Program Unit
  | 0 => return ()
  | remaining + 1 => do
      let pid ← loadPid childPids cnt
      waitpid pid
      waitLoop childPids (cnt + 1) remaining

/-- The loop of `kill#2` that puts the children from `cnt` on into one process group. -/
def setpgidLoop (childPids : ChildPids) (childPgid : Int) (cnt : Nat) : Nat → Program Unit
  | 0 => return ()
  | remaining + 1 => do
      let shown ← loadPid childPids cnt
      let asked ← loadPid childPids cnt
      let pgid ← getpgid asked
      printf "Set child process(pid:%d) pgid:%d => %d\n" [shown, pgid, childPgid]
      let moved ← loadPid childPids cnt
      let result ← setpgid moved childPgid
      if result ≠ 0 then
        let pid ← loadPid childPids cnt
        printf "<WARNING> Failed to set the PGID to child process %d.\n" [pid]
        setpgidLoop childPids childPgid (cnt + 1) remaining
      else
        setpgidLoop childPids childPgid (cnt + 1) remaining

/-- `kill#0` and `kill#1` after the fork loop: the signal goes to `target`. -/
def signalled (text : String) (target : Int) (procNum : Nat) (childPids : ChildPids) :
    Program Ending := do
  let failure ← signal
  match failure with
  | some errno =>
      free
      fprintf "signal(SIGUSR1, ..) failed (errno=%d)\n" [errno]
      return .exited 1
  | none =>
      printf "wait for a few sec...\n" []
      sleep 3
      printf text []
      kill target sigusr1
      waitLoop childPids 0 procNum
      return .returned none

/-- `kill#2` after the fork loop. -/
def regrouped (procNum : Nat) (childPids : ChildPids) (forkErrorFlag : Nat) : Program Ending := do
  let childPgid ← loadPid childPids 0
  printf "wait for a few sec...\n" []
  sleep 3
  setpgidLoop childPids childPgid 0 (procNum - forkErrorFlag)
  printf "send signal to target pgid(=%d)s\n" [childPgid]
  kill (-childPgid) sigusr1
  waitLoop childPids 0 procNum
  return .returned none

/-- The test cases. -/
inductive KillTest where
  | kill0
  | kill1
  | kill2
  deriving DecidableEq, Repr

/-- The run function after the fork loop. -/
def afterForks (test : KillTest) (procNum : Nat) (cnt : Nat) (childPids : ChildPids)
    (forkErrorFlag : Nat) : Program Ending := do
  if cnt ≤ 0 then
    free
    return .returned (some "child process nothing.")
  match test with
  | .kill0 => signalled "send signal to same pgids\n" 0 procNum childPids
  | .kill1 =>
      signalled "Send to all processes that have permission to send a signal.\n" (-1) procNum
        childPids
  | .kill2 => regrouped procNum childPids forkErrorFlag

/-- The array and the fork loop; `kill#0` first makes itself a process group. -/
def forkChildren (test : KillTest) (procNum : Nat) : Program Ending := do
  let table ← malloc (4 * procNum)
  if test = .kill0 then
    let _ ← setpgid 0 0
    forkLoop table (afterForks test procNum) 0 (fun _ => none) procNum
  else
    forkLoop table (afterForks test procNum) 0 (fun _ => none) procNum

/-- The run function. -/
def KillTest.run (test : KillTest) (procNum : Int) : Program Ending := do
  if ¬0 < procNum then
    return .returned (some "mandatory parameter '-p <num_of_child_procs>'")
  if test = .kill1 then
    let id ← getCpuId
    if id = -1 then
      return .returned (some "Don't run this TP on HostLinux!!")
    forkChildren test procNum.toNat
  else
    forkChildren test procNum.toNat

end McKernelTest.Kill
