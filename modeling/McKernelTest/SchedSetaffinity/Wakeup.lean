import McKernelTest.Flow.Core
import McKernelTest.Posix.Pipe
import McKernelTest.Posix.Signal
import McKernelTest.SchedSetaffinity.Migrate

/-!
# `sched_setaffinity#10`

The parent forks two children, moves the second one to the CPU of the first one, and wakes
both with `SIGUSR1`, for which they have installed handlers with `SA_RESETHAND`.  It forks
the second child after it has read the CPU of the first one from a pipe, and it waits for
`SIGUSR2` of the second child before it moves it.  A process waits for a signal by reading
the counter that its handler increments.

The registers that the children write, and show before and after, are left out.
-/

namespace McKernelTest.SchedSetaffinity.Wakeup

open Posix Process

/-- The children. -/
inductive ChildId where
  | first
  | second
  deriving DecidableEq, Repr

/-- The processes. -/
inductive Proc where
  | parent
  | child (id : ChildId)
  deriving DecidableEq, Repr

inductive Signal where
  | usr1
  | usr2
  | kill
  deriving DecidableEq, Repr

/-- The handlers `child_sig_hadl_p`, `child_sig_hadl_c1` and `child_sig_hadl_c2`, each of which
increments its own counter. -/
inductive Handler where
  | parent
  | child (id : ChildId)
  deriving DecidableEq, Repr

/-- The ends of the pipe. -/
abbrev Fd := PipeEnd

/-- The calls, and the accesses to the counters. -/
inductive Op where
  | sigaction (signal : Signal) (handler : Handler) (resetHand : Bool)
  | pipe
  | fork (child : ChildId)
  | getpid
  | getppid
  | getCpuId
  | writeRegisters
  | showExtendedRegisters
  | printf (format : String) (values : List Int)
  | write (value : Int)
  | read
  | close (fd : Fd)
  | kill (pid : Int) (signal : Signal)
  | loadCount (handler : Handler)
  | clearCount (handler : Handler)
  | cpuPause
  | setpgid (pid pgid : Int)
  | cpuAlloc (count : Nat)
  | cpuFree
  | schedSetaffinity (pid : Int) (size : Nat) (cpus : CpuSet)
  | waitpid (pid : Int)
  | exit (status : Int)
  deriving DecidableEq

/-- The result of a call; `CPU_ALLOC` says whether the memory is there. -/
@[reducible]
def Res : Op → Type
  | .pipe | .fork _ | .getpid | .getppid | .getCpuId | .read | .loadCount _ | .setpgid _ _
  | .schedSetaffinity _ _ _ => Int
  | .cpuAlloc _ => Bool
  | .sigaction _ _ _ | .writeRegisters | .showExtendedRegisters | .printf _ _ | .write _ | .close _
  | .kill _ _ | .clearCount _ | .cpuPause | .cpuFree | .waitpid _ | .exit _ => Unit

/-- The checks of the run function that can fail. -/
inductive Failure where
  | numOfCpus
  | pipe
  | fork1
  | fork2
  | setpgid1
  | setpgid2
  | cpuAlloc
  | setaffinity
  | setaffinityAfter
  deriving DecidableEq, Repr

/-- The message of a failed check. -/
def Failure.message : Failure → String
  | .numOfCpus => "mandatory parameter '-p <num_of_cpus>'"
  | .pipe => "make pipe failed"
  | .fork1 => "child 1 fork() Failed."
  | .fork2 => "child 2 fork() Failed."
  | .setpgid1 => "[parent] setpgid to child1 faild."
  | .setpgid2 => "[parent] setpgid child2 faild."
  | .cpuAlloc => "(child process) alloc failed."
  | .setaffinity => "sched_setaffinity failed from to process."
  | .setaffinityAfter => "sched_setaffinity failed to child process."

/-- The local variables of the parent after both forks. -/
structure Locals where
  childPid1 : Int
  childPid2 : Int
  cpuidChild1 : Int
  deriving DecidableEq, Repr

/-- The points of the run function. -/
inductive ParentPoint where
  | sigaction
  | pipe
  | fork1
  | read (childPid1 : Int)
  | closeRead (childPid1 cpuidChild1 : Int)
  | closeWrite (childPid1 cpuidChild1 : Int)
  | fork2 (childPid1 cpuidChild1 : Int)
  | release (childPid1 : Int)
  | setpgid1 (locals : Locals)
  | setpgid2 (locals : Locals)
  | kill1 (locals : Locals) (failure : Failure)
  | kill2 (locals : Locals) (failure : Failure)
  | cpuAlloc (locals : Locals)
  | loadCount (locals : Locals)
  | pause (locals : Locals)
  | clearCount (locals : Locals)
  | setaffinity (locals : Locals)
  | cpuFree (locals : Locals) (result : Int)
  | killGroup (locals : Locals)
  | wake2 (locals : Locals) (result : Int)
  | wake1 (locals : Locals) (result : Int)
  | wait1 (locals : Locals) (result : Int)
  | wait2 (locals : Locals) (result : Int)
  | print (result : Int)
  | returned (failure : Option Failure)
  deriving DecidableEq, Repr

/-- The points of `child1_fn` and `child2_fn`, and of what follows them. -/
inductive ChildPoint where
  | getpid
  | sigaction (pid : Int)
  | writeRegisters (pid : Int)
  | cpuBefore (pid : Int)
  | printBefore (pid cpu : Int)
  | floatsBefore (pid : Int)
  | showBefore (pid : Int)
  | prepare (pid : Int)
  | notify (pid value : Int)
  | loadCount (pid : Int)
  | pause (pid : Int)
  | cpuAfter (pid : Int)
  | printAfter (pid cpu : Int)
  | floatsAfter (pid : Int)
  | showAfter
  | closeRead
  | closeWrite
  | exit
  | exited
  deriving DecidableEq, Repr

/-- The points of a process. -/
@[reducible]
def Point : Proc → Type
  | .parent => ParentPoint
  | .child _ => ChildPoint

/-- The run function up to its first call. -/
def runFunc (numOfCpus : Int) : ParentPoint :=
  if numOfCpus ≠ 0 then .sigaction else .returned (some .numOfCpus)

/-- The run function in the parent. -/
def parentNode (numOfCpus : Int) : ParentPoint → Flow.Node ParentPoint Op Res
  | .sigaction => .call (.sigaction .usr2 .parent false) fun _ => .pipe
  | .pipe => .call .pipe fun result => if result ≠ -1 then .fork1 else .returned (some .pipe)
  | .fork1 => .call (.fork .first) fun childPid1 =>
      if childPid1 = -1 then .returned (some .fork1) else .read childPid1
  | .read childPid1 => .call .read fun cpuidChild1 => .closeRead childPid1 cpuidChild1
  | .closeRead childPid1 cpuidChild1 =>
      .call (.close .readEnd) fun _ => .closeWrite childPid1 cpuidChild1
  | .closeWrite childPid1 cpuidChild1 =>
      .call (.close .writeEnd) fun _ => .fork2 childPid1 cpuidChild1
  | .fork2 childPid1 cpuidChild1 => .call (.fork .second) fun childPid2 =>
      if childPid2 = -1 then .release childPid1
      else .setpgid1 ⟨childPid1, childPid2, cpuidChild1⟩
  | .release childPid1 => .call (.kill childPid1 .usr1) fun _ => .returned (some .fork2)
  | .setpgid1 locals => .call (.setpgid locals.childPid1 locals.childPid1) fun result =>
      if result = -1 then .kill1 locals .setpgid1 else .setpgid2 locals
  | .setpgid2 locals => .call (.setpgid locals.childPid2 locals.childPid1) fun result =>
      if result = -1 then .kill1 locals .setpgid2 else .cpuAlloc locals
  | .kill1 locals failure => .call (.kill locals.childPid1 .kill) fun _ => .kill2 locals failure
  | .kill2 locals failure => .call (.kill locals.childPid2 .kill) fun _ => .returned (some failure)
  | .cpuAlloc locals => .call (.cpuAlloc (Machine.toUlong numOfCpus)) fun cpusetpChild =>
      if cpusetpChild then .loadCount locals else .returned (some .cpuAlloc)
  | .loadCount locals => .call (.loadCount .parent) fun sigCountParent =>
      if sigCountParent = 0 then .pause locals else .clearCount locals
  | .pause locals => .call .cpuPause fun _ => .loadCount locals
  | .clearCount locals => .call (.clearCount .parent) fun _ => .setaffinity locals
  | .setaffinity locals =>
      .call (.schedSetaffinity locals.childPid2 (CpuSet.allocSize (Machine.toUlong numOfCpus))
        (cpusetOf locals.cpuidChild1 numOfCpus)) fun result => .cpuFree locals result
  | .cpuFree locals result => .call .cpuFree fun _ =>
      if result = -1 then .killGroup locals else .wake2 locals result
  | .killGroup locals => .call (.kill (-locals.childPid2) .usr1) fun _ =>
      .returned (some .setaffinity)
  | .wake2 locals result => .call (.kill locals.childPid2 .usr1) fun _ => .wake1 locals result
  | .wake1 locals result => .call (.kill locals.childPid1 .usr1) fun _ => .wait1 locals result
  | .wait1 locals result => .call (.waitpid locals.childPid1) fun _ => .wait2 locals result
  | .wait2 locals result => .call (.waitpid locals.childPid2) fun _ => .print result
  | .print result =>
      .call (.printf "==Please check migrated child process keep datas==\n" []) fun _ =>
        if result ≠ -1 then .returned none else .returned (some .setaffinityAfter)
  | .returned _ => .stop

/-- How a child tells the parent that it is ready. -/
inductive Notification where
  | cpu
  | wakeup
  deriving DecidableEq, Repr

/-- What differs between the children: the handler, the headings, the notification, and what
follows the second output. -/
structure Child where
  handler : Handler
  before : String
  after : String
  notification : Notification
  last : ChildPoint

/-- A child, up to its `_exit`. -/
def childNode (child : Child) : ChildPoint → Flow.Node ChildPoint Op Res
  | .getpid => .call .getpid fun curPid => .sigaction curPid
  | .sigaction curPid => .call (.sigaction .usr1 child.handler true) fun _ => .writeRegisters curPid
  | .writeRegisters curPid => .call .writeRegisters fun _ => .cpuBefore curPid
  | .cpuBefore curPid => .call .getCpuId fun cpu => .printBefore curPid cpu
  | .printBefore curPid cpu => .call (.printf child.before [curPid, cpu]) fun _ =>
      .floatsBefore curPid
  | .floatsBefore curPid =>
      .call (.printf "[pid:%d] f0 = %f, f1 = %f, f2 = %f, f3 = %f\n" [curPid]) fun _ =>
        .showBefore curPid
  | .showBefore curPid => .call .showExtendedRegisters fun _ => .prepare curPid
  | .prepare curPid =>
      match child.notification with
      | .cpu => .call .getCpuId fun curCpu => .notify curPid curCpu
      | .wakeup => .call .getppid fun ppid => .notify curPid ppid
  | .notify curPid value =>
      match child.notification with
      | .cpu => .call (.write value) fun _ => .loadCount curPid
      | .wakeup => .call (.kill value .usr2) fun _ => .loadCount curPid
  | .loadCount curPid => .call (.loadCount child.handler) fun sigCount =>
      if sigCount = 0 then .pause curPid else .cpuAfter curPid
  | .pause curPid => .call .cpuPause fun _ => .loadCount curPid
  | .cpuAfter curPid => .call .getCpuId fun cpu => .printAfter curPid cpu
  | .printAfter curPid cpu => .call (.printf child.after [curPid, cpu]) fun _ =>
      .floatsAfter curPid
  | .floatsAfter curPid =>
      .call (.printf "[pid:%d] f0 = %f, f1 = %f, f2 = %f, f3 = %f\n" [curPid]) fun _ => .showAfter
  | .showAfter => .call .showExtendedRegisters fun _ => child.last
  | .closeRead => .call (.close .readEnd) fun _ => .closeWrite
  | .closeWrite => .call (.close .writeEnd) fun _ => .exit
  | .exit => .call (.exit 0) fun _ => .exited
  | .exited => .stop

/-- `child1_fn`, and what the first child does after it. -/
def child1Fn : Child where
  handler := .child .first
  before := "==[child1:%d on cpu%d] before migrate==\n"
  after := "==[child1:%d on cpu%d] after migrate==\n"
  notification := .cpu
  last := .closeRead

/-- `child2_fn`, and what the second child does after it. -/
def child2Fn : Child where
  handler := .child .second
  before := "==[child2:%d on cpu%d] before migrate==\n"
  after := "==[child2:%d on cpu%d] after migrate==\n"
  notification := .wakeup
  last := .exit

/-- The functions of the children. -/
def childFn : ChildId → Child
  | .first => child1Fn
  | .second => child2Fn

/-- The programs of all processes. -/
def node (numOfCpus : Int) : (proc : Proc) → Point proc → Flow.Node (Point proc) Op Res
  | .parent => parentNode numOfCpus
  | .child id => childNode (childFn id)

/-! ## Running the processes -/

/-- What the system answers.  A new process has an id that no other process and no group has. -/
structure Environment where
  parentPid : Int
  parentGroup : Int
  pipe : Int
  fork1 : Int
  fork2 : Int
  setpgid1 : Int
  setpgid2 : Int
  cpuAlloc : Bool
  setaffinity : Int
  parentPid_pos : 0 < parentPid
  fork1_valid : fork1 = -1 ∨ 1 < fork1 ∧ fork1 ≠ parentPid ∧ fork1 ≠ parentGroup
  fork2_valid : fork2 = -1 ∨
    1 < fork2 ∧ fork2 ≠ parentPid ∧ fork2 ≠ parentGroup ∧ fork2 ≠ fork1

/-- The result of `fork`. -/
def Environment.fork (env : Environment) : ChildId → Int
  | .first => env.fork1
  | .second => env.fork2

/-- The id of a process. -/
def Environment.pidOf (env : Environment) : Proc → Int
  | .parent => env.parentPid
  | .child id => env.fork id

/-- How a process has ended. -/
inductive Ending where
  | exited (status : Int)
  | killed (signal : Signal)
  deriving DecidableEq, Repr

/-- A process: its dispositions, its pending signals, the counters in its memory, its group if
it exists, and how it has ended. -/
structure ProcState where
  actions : Signal → Disposition Handler
  pending : Signal → Bool
  counts : Handler → Int
  group : Option Int
  ended : Option Ending

/-- The processes, and the numbers in the pipe. -/
structure World where
  procs : Proc → ProcState
  queue : List Int

/-- The world after a change of one process. -/
def World.set (world : World) (proc : Proc) (state : ProcState) : World :=
  { world with procs := Function.update world.procs proc state }

/-- A new process has the dispositions, the counters and the group of its parent, and no pending
signals. -/
def ProcState.forked (state : ProcState) : ProcState :=
  { state with pending := fun _ => false }

/-- The world after `kill`: the signal is pending in the running processes that it addresses. -/
def World.kill (env : Environment) (world : World) (caller : Proc) (pid : Int) (signal : Signal) :
    World :=
  { world with
    procs := fun proc =>
      let state := world.procs proc
      if state.group.isSome = true ∧ state.ended = none ∧
          Addresses env.pidOf (fun proc => (world.procs proc).group) (world.procs caller).group pid
            proc then
        { state with pending := Function.update state.pending signal true }
      else
        state }

/-- The world after `setpgid`. -/
def World.setpgid (env : Environment) (world : World) (pid pgid : Int) : World :=
  { world with
    procs := fun proc =>
      let state := world.procs proc
      if env.pidOf proc = pid ∧ state.group.isSome = true then { state with group := some pgid }
      else state }

/-- The result of `setpgid`: that of the first or of the second call. -/
def Environment.setpgid (env : Environment) (pid : Int) : Int :=
  if pid = env.fork1 then env.setpgid1 else env.setpgid2

/-- `waitpid` finds a child that has ended. -/
def World.canWait (env : Environment) (world : World) (pid : Int) : Bool :=
  [ChildId.first, .second].any fun child =>
    env.fork child = pid && (world.procs (.child child)).ended.isSome

/-- The world after a call of a process that is running. -/
def performRunning (env : Environment) (world : World) (proc : Proc) :
    (op : Op) → Res op → Option World
  | .sigaction signal handler resetHand, _ =>
      let state := world.procs proc
      some (world.set proc
        { state with
          actions := Function.update state.actions signal (.handler handler resetHand) })
  | .pipe, result => if result = env.pipe then some world else none
  | .fork child, result =>
      if result = env.fork child then
        some (if result = -1 then world else world.set (.child child) (world.procs proc).forked)
      else
        none
  | .getpid, result => if result = env.pidOf proc then some world else none
  | .getppid, result => if result = env.parentPid then some world else none
  | .write value, _ => some { world with queue := world.queue ++ [value] }
  | .read, result =>
      match world.queue with
      | [] => none
      | value :: rest => if result = value then some { world with queue := rest } else none
  | .kill pid signal, _ => some (world.kill env proc pid signal)
  | .loadCount handler, result =>
      if result = (world.procs proc).counts handler then some world else none
  | .clearCount handler, _ =>
      let state := world.procs proc
      some (world.set proc { state with counts := Function.update state.counts handler 0 })
  | .setpgid pid pgid, result =>
      if result = env.setpgid pid then
        some (if result = -1 then world else world.setpgid env pid pgid)
      else
        none
  | .cpuAlloc _, result => if result = env.cpuAlloc then some world else none
  | .schedSetaffinity _ _ _, result => if result = env.setaffinity then some world else none
  | .waitpid pid, _ => if world.canWait env pid then some world else none
  | .exit status, _ =>
      some (world.set proc { world.procs proc with ended := some (.exited status) })
  | .getCpuId, _ | .writeRegisters, _ | .showExtendedRegisters, _ | .printf _ _, _ | .close _, _
  | .cpuPause, _ | .cpuFree, _ => some world

/-- The world after a call; a process that has ended makes none. -/
def perform (env : Environment) (world : World) (proc : Proc) (op : Op) (result : Res op) :
    Option World :=
  if (world.procs proc).ended = none then performRunning env world proc op result else none

/-- The process that `fork` starts. -/
def spawn (_ : Proc) : (op : Op) → Res op → Option ((proc : Proc) × Point proc)
  | .fork child, result => if result = -1 then none else some ⟨.child child, ChildPoint.getpid⟩
  | _, _ => none

/-- What a process does on a signal; nothing can be done about `SIGKILL`. -/
def ProcState.action (state : ProcState) (signal : Signal) : Disposition Handler :=
  if signal = .kill then .default else state.actions signal

/-- A process after a signal: it has ended, or the handler has incremented its counter. -/
def ProcState.handle (state : ProcState) (signal : Signal) : ProcState :=
  let pending := Function.update state.pending signal false
  match state.action signal with
  | .default => { state with pending := pending, ended := some (.killed signal) }
  | .handler handler resetHand =>
      { state with
        pending := pending
        actions := Function.update state.actions signal (Disposition.handler handler resetHand).next
        counts := Function.update state.counts handler (state.counts handler + 1) }

/-- The delivery of a pending signal. -/
def deliver (world : World) (proc : Proc) (signal : Signal) : Option World :=
  if (world.procs proc).pending signal = true ∧ (world.procs proc).ended = none then
    some (world.set proc ((world.procs proc).handle signal))
  else
    none

/-- The system of all processes; signals are delivered at any time. -/
def system (env : Environment) (numOfCpus : Int) :
    Flow.System Proc Point Op Res (Proc × Signal) World where
  node := node numOfCpus
  perform := perform env
  spawn := spawn
  external := fun world cause => deliver world cause.1 cause.2

abbrev WakeupConfig := Flow.Config Proc Point World

abbrev WakeupEvent := Event Proc Op Res (Proc × Signal)

/-- A process at the start of the test case. -/
def idle (group : Option Int) : ProcState :=
  ⟨fun _ => .default, fun _ => false, fun _ => 0, group, none⟩

/-- The start of the run function. -/
def start (env : Environment) (numOfCpus : Int) : WakeupConfig where
  world :=
    { procs
        | .parent => idle (some env.parentGroup)
        | .child _ => idle none
      queue := [] }
  point
    | .parent => some (runFunc numOfCpus)
    | .child _ => none

end McKernelTest.SchedSetaffinity.Wakeup
