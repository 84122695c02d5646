import McKernelTest.Flow.Core
import McKernelTest.Posix.Pipe
import McKernelTest.Posix.Semaphore
import McKernelTest.SchedSetaffinity.Migrate

/-!
# `sched_setaffinity#11`

The run function creates two threads, one after the other, and gets to know the CPU and the
id of each of them through a pipe.  It closes each pipe as soon as it has read from it, so
the second pipe may get the descriptors of the first one.  The threads share the table of
descriptors and close the descriptors of their pipes once more at their end.  Then the run
function moves the second thread to the CPU of the first one.

The registers that the threads write and show are left out.
-/

namespace McKernelTest.SchedSetaffinity.Threads

open Posix Process

/-- `CHILD_THREAD_COUNT`. -/
def childThreadCount : Nat := 2

inductive Thread where
  | main
  | child (i : Nat)
  deriving DecidableEq, Repr

/-- The semaphores of a thread. -/
inductive Sem where
  | sync (i : Nat)
  | start (i : Nat)
  deriving DecidableEq, Repr

abbrev Fd := Nat

/-- `struct child_thread_info`. -/
structure Info where
  cpuid : Int
  tid : Int
  deriving DecidableEq, Repr

/-- The calls, and the accesses to `children`. -/
inductive Op where
  | pipe (i : Nat)
  | storeFds (i : Nat) (readFd writeFd : Fd)
  | loadReadFd (i : Nat)
  | loadWriteFd (i : Nat)
  | semInit (sem : Sem)
  | semPost (sem : Sem)
  | semWait (sem : Sem)
  | semDestroy (sem : Sem)
  | pthreadCreate (i : Nat)
  | pthreadJoin (i : Nat)
  | threadReturn (i : Nat)
  | read (fd : Fd)
  | write (fd : Fd) (info : Info)
  | close (fd : Fd)
  | cpuAlloc (count : Nat)
  | cpuFree
  | fflush
  | schedSetaffinity (tid : Int) (size : Nat) (cpus : CpuSet)
  | getCpuId
  | gettid
  | writeRegisters
  | showExtendedRegisters
  | printf (format : String) (values : List Int)
  deriving DecidableEq

/-- The result of a call.  `pipe` returns the descriptors if it succeeds, and `read` what it has
put into the buffer. -/
@[reducible]
def Res : Op → Type
  | .pipe _ => Option (Fd × Fd)
  | .loadReadFd _ | .loadWriteFd _ => Fd
  | .read _ => Option Info
  | .cpuAlloc _ => Bool
  | .pthreadCreate _ | .close _ | .schedSetaffinity _ _ _ | .getCpuId | .gettid => Int
  | .storeFds _ _ _ | .semInit _ | .semPost _ | .semWait _ | .semDestroy _ | .pthreadJoin _
  | .threadReturn _ | .write _ _ | .cpuFree | .fflush | .writeRegisters
  | .showExtendedRegisters | .printf _ _ => Unit

/-- The checks of the run function that can fail. -/
inductive Failure where
  | numOfCpus
  | cpuAlloc
  | setaffinity
  deriving DecidableEq, Repr

/-- The message of a failed check. -/
def Failure.message : Failure → String
  | .numOfCpus => "mandatory parameter '-p <num_of_cpus>'"
  | .cpuAlloc => "(child process) alloc failed."
  | .setaffinity => "sched_setaffinity failed from to process."

/-- The local variables `pipe_fd` and `child_info`. -/
structure Locals where
  readFd : Fd
  writeFd : Fd
  info0 : Info
  info1 : Info
  deriving DecidableEq, Repr

/-- `child_info` after a call of `read` for a thread. -/
def Locals.setInfo (locals : Locals) (i : Nat) : Option Info → Locals
  | none => locals
  | some info => if i = 0 then { locals with info0 := info } else { locals with info1 := info }

/-- The points of the run function. -/
inductive MainPoint where
  | pipe (i : Nat) (locals : Locals)
  | storeFds (i : Nat) (locals : Locals)
  | initSync (i : Nat) (locals : Locals)
  | initStart (i : Nat) (locals : Locals)
  | create (i : Nat) (locals : Locals)
  | read (i : Nat) (locals : Locals)
  | closeRead (i : Nat) (locals : Locals)
  | closeWrite (i : Nat) (locals : Locals)
  | cpuAlloc (locals : Locals)
  | waitSync (i : Nat) (locals : Locals)
  | fflush (locals : Locals)
  | setaffinity (locals : Locals)
  | cpuFree (result : Int)
  | postStart1 (result : Int)
  | postStart0 (result : Int)
  | join (i : Nat) (result : Int)
  | destroySync (i : Nat) (result : Int)
  | destroyStart (i : Nat) (result : Int)
  | returned (failure : Option Failure)
  deriving DecidableEq, Repr

/-- The points of `func_c1` and `func_c2`, and of `child_fn_common` in them. -/
inductive ChildPoint where
  | writeRegisters
  | getCpuId
  | gettid (cpuid : Int)
  | loadFd (info : Info)
  | write (fd : Fd) (info : Info)
  | printBefore (info : Info)
  | showBefore
  | postSync
  | waitStart
  | getCpuIdAfter
  | gettidAfter (cpuid : Int)
  | printAfter (info : Info)
  | showAfter
  | loadReadFd
  | closeRead (fd : Fd)
  | loadWriteFd
  | closeWrite (fd : Fd)
  | threadReturn
  | exited
  deriving DecidableEq, Repr

/-- The points of a thread. -/
@[reducible]
def Point : Thread → Type
  | .main => MainPoint
  | .child _ => ChildPoint

/-- The head of the loop that creates the threads. -/
def createLoop (i : Nat) (locals : Locals) : MainPoint :=
  if i < childThreadCount then .pipe i locals else .cpuAlloc locals

/-- The head of the loop that waits for the threads. -/
def waitLoop (i : Nat) (locals : Locals) : MainPoint :=
  if i < childThreadCount then .waitSync i locals else .fflush locals

/-- The head of the loop that joins the threads, and the check behind it. -/
def joinLoop (i : Nat) (result : Int) : MainPoint :=
  if i < childThreadCount then .join i result
  else if result = -1 then .returned (some .setaffinity) else .returned none

/-- The run function up to its first call.  `pipe_fd` is not initialized. -/
def runFunc (numOfCpus : Int) (pipeFd : Fd × Fd) : MainPoint :=
  if 0 < numOfCpus then createLoop 0 ⟨pipeFd.1, pipeFd.2, ⟨0, 0⟩, ⟨0, 0⟩⟩
  else .returned (some .numOfCpus)

/-- The run function. -/
def mainNode (numOfCpus : Int) : MainPoint → Flow.Node MainPoint Op Res
  | .pipe i locals => .call (.pipe i) fun pipeFd =>
      match pipeFd with
      | none => .storeFds i locals
      | some (readFd, writeFd) => .storeFds i { locals with readFd := readFd, writeFd := writeFd }
  | .storeFds i locals =>
      .call (.storeFds i locals.readFd locals.writeFd) fun _ => .initSync i locals
  | .initSync i locals => .call (.semInit (.sync i)) fun _ => .initStart i locals
  | .initStart i locals => .call (.semInit (.start i)) fun _ => .create i locals
  | .create i locals => .call (.pthreadCreate i) fun _ => .read i locals
  | .read i locals => .call (.read locals.readFd) fun info => .closeRead i (locals.setInfo i info)
  | .closeRead i locals => .call (.close locals.readFd) fun _ => .closeWrite i locals
  | .closeWrite i locals => .call (.close locals.writeFd) fun _ => createLoop (i + 1) locals
  | .cpuAlloc locals => .call (.cpuAlloc (Machine.toUlong numOfCpus)) fun cpusetpChild =>
      if cpusetpChild then waitLoop 0 locals else .returned (some .cpuAlloc)
  | .waitSync i locals => .call (.semWait (.sync i)) fun _ => waitLoop (i + 1) locals
  | .fflush locals => .call .fflush fun _ => .setaffinity locals
  | .setaffinity locals =>
      .call (.schedSetaffinity locals.info1.tid (CpuSet.allocSize (Machine.toUlong numOfCpus))
        (cpusetOf locals.info0.cpuid numOfCpus)) fun result => .cpuFree result
  | .cpuFree result => .call .cpuFree fun _ => .postStart1 result
  | .postStart1 result => .call (.semPost (.start 1)) fun _ => .postStart0 result
  | .postStart0 result => .call (.semPost (.start 0)) fun _ => joinLoop 0 result
  | .join i result => .call (.pthreadJoin i) fun _ => .destroySync i result
  | .destroySync i result => .call (.semDestroy (.sync i)) fun _ => .destroyStart i result
  | .destroyStart i result => .call (.semDestroy (.start i)) fun _ => joinLoop (i + 1) result
  | .returned _ => .stop

/-- A thread.  The two thread functions differ in the registers. -/
def childNode (i : Nat) : ChildPoint → Flow.Node ChildPoint Op Res
  | .writeRegisters => .call .writeRegisters fun _ => .getCpuId
  | .getCpuId => .call .getCpuId fun cpuid => .gettid cpuid
  | .gettid cpuid => .call .gettid fun tid => .loadFd ⟨cpuid, tid⟩
  | .loadFd info => .call (.loadWriteFd i) fun fd => .write fd info
  | .write fd info => .call (.write fd info) fun _ => .printBefore info
  | .printBefore info => .call (.printf "==[tid:%d on cpu%d]==\n" [info.tid, info.cpuid]) fun _ =>
      .showBefore
  | .showBefore => .call .showExtendedRegisters fun _ => .postSync
  | .postSync => .call (.semPost (.sync i)) fun _ => .waitStart
  | .waitStart => .call (.semWait (.start i)) fun _ => .getCpuIdAfter
  -- The order of the two calls in the argument list is not specified.
  | .getCpuIdAfter => .call .getCpuId fun cpuid => .gettidAfter cpuid
  | .gettidAfter cpuid => .call .gettid fun tid => .printAfter ⟨cpuid, tid⟩
  | .printAfter info => .call (.printf "==[tid:%d on cpu%d]==\n" [info.tid, info.cpuid]) fun _ =>
      .showAfter
  | .showAfter => .call .showExtendedRegisters fun _ => .loadReadFd
  | .loadReadFd => .call (.loadReadFd i) fun fd => .closeRead fd
  | .closeRead fd => .call (.close fd) fun _ => .loadWriteFd
  | .loadWriteFd => .call (.loadWriteFd i) fun fd => .closeWrite fd
  | .closeWrite fd => .call (.close fd) fun _ => .threadReturn
  | .threadReturn => .call (.threadReturn i) fun _ => .exited
  | .exited => .stop

/-- The programs of all threads. -/
def node (numOfCpus : Int) : (thread : Thread) → Point thread → Flow.Node (Point thread) Op Res
  | .main => mainNode numOfCpus
  | .child i => childNode i

/-! ## Running the threads -/

/-- What a descriptor refers to: an end of the pipe of a thread, or something that was open
before. -/
inductive Target where
  | pipeEnd (i : Nat) (side : PipeEnd)
  | inherited
  deriving DecidableEq, Repr

/-- What the system answers, the descriptors that are open at the start, and what is in
`pipe_fd` before it is set. -/
structure Environment where
  inherited : List Fd
  pipeFd : Fd × Fd
  pipe : Nat → Bool
  pthreadCreate : Nat → Int
  tid : Nat → Int
  cpuAlloc : Bool
  setaffinity : Int

/-- The descriptors, the pipes, the semaphores, and `children`. -/
structure World where
  fds : Fd → Option Target
  queue : Nat → List Info
  sems : Sem → Nat
  children : Nat → Fd × Fd
  exited : Nat → Bool

/-- The descriptors at the start. -/
def Environment.fds (env : Environment) (fd : Fd) : Option Target :=
  if fd ∈ env.inherited then some .inherited else none

/-- The world after a call.  A new pipe gets any two descriptors that are not in use. -/
def perform (env : Environment) (world : World) (thread : Thread) :
    (op : Op) → Res op → Option World
  | .pipe i, none => if env.pipe i then none else some world
  | .pipe i, some (readFd, writeFd) =>
      if env.pipe i = true ∧ world.fds readFd = none ∧ world.fds writeFd = none ∧
          readFd ≠ writeFd then
        some { world with
          fds := Function.update (Function.update world.fds readFd (some (.pipeEnd i .readEnd)))
            writeFd (some (.pipeEnd i .writeEnd)) }
      else
        none
  | .storeFds i readFd writeFd, _ =>
      some { world with children := Function.update world.children i (readFd, writeFd) }
  | .loadReadFd i, fd => if fd = (world.children i).1 then some world else none
  | .loadWriteFd i, fd => if fd = (world.children i).2 then some world else none
  | .semInit sem, _ => some { world with sems := Function.update world.sems sem 0 }
  | .semPost sem, _ => some { world with sems := semPostOn world.sems sem }
  | .semWait sem, _ => (semWaitOn world.sems sem).map fun sems => { world with sems := sems }
  | .pthreadCreate i, result => if result = env.pthreadCreate i then some world else none
  | .pthreadJoin i, _ => if world.exited i then some world else none
  | .read fd, info =>
      match world.fds fd with
      | some (.pipeEnd i .readEnd) =>
          match world.queue i with
          | [] => none
          | first :: rest =>
              if info = some first then
                some { world with queue := Function.update world.queue i rest }
              else
                none
      | some .inherited => some world
      | _ => if info = none then some world else none
  | .write fd info, _ =>
      match world.fds fd with
      | some (.pipeEnd i .writeEnd) =>
          some { world with queue := Function.update world.queue i (world.queue i ++ [info]) }
      | _ => some world
  | .close fd, result =>
      if result = (if (world.fds fd).isSome then 0 else -1) then
        some { world with fds := Function.update world.fds fd none }
      else
        none
  | .threadReturn i, _ => some { world with exited := Function.update world.exited i true }
  | .cpuAlloc _, result => if result = env.cpuAlloc then some world else none
  | .schedSetaffinity _ _ _, result => if result = env.setaffinity then some world else none
  | .gettid, result =>
      match thread with
      | .main => none
      | .child i => if result = env.tid i then some world else none
  | .getCpuId, _ | .semDestroy _, _ | .cpuFree, _ | .fflush, _ | .writeRegisters, _
  | .showExtendedRegisters, _ | .printf _ _, _ => some world

/-- The thread that `pthread_create` starts. -/
def spawn (_ : Thread) : (op : Op) → Res op → Option ((thread : Thread) × Point thread)
  | .pthreadCreate i, result =>
      if result = 0 then some ⟨.child i, ChildPoint.writeRegisters⟩ else none
  | _, _ => none

/-- The system of all threads. -/
def system (env : Environment) (numOfCpus : Int) : Flow.System Thread Point Op Res Empty World where
  node := node numOfCpus
  perform := perform env
  spawn := spawn
  external := fun _ cause => cause.elim

abbrev ThreadsConfig := Flow.Config Thread Point World

abbrev ThreadsEvent := Event Thread Op Res Empty

/-- The start of the run function. -/
def start (env : Environment) (numOfCpus : Int) : ThreadsConfig where
  world :=
    { fds := env.fds
      queue := fun _ => []
      sems := fun _ => 0
      children := fun _ => env.pipeFd
      exited := fun _ => false }
  point
    | .main => some (runFunc numOfCpus env.pipeFd)
    | .child _ => none

end McKernelTest.SchedSetaffinity.Threads
