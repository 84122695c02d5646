import McKernelTest.Flow.Core
import McKernelTest.Machine.Word

/-!
# `cpu_thread_limits#0`

The run function creates `thread_num` threads, and every thread sets `waiting` in its entry
of the array `child` and waits for `threads_barrier`.  The run function reads the flags in
turn and begins again at every flag that is 0; then it opens the barrier, joins the threads
and frees the array.  If a thread could not be created, it frees the array and returns.

A load or store of an entry of `child` after the array has been freed has no meaning in C.
Here such a load may return anything, and such a store changes nothing.
-/

namespace McKernelTest.CpuThreadLimits.Barrier

open Machine Process

/-- The main thread, and the threads it creates. -/
inductive Thread where
  | main
  | child (ith : Nat)
  deriving DecidableEq, Repr

/-- The fields of `child_thread_t` that are read again. -/
inductive Field where
  | localId
  | waiting
  | iret
  deriving DecidableEq, Repr

/-- The calls, and the accesses to the array and to `threads_barrier`. -/
inductive Op where
  | calloc (count : Int)
  | getrlimitNproc
  | setrlimitNproc (rlimCur : Nat)
  | store (ith : Nat) (field : Field) (value : Int)
  | load (ith : Nat) (field : Field)
  | pthreadCreate (ith : Nat)
  | pthreadJoin (ith : Nat)
  | free
  | loadBarrier
  | storeBarrier (value : Nat)
  | cpuPause
  | gettid
  | printf (format : String) (values : List Int)
  | threadReturn
  deriving DecidableEq, Repr

/-- The result of a call; `calloc` says whether the memory is there, and `getrlimit` returns
the hard limit. -/
@[reducible]
def Res : Op → Type
  | .calloc _ => Bool
  | .getrlimitNproc | .loadBarrier => Nat
  | .setrlimitNproc _ | .load _ _ | .pthreadCreate _ | .gettid => Int
  | .store _ _ _ | .pthreadJoin _ | .free | .storeBarrier _ | .cpuPause | .printf _ _
  | .threadReturn => Unit

/-- The checks of the run function that can fail. -/
inductive Failure where
  | threadNum
  | cpuNum
  | calloc
  | hardLimit
  | setrlimit
  | pthreadCreate
  deriving DecidableEq, Repr

/-- The message of a failed check. -/
def Failure.message : Failure → String
  | .threadNum => "-t <child thread num> invalid argument."
  | .cpuNum => "-c <num cpus> invalid argument."
  | .calloc => "calloc error."
  | .hardLimit => "-c <num cpus> is larger than hard limit"
  | .setrlimit => "setrlimit error"
  | .pthreadCreate => "pthread_create failed."

/-- `struct cpu_thread_limits_args`. -/
structure Args where
  threadNum : Int
  cpuNum : Int
  deriving DecidableEq, Repr

/-- The number of threads, which bounds the loops. -/
def Args.count (args : Args) : Nat :=
  args.threadNum.toNat

/-- The points of the run function. -/
inductive MainPoint where
  | calloc
  | getrlimit
  | setrlimit
  | storeLocalId (ith : Nat)
  | storeWaiting (ith : Nat)
  | create (ith : Nat)
  | storeIret (ith : Nat) (iret : Int)
  | loadIret (ith : Nat)
  | reloadIret (ith : Nat)
  | printFailure (ith : Nat) (iret : Int)
  | freeFailed
  | loadWaiting (ith : Nat)
  | openBarrier
  | join (ith : Nat)
  | free
  | returned (failure : Option Failure)
  deriving DecidableEq, Repr

/-- The points of `child_func`. -/
inductive ChildPoint where
  | storeWaiting
  | loadBarrier
  | pause
  | gettid
  | loadLocalId (tid : Int)
  | print (tid localId : Int)
  | threadReturn
  | exited
  deriving DecidableEq, Repr

/-- The points of a thread. -/
@[reducible]
def Point : Thread → Type
  | .main => MainPoint
  | .child _ => ChildPoint

section Loops

variable (count : Nat)

/-- The loop that joins the threads, from `ith` on. -/
def joinFrom (ith : Nat) : MainPoint :=
  if ith < count then .join ith else .free

/-- The loop after `retry`, from `ith` on. -/
def waitFrom (ith : Nat) : MainPoint :=
  if ith < count then .loadWaiting ith else .openBarrier

/-- The loop that looks for threads that could not be created, from `ith` on. -/
def checkFrom (ith : Nat) : MainPoint :=
  if ith < count then .loadIret ith else waitFrom count 0

/-- The loop that creates the threads, from `ith` on. -/
def createFrom (ith : Nat) : MainPoint :=
  if ith < count then .storeLocalId ith else checkFrom count 0

end Loops

/-- The run function up to its first call. -/
def runFunc (args : Args) : MainPoint :=
  if 0 < args.threadNum then
    if 0 < args.cpuNum then .calloc else .returned (some .cpuNum)
  else
    .returned (some .threadNum)

/-- The run function. -/
def mainNode (args : Args) : MainPoint → Flow.Node MainPoint Op Res
  | .calloc => .call (.calloc args.threadNum) fun child =>
      if child then .getrlimit else .returned (some .calloc)
  | .getrlimit => .call .getrlimitNproc fun rlimMax =>
      if toUlong args.cpuNum ≤ rlimMax then .setrlimit else .returned (some .hardLimit)
  | .setrlimit => .call (.setrlimitNproc (toUlong args.cpuNum)) fun ret =>
      if ret = 0 then createFrom args.count 0 else .returned (some .setrlimit)
  | .storeLocalId ith => .call (.store ith .localId (ith + 1)) fun _ => .storeWaiting ith
  | .storeWaiting ith => .call (.store ith .waiting 0) fun _ => .create ith
  | .create ith => .call (.pthreadCreate ith) fun iret => .storeIret ith iret
  | .storeIret ith iret => .call (.store ith .iret iret) fun _ =>
      createFrom args.count (ith + 1)
  | .loadIret ith => .call (.load ith .iret) fun iret =>
      if iret ≠ 0 then .reloadIret ith else checkFrom args.count (ith + 1)
  | .reloadIret ith => .call (.load ith .iret) fun iret => .printFailure ith iret
  | .printFailure ith iret =>
      .call (.printf "failed to create thread[%d]: %d\n" [ith, iret]) fun _ => .freeFailed
  | .freeFailed => .call .free fun _ => .returned (some .pthreadCreate)
  | .loadWaiting ith => .call (.load ith .waiting) fun waiting =>
      if waiting = 0 then waitFrom args.count 0
      else waitFrom args.count (ith + 1)
  | .openBarrier => .call (.storeBarrier 1) fun _ => joinFrom args.count 0
  | .join ith => .call (.pthreadJoin ith) fun _ => joinFrom args.count (ith + 1)
  | .free => .call .free fun _ => .returned none
  | .returned _ => .stop

/-- `child_func`. -/
def childFunc (ith : Nat) : ChildPoint → Flow.Node ChildPoint Op Res
  | .storeWaiting => .call (.store ith .waiting 1) fun _ => .loadBarrier
  | .loadBarrier => .call .loadBarrier fun barrier => if barrier = 0 then .pause else .gettid
  | .pause => .call .cpuPause fun _ => .loadBarrier
  | .gettid => .call .gettid fun tid => .loadLocalId tid
  | .loadLocalId tid => .call (.load ith .localId) fun localId => .print tid localId
  | .print tid localId =>
      .call (.printf "[tid=%d] from child thread.(local_id=%d)\n" [tid, localId]) fun _ =>
        .threadReturn
  | .threadReturn => .call .threadReturn fun _ => .exited
  | .exited => .stop

/-- The programs of all threads. -/
def node (args : Args) : (thread : Thread) → Point thread → Flow.Node (Point thread) Op Res
  | .main => mainNode args
  | .child ith => childFunc ith

/-! ## Running the threads -/

/-- What the system answers. -/
structure Environment where
  calloc : Bool
  rlimMax : Nat
  setrlimit : Int
  pthreadCreate : Nat → Int

/-- The barrier, the array, and the threads that have returned. -/
structure World where
  barrier : Nat
  cells : Nat → Field → Int
  freed : Bool
  returned : Nat → Bool

/-- The entry number of a thread. -/
def Thread.ith : Thread → Nat
  | .main => 0
  | .child ith => ith

/-- A store to the array. -/
def World.store (world : World) (ith : Nat) (field : Field) (value : Int) : World :=
  if world.freed then world
  else
    { world with
      cells := Function.update world.cells ith (Function.update (world.cells ith) field value) }

/-- The world after a call. -/
def perform (env : Environment) (world : World) (thread : Thread) :
    (op : Op) → Res op → Option World
  | .calloc _, child =>
      if child = env.calloc then some { world with cells := fun _ _ => 0 } else none
  | .getrlimitNproc, rlimMax => if rlimMax = env.rlimMax then some world else none
  | .setrlimitNproc _, ret => if ret = env.setrlimit then some world else none
  | .store ith field value, _ => some (world.store ith field value)
  | .load ith field, value =>
      if world.freed = true ∨ value = world.cells ith field then some world else none
  | .pthreadCreate ith, iret => if iret = env.pthreadCreate ith then some world else none
  | .pthreadJoin ith, _ => if world.returned ith then some world else none
  | .free, _ => some { world with freed := true }
  | .loadBarrier, barrier => if barrier = world.barrier then some world else none
  | .storeBarrier value, _ => some { world with barrier := value }
  | .threadReturn, _ =>
      some { world with returned := Function.update world.returned thread.ith true }
  | .cpuPause, _ | .gettid, _ | .printf _ _, _ => some world

/-- Only `pthread_create` starts a thread, and only if it returns 0. -/
def spawn (_ : Thread) : (op : Op) → Res op → Option ((thread : Thread) × Point thread)
  | .pthreadCreate ith, iret =>
      if iret = 0 then some ⟨.child ith, ChildPoint.storeWaiting⟩ else none
  | _, _ => none

/-- The system of all threads. -/
def system (env : Environment) (args : Args) : Flow.System Thread Point Op Res Empty World where
  node := node args
  perform := perform env
  spawn := spawn
  external := fun _ cause => cause.elim

abbrev BarrierConfig := Flow.Config Thread Point World

abbrev BarrierEvent := Event Thread Op Res Empty

/-- The start of the run function. -/
def start (args : Args) : BarrierConfig where
  world := ⟨0, fun _ _ => 0, false, fun _ => false⟩
  point
    | .main => some (runFunc args)
    | .child _ => none

/-- The step loads or stores an entry of the array, which has been freed. -/
def UsesFreed (config : BarrierConfig) : BarrierEvent → Prop
  | .call _ (.load _ _) _ | .call _ (.store _ _ _) _ => config.world.freed = true
  | _ => False

end McKernelTest.CpuThreadLimits.Barrier
