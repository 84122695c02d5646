import McKernelTest.Posix.Semaphore
import McKernelTest.Process.Core

/-!
# `tls#1`

The test case starts `child_count` threads, waits until each of them has posted its
semaphore `sync`, and lets them go by posting their semaphores `start`.  Every thread
then increments a thread-local and a shared counter.  The results of
`pthread_create` are ignored.
-/

namespace McKernelTest.Tls

open Posix Process

/-- The thread that runs the test case, and the threads it creates. -/
inductive Thread where
  | parent
  | child (num : Nat)
  deriving DecidableEq, Repr

/-- The semaphores in `children`. -/
inductive Sem where
  | sync (num : Nat)
  | start (num : Nat)
  deriving DecidableEq, Repr

/-- The calls and the accesses to memory that other threads see.  `tls++` is one
access, since nobody else sees the thread's own counter; `notls++` is a load and a
store. -/
inductive Op where
  | calloc (count : Nat)
  | semInit (sem : Sem)
  | semPost (sem : Sem)
  | semWait (sem : Sem)
  | semDestroy (sem : Sem)
  | pthreadCreate (num : Nat)
  | pthreadJoin (num : Nat)
  | fflush
  | free
  | printf (format : String) (values : List Int)
  | incTls
  | loadNotls
  | storeNotls (value : Int)
  | storeChildTls (num : Nat)
  | loadChildTls (num : Nat)
  | threadReturn
  deriving DecidableEq, Repr

/-- The result of a call; `calloc` says whether the memory is there. -/
@[reducible]
def Res : Op → Type
  | .calloc _ => Bool
  | .pthreadCreate _ | .loadNotls | .loadChildTls _ => Int
  | .semInit _ | .semPost _ | .semWait _ | .semDestroy _ | .pthreadJoin _ | .fflush | .free
  | .printf _ _ | .incTls | .storeNotls _ | .storeChildTls _ | .threadReturn => Unit

abbrev Program := Code Op Res

section Calls

/-- `calloc` for an array of children. -/
abbrev calloc (count : Nat) : Program Bool :=
  .perform (Op.calloc count)

/-- `sem_init` with the value 0. -/
abbrev semInit (sem : Sem) : Program Unit :=
  .perform (Op.semInit sem)

/-- `sem_post`. -/
abbrev semPost (sem : Sem) : Program Unit :=
  .perform (Op.semPost sem)

/-- `sem_wait`. -/
abbrev semWait (sem : Sem) : Program Unit :=
  .perform (Op.semWait sem)

/-- `sem_destroy`. -/
abbrev semDestroy (sem : Sem) : Program Unit :=
  .perform (Op.semDestroy sem)

/-- `pthread_create` of the thread for the child with the given number. -/
abbrev pthreadCreate (num : Nat) : Program Int :=
  .perform (Op.pthreadCreate num)

/-- `pthread_join`. -/
abbrev pthreadJoin (num : Nat) : Program Unit :=
  .perform (Op.pthreadJoin num)

/-- `fflush(stdout)`. -/
abbrev fflush : Program Unit :=
  .perform Op.fflush

/-- `free(children)`. -/
abbrev free : Program Unit :=
  .perform Op.free

/-- `printf` of a format with integer arguments. -/
abbrev printf (format : String) (values : List Int) : Program Unit :=
  .perform (Op.printf format values)

/-- `tls++`. -/
abbrev incTls : Program Unit :=
  .perform Op.incTls

/-- A load of `notls`. -/
abbrev loadNotls : Program Int :=
  .perform Op.loadNotls

/-- A store to `notls`. -/
abbrev storeNotls (value : Int) : Program Unit :=
  .perform (Op.storeNotls value)

/-- `children[num].tls = tls`. -/
abbrev storeChildTls (num : Nat) : Program Unit :=
  .perform (Op.storeChildTls num)

/-- A load of `children[num].tls`. -/
abbrev loadChildTls (num : Nat) : Program Int :=
  .perform (Op.loadChildTls num)

/-- The return of a thread function. -/
abbrev threadReturn : Program Unit :=
  .perform Op.threadReturn

end Calls

/-- `INC_COUNT`. -/
def incCount : Nat := 10000

/-- The increment loop of a thread. -/
def increments : Nat → Program Unit
  | 0 => return ()
  | remaining + 1 => do
      incTls
      let notls ← loadNotls
      storeNotls (notls + 1)
      increments remaining

/-- The end of `func`, after its loop. -/
def report (num : Nat) : Program (Option String) := do
  storeChildTls num
  let tls ← loadChildTls num
  let notls ← loadNotls
  printf "[%d] tls=%ld, notls=%ld\n" [num, tls, notls]
  threadReturn
  return none

/-- `func`. -/
def func (num : Nat) : Program (Option String) := do
  semPost (.sync num)
  printf "[%d] wait\n" [num]
  semWait (.start num)
  printf "[%d] start\n" [num]
  increments incCount
  report num

/-- The loop that creates the threads from `i` on. -/
def createChildren (i : Nat) : Nat → Program Unit
  | 0 => return ()
  | remaining + 1 => do
      semInit (.sync i)
      semInit (.start i)
      let _ ← pthreadCreate i
      createChildren (i + 1) remaining

/-- The loop that waits for the threads from `i` on. -/
def syncChildren (i : Nat) : Nat → Program Unit
  | 0 => return ()
  | remaining + 1 => do
      semWait (.sync i)
      syncChildren (i + 1) remaining

/-- The loop that starts the threads from `i` on. -/
def startChildren (i : Nat) : Nat → Program Unit
  | 0 => return ()
  | remaining + 1 => do
      semPost (.start i)
      startChildren (i + 1) remaining

/-- The loop that joins the threads from `i` on and destroys their semaphores. -/
def destroyChildren (i : Nat) : Nat → Program Unit
  | 0 => return ()
  | remaining + 1 => do
      pthreadJoin i
      semDestroy (.sync i)
      semDestroy (.start i)
      destroyChildren (i + 1) remaining

/-- The loop that checks the counters from `i` on, and the end of the test case. -/
def checkChildren (i : Nat) : Nat → Program (Option String)
  | 0 => do
      free
      return none
  | remaining + 1 => do
      let tls ← loadChildTls i
      if tls = incCount then
        checkChildren (i + 1) remaining
      else
        return some "invalid TLS value."

/-- The run function after the parameter has been accepted. -/
def runChildren (childCount : Nat) : Program (Option String) := do
  let children ← calloc childCount
  if children then
    createChildren 0 childCount
    syncChildren 0 childCount
    fflush
    startChildren 0 childCount
    destroyChildren 0 childCount
    checkChildren 0 childCount
  else
    return some "calloc error."

/-- The run function of `tls#1`; the result is its message, if there is one. -/
def runFunc (childCount : Int) : Program (Option String) :=
  if 0 < childCount then
    runChildren childCount.toNat
  else
    return some "mandatory parameter '-t <child_thread_count>'\n"

/-! ## Running the threads -/

/-- What the system answers: whether there is memory, and the result of each
`pthread_create`. -/
structure Environment where
  calloc : Bool
  pthreadCreate : Nat → Int

/-- The semaphores, the counters, and the threads that have returned. -/
structure World where
  sems : Sem → Nat
  tls : Thread → Int
  notls : Int
  childTls : Nat → Int
  returned : Nat → Bool

/-- The number of a child. -/
def Thread.num : Thread → Nat
  | .parent => 0
  | .child num => num

/-- The world after a call. -/
def perform (env : Environment) (world : World) (thread : Thread) :
    (op : Op) → Res op → Option World
  | .calloc _, result => if result = env.calloc then some world else none
  | .semInit sem, _ => some { world with sems := Function.update world.sems sem 0 }
  | .semPost sem, _ => some { world with sems := semPostOn world.sems sem }
  | .semWait sem, _ => (semWaitOn world.sems sem).map fun sems => { world with sems := sems }
  | .pthreadCreate num, result => if result = env.pthreadCreate num then some world else none
  | .pthreadJoin num, _ => if world.returned num then some world else none
  | .incTls, _ => some { world with tls := Function.update world.tls thread (world.tls thread + 1) }
  | .loadNotls, result => if result = world.notls then some world else none
  | .storeNotls value, _ => some { world with notls := value }
  | .storeChildTls num, _ =>
      some { world with childTls := Function.update world.childTls num (world.tls thread) }
  | .loadChildTls num, result => if result = world.childTls num then some world else none
  | .threadReturn, _ =>
      some { world with returned := Function.update world.returned thread.num true }
  | .semDestroy _, _ | .fflush, _ | .free, _ | .printf _ _, _ => some world

/-- The thread that a `pthread_create` with the given result starts. -/
def createdThread (num : Nat) (result : Int) : Option (Thread × Program (Option String)) :=
  if result = 0 then some (.child num, func num) else none

/-- Only `pthread_create` starts a thread. -/
def spawn (_ : Thread) : (op : Op) → Res op → (Res op → Program (Option String)) →
    Option (Thread × Program (Option String))
  | .pthreadCreate num, result, _ => createdThread num result
  | _, _, _ => none

/-- The system of all threads. -/
def system (env : Environment) : System Thread Op Res (Option String) Empty World where
  perform := perform env
  spawn := spawn
  external := fun _ cause => cause.elim

abbrev TlsConfig := Config Thread Op Res (Option String) World

abbrev TlsEvent := Event Thread Op Res Empty

/-- The start of the run function. -/
def start (childCount : Int) : TlsConfig where
  world := ⟨fun _ => 0, fun _ => 0, 0, fun _ => 0, fun _ => false⟩
  code
    | .parent => some (runFunc childCount)
    | .child _ => none

end McKernelTest.Tls
