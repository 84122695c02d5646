import McKernelTest.Process.Trace

/-!
# `gettid#2`

The test case starts `child_count` threads one after the other.  Each of them notes its
process id and its thread id, moves to the CPU of the first thread, waits, and notes both
ids again.  When all threads have been joined, the run function compares what they have
noted.

The threads leave their notes in the array `children`.  The loads of the run function may
return anything; what the array holds is said by a condition on the calls.
-/

namespace McKernelTest.Gettid

open Process

/-- The semaphores in `children`. -/
inductive Sem where
  | sync (num : Nat)
  | start (num : Nat)
  deriving DecidableEq, Repr

/-- What a thread notes in its entry of `children`. -/
inductive Field where
  | prePid
  | postPid
  | preTid
  | postTid
  | preCpu
  | postCpu
  deriving DecidableEq, Repr

/-- The calls, and the accesses to memory that is shared. -/
inductive Op where
  | calloc (count : Int)
  | free
  | storeNum (num : Nat)
  | semInit (sem : Sem)
  | semPost (sem : Sem)
  | semWait (sem : Sem)
  | semDestroy (sem : Sem)
  | pthreadCreate (num : Nat)
  | pthreadJoin (num : Nat)
  | sleep (seconds : Nat)
  | fflush
  | load (num : Nat) (field : Field)
  | store (num : Nat) (field : Field) (value : Int)
  | loadChildCpu
  | storeChildCpu (cpu : Int)
  | schedGetcpu
  | getpid
  | gettid
  | pthreadSelf
  | pthreadSetaffinityNp (thread cpu : Int)
  | printf (format : String) (values : List Int)
  deriving DecidableEq, Repr

/-- The result of a call; `calloc` says whether the memory is there. -/
@[reducible]
def Res : Op → Type
  | .calloc _ => Bool
  | .pthreadCreate _ | .load _ _ | .loadChildCpu | .schedGetcpu | .getpid | .gettid | .pthreadSelf
  | .pthreadSetaffinityNp _ _ => Int
  | .free | .storeNum _ | .semInit _ | .semPost _ | .semWait _ | .semDestroy _ | .pthreadJoin _
  | .sleep _ | .fflush | .store _ _ _ | .storeChildCpu _ | .printf _ _ => Unit

abbrev Program := Code Op Res

section Calls

/-- `calloc` of the array of children. -/
abbrev calloc (count : Int) : Program Bool :=
  .perform (Op.calloc count)

/-- `free(children)`. -/
abbrev free : Program Unit :=
  .perform Op.free

/-- `children[num].num = num`. -/
abbrev storeNum (num : Nat) : Program Unit :=
  .perform (Op.storeNum num)

/-- `sem_init` with the value 0. -/
abbrev semInit (sem : Sem) : Program Unit :=
  .perform (Op.semInit sem)

/-- `sem_post`. -/
abbrev semPost (sem : Sem) : Program Unit :=
  .perform (Op.semPost sem)

/-- `sem_wait`. -/
abbrev semWait (sem : Sem) : Program Unit :=
  .perform (Op.semWait sem)

/-- `sem_destroy`. -/
abbrev semDestroy (sem : Sem) : Program Unit :=
  .perform (Op.semDestroy sem)

/-- `pthread_create` of the thread with the given number. -/
abbrev pthreadCreate (num : Nat) : Program Int :=
  .perform (Op.pthreadCreate num)

/-- `pthread_join`. -/
abbrev pthreadJoin (num : Nat) : Program Unit :=
  .perform (Op.pthreadJoin num)

/-- `sleep`. -/
abbrev sleep (seconds : Nat) : Program Unit :=
  .perform (Op.sleep seconds)

/-- `fflush(stdout)`. -/
abbrev fflush : Program Unit :=
  .perform Op.fflush

/-- A load from `children[num]`. -/
abbrev load (num : Nat) (field : Field) : Program Int :=
  .perform (Op.load num field)

/-- A store to `children[num]`. -/
abbrev store (num : Nat) (field : Field) (value : Int) : Program Unit :=
  .perform (Op.store num field value)

/-- A load of `child_cpu`. -/
abbrev loadChildCpu : Program Int :=
  .perform Op.loadChildCpu

/-- A store to `child_cpu`. -/
abbrev storeChildCpu (cpu : Int) : Program Unit :=
  .perform (Op.storeChildCpu cpu)

/-- `sched_getcpu`. -/
abbrev schedGetcpu : Program Int :=
  .perform Op.schedGetcpu

/-- `getpid`. -/
abbrev getpid : Program Int :=
  .perform Op.getpid

/-- `gettid`. -/
abbrev gettid : Program Int :=
  .perform Op.gettid

/-- `pthread_self`. -/
abbrev pthreadSelf : Program Int :=
  .perform Op.pthreadSelf

/-- `pthread_setaffinity_np` with a set of one CPU. -/
abbrev pthreadSetaffinityNp (thread cpu : Int) : Program Int :=
  .perform (Op.pthreadSetaffinityNp thread cpu)

/-- `printf` of a format with integer arguments. -/
abbrev printf (format : String) (values : List Int) : Program Unit :=
  .perform (Op.printf format values)

end Calls

/-! ## The threads -/

/-- The end of `func`, after the thread has moved. -/
def funcAfterMove (num : Nat) (preCpu prePid preTid : Int) : Program (Option String) := do
  semWait (.start num)
  let postCpu ← schedGetcpu
  store num .postCpu postCpu
  let postPid ← getpid
  store num .postPid postPid
  let postTid ← gettid
  store num .postTid postTid
  printf "child#%d cpu:%d,%d pid:%d,%d tid:%d,%d\n"
    [num, preCpu, postCpu, prePid, postPid, preTid, postTid]
  return none

/-- `func`. -/
def func (num : Nat) : Program (Option String) := do
  let preCpu ← schedGetcpu
  store num .preCpu preCpu
  let prePid ← getpid
  store num .prePid prePid
  let preTid ← gettid
  store num .preTid preTid
  let childCpu ← loadChildCpu
  if childCpu = -1 then
    let cpu ← schedGetcpu
    storeChildCpu cpu
    semPost (.sync num)
    funcAfterMove num preCpu prePid preTid
  else
    let thread ← pthreadSelf
    let cpu ← loadChildCpu
    semPost (.sync num)
    let stat ← pthreadSetaffinityNp thread cpu
    if stat ≠ 0 then
      return some "pthread_setaffinity_np error."
    funcAfterMove num preCpu prePid preTid

/-! ## The run function -/

/-- The loop that initialises the children from `i` on. -/
def initChildren (i : Nat) : Nat → Program Unit
  | 0 => return ()
  | remaining + 1 => do
      storeNum i
      semInit (.sync i)
      semInit (.start i)
      initChildren (i + 1) remaining

/-- The loop that creates the threads from `i` on; the result is the message of a
`tp_assert` that fails. -/
def createChildren (i : Nat) : Nat → Program (Option String)
  | 0 => return none
  | remaining + 1 => do
      let state ← pthreadCreate i
      if state ≠ 0 then
        return some "pthread_create error."
      semWait (.sync i)
      sleep 1
      createChildren (i + 1) remaining

/-- The loop that starts the threads from `i` on. -/
def startChildren (i : Nat) : Nat → Program Unit
  | 0 => return ()
  | remaining + 1 => do
      semPost (.start i)
      startChildren (i + 1) remaining

/-- The loop that joins the threads from `i` on and destroys their semaphores. -/
def destroyChildren (i : Nat) : Nat → Program Unit
  | 0 => return ()
  | remaining + 1 => do
      pthreadJoin i
      semDestroy (.sync i)
      semDestroy (.start i)
      destroyChildren (i + 1) remaining

/-- The inner loop of the check: the child `i` against the children from `j` on. -/
def checkAgainst (i j : Nat) : Nat → Program (Option String)
  | 0 => return none
  | remaining + 1 => do
      let prePid ← load i .prePid
      let postPid ← load j .postPid
      if ¬prePid = postPid then
        return some "PID is not match."
      let preTid ← load i .preTid
      let postTid ← load j .postTid
      if ¬preTid ≠ postTid then
        return some "Detected TID collision."
      checkAgainst i (j + 1) remaining

/-- The outer loop of the check from `i` on; `remaining` children but the last. -/
def checkChildren (i : Nat) : Nat → Program (Option String)
  | 0 => return none
  | remaining + 1 => do
      let prePid ← load i .prePid
      let postPid ← load i .postPid
      if ¬prePid = postPid then
        return some "PID is not match."
      let preTid ← load i .preTid
      let postTid ← load i .postTid
      if ¬preTid = postTid then
        return some "TID is not match."
      match ← checkAgainst i (i + 1) (remaining + 1) with
      | some message => return some message
      | none => checkChildren (i + 1) remaining

/-- The run function after the threads have been created. -/
def afterCreate (childCount : Nat) : Program (Option String) := do
  startChildren 0 childCount
  destroyChildren 0 childCount
  fflush
  match ← checkChildren 0 (childCount - 1) with
  | some message => return some message
  | none =>
      free
      return none

/-- The run function. -/
def runFunc (childCount : Int) : Program (Option String) := do
  if ¬0 < childCount then
    return some "mandatory parameter '-t <child_thread_count>'\n"
  let children ← calloc childCount
  if ¬children then
    return some "calloc error."
  initChildren 0 childCount.toNat
  match ← createChildren 0 childCount.toNat with
  | some message => return some message
  | none => afterCreate childCount.toNat

end McKernelTest.Gettid
