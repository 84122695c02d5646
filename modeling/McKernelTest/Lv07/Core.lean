import McKernelTest.Posix.Barrier
import McKernelTest.Process.Core
import McKernelTest.Text.Numeral

/-!
# `lv07-pth`

The program starts `thread_num - 1` threads besides the main thread, and every
thread prints one line of a file.  The order of the lines is enforced by one
barrier for all threads: thread `k` waits `k` times before it prints and the
remaining times after it.

Threads are numbered as in the source, the main thread is number 0.  What the
system answers is collected in an environment, so that which of the threads can
open the file is a parameter of the runs.
-/

namespace McKernelTest.Lv07

open Posix Process

/-- The calls of the program.  `pthread_barrier_wait` is the arrival at the
barrier, which yields the generation to wait for, and the wait itself. -/
inductive Op where
  | printf (format : String) (values : List Int)
  | printLine (num : Nat) (line : List UInt8)
  | perror (text : String)
  | getrlimit
  | setrlimit (cur : Int)
  | barrierInit (count : Nat)
  | pthreadCreate (num threadNum : Nat)
  | pthreadJoin (num : Nat)
  | fopen
  | fread (count : Nat)
  | fclose
  | arrive
  | await (ticket : Nat)
  | threadReturn
  | exit (status : Int)
  deriving DecidableEq, Repr

/-- The result of a call; `fopen` says whether the file is open.  Other results
are ignored by the code. -/
@[reducible]
def Res : Op → Type
  | .getrlimit | .arrive => Nat
  | .setrlimit _ | .barrierInit _ | .pthreadCreate _ _ | .pthreadJoin _ => Int
  | .fopen => Bool
  | .fread _ => List UInt8
  | .printf _ _ | .printLine _ _ | .perror _ | .fclose | .await _ | .threadReturn | .exit _ => Unit

abbrev Program := Code Op Res

section Calls

/-- `printf` of a format with integer arguments. -/
abbrev printf (format : String) (values : List Int) : Program Unit :=
  .perform (Op.printf format values)

/-- The `printf` of `read_write`, with the format `"%d: %s\n"`. -/
abbrev printLine (num : Nat) (line : List UInt8) : Program Unit :=
  .perform (Op.printLine num line)

/-- `perror`. -/
abbrev perror (text : String) : Program Unit :=
  .perform (Op.perror text)

/-- `getrlimit`, of which the hard limit is used. -/
abbrev getrlimit : Program Nat :=
  .perform Op.getrlimit

/-- `setrlimit` with the given soft limit. -/
abbrev setrlimit (cur : Int) : Program Int :=
  .perform (Op.setrlimit cur)

/-- `pthread_barrier_init`. -/
abbrev barrierInit (count : Nat) : Program Int :=
  .perform (Op.barrierInit count)

/-- `pthread_create` of a thread with the given number. -/
abbrev pthreadCreate (num threadNum : Nat) : Program Int :=
  .perform (Op.pthreadCreate num threadNum)

/-- `pthread_join`. -/
abbrev pthreadJoin (num : Nat) : Program Int :=
  .perform (Op.pthreadJoin num)

/-- `fopen`. -/
abbrev fopen : Program Bool :=
  .perform Op.fopen

/-- `fread` of at most `count` bytes. -/
abbrev fread (count : Nat) : Program (List UInt8) :=
  .perform (Op.fread count)

/-- `fclose`. -/
abbrev fclose : Program Unit :=
  .perform Op.fclose

/-- The return of a thread function. -/
abbrev threadReturn : Program Unit :=
  .perform Op.threadReturn

/-- The return of `main`. -/
abbrev exit (status : Int) : Program Unit :=
  .perform (Op.exit status)

/-- `pthread_barrier_wait`. -/
def pthreadBarrierWait : Program Unit := do
  let ticket ← (.perform Op.arrive : Program Nat)
  (.perform (Op.await ticket) : Program Unit)

end Calls

/-- `MAX_THREAD_NUM`. -/
def maxThreadNum : Nat := 512

/-- The tag of a line. -/
def tagByte (num : Nat) : UInt8 :=
  UInt8.ofNat (65 + num % (90 - 65 + 1))

/-- The text in `buf` after the tag, the colon, the data and the NUL have been
stored. -/
def bufText (num : Nat) (data : List UInt8) : List UInt8 :=
  (tagByte num :: 58 :: data ++ [0]).takeWhile (· ≠ 0)

/-- `times` passes through the barrier. -/
def waitTimes : Nat → Program Unit
  | 0 => return ()
  | times + 1 => do
      pthreadBarrierWait
      waitTimes times

/-- `read_write` with the file open. -/
def readOpened (threadNum num : Nat) : Program Unit := do
  let data ← fread (256 - 2)
  waitTimes num
  printLine num (bufText num data)
  waitTimes (threadNum - num)
  fclose

/-- `read_write`. -/
def readWrite (threadNum num : Nat) : Program Unit := do
  let opened ← fopen
  if opened then
    readOpened threadNum num
  else
    perror "fopen failed: "

/-- `threadFunction`. -/
def threadFunction (threadNum num : Nat) : Program Unit := do
  readWrite threadNum num
  threadReturn

/-- The loop that joins the threads from `i` on, and the end of `main`. -/
def joinThreads (i : Nat) : Nat → Program Unit
  | 0 => exit 0
  | remaining + 1 => do
      let ret ← pthreadJoin i
      if ret ≠ 0 then
        printf "Failed to join thread[%d]. ret = %d\n" [i, ret]
        exit 0
      else
        joinThreads (i + 1) remaining

/-- The loop that creates the threads from `i` on, and the rest of `main`. -/
def createThreads (threadNum i : Nat) : Nat → Program Unit
  | 0 => do
      readWrite threadNum 0
      joinThreads 1 (threadNum - 1)
  | remaining + 1 => do
      let ret ← pthreadCreate i threadNum
      if ret ≠ 0 then
        printf "Failed to create thread[%d]. ret = %d\n" [i, ret]
        exit 0
      else
        createThreads threadNum (i + 1) remaining

/-- `main` with its two numbers read. -/
def mainWith (threadNum ncpu : Int) : Program Unit := do
  if threadNum < 1 ∨ maxThreadNum < threadNum then
    printf "thread_number invalid, 1 <= thread_num <= %d\n" [maxThreadNum]
    exit 0
  else
    printf "use thread_num = %d.\n" [threadNum]
    let rlimMax ← getrlimit
    if ncpu ≤ 0 ∨ ncpu > rlimMax then
      printf "rlimit_nproc invalid, 1 <= rlimit_nproc <= rlim_max\n" []
      exit 0
    else
      let ret ← setrlimit ncpu
      if ret ≠ 0 then
        printf "setrlimit error\n" []
        exit 0
      else
        let ret ← barrierInit threadNum.toNat
        if ret ≠ 0 then
          printf "pthread_barrier_init error\n" []
          exit 0
        else
          createThreads threadNum.toNat 1 (threadNum.toNat - 1)

/-- `main`.  The name of the program, which the usage message shows, is left
out. -/
def main (argv : List (List Char)) : Program Unit :=
  match argv with
  | [_, _, threadNum, ncpu] => mainWith (Text.atoi threadNum) (Text.atoi ncpu)
  | _ => do
      printf "invalid argment. %s ostype-filepath <thread_num> <rlimit_nproc>\n" []
      exit 0

/-! ## Running the threads -/

/-- What the system answers: the hard limit, the results of `setrlimit`,
`pthread_barrier_init` and each `pthread_create`, which threads can open the
file, and what each of them reads. -/
structure Environment where
  rlimMax : Nat
  setrlimit : Int
  barrierInit : Int
  pthreadCreate : Nat → Int
  fopen : Nat → Bool
  contents : Nat → List UInt8

/-- The barrier, the lines printed so far, the threads that have returned, and
whether `main` has. -/
structure World where
  barrier : Barrier
  lines : List (Nat × List UInt8)
  returned : Nat → Bool
  exited : Bool

/-- The world after a call of thread `num` in a running program. -/
def performRunning (env : Environment) (world : World) (num : Nat) :
    (op : Op) → Res op → Option World
  | .getrlimit, result => if result = env.rlimMax then some world else none
  | .setrlimit _, result => if result = env.setrlimit then some world else none
  | .barrierInit count, result =>
      if result = env.barrierInit then some { world with barrier := ⟨count, 0, 0⟩ } else none
  | .pthreadCreate other _, result => if result = env.pthreadCreate other then some world else none
  | .pthreadJoin other, result => if world.returned other ∧ result = 0 then some world else none
  | .fopen, result => if result = env.fopen num then some world else none
  | .fread count, result => if result = (env.contents num).take count then some world else none
  | .printLine other line, _ => some { world with lines := world.lines ++ [(other, line)] }
  | .arrive, ticket =>
      if ticket = world.barrier.generation then
        some { world with barrier := world.barrier.arrive }
      else none
  | .await ticket, _ => if ticket < world.barrier.generation then some world else none
  | .threadReturn, _ => some { world with returned := Function.update world.returned num true }
  | .exit _, _ => some { world with exited := true }
  | .printf _ _, _ | .perror _, _ | .fclose, _ => some world

/-- The return of `main` ends all threads. -/
def perform (env : Environment) (world : World) (num : Nat) (op : Op) (result : Res op) :
    Option World :=
  if world.exited then none else performRunning env world num op result

/-- The thread that a `pthread_create` with the given result starts. -/
def createdThread (num threadNum : Nat) (result : Int) : Option (Nat × Program Unit) :=
  if result = 0 then some (num, threadFunction threadNum num) else none

/-- Only `pthread_create` starts a thread. -/
def spawn (_ : Nat) : (op : Op) → Res op → (Res op → Program Unit) → Option (Nat × Program Unit)
  | .pthreadCreate num threadNum, result, _ => createdThread num threadNum result
  | _, _, _ => none

/-- The system of all threads. -/
def system (env : Environment) : System Nat Op Res Unit Empty World where
  perform := perform env
  spawn := spawn
  external := fun _ cause => cause.elim

abbrev ThreadConfig := Config Nat Op Res Unit World

abbrev ThreadEvent := Event Nat Op Res Empty

/-- The start of the program. -/
def start (argv : List (List Char)) : ThreadConfig where
  world := ⟨⟨0, 0, 0⟩, [], fun _ => false, false⟩
  code := fun num => if num = 0 then some (main argv) else none

end McKernelTest.Lv07
