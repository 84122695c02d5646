import McKernelTest.Posix.Fork
import McKernelTest.Posix.Semaphore

/-!
# The ptrace test cases

The ptrace test cases share one run function.  It maps two semaphores, forks,
and runs `child_func` in the child and `parent_func` in the parent: the child
posts `pwait` when it can be traced and waits on `cwait`; the parent waits on
`pwait`, stops or attaches the child, and posts `cwait`.

`ptrace#1`, `ptrace#17` and `ptrace#20` are modelled in full.  Everything the
kernel answers is left open: any result of any call is possible, except that
`sem_wait` waits for a positive semaphore.
-/

namespace McKernelTest.Ptrace

open Posix Process

/-- A C `int`. -/
abbrev CInt := BitVec 32

/-- A C `long` or `unsigned long`. -/
abbrev CLong := BitVec 64

/-- The two shared semaphores. -/
inductive Sem where
  | pwait
  | cwait
  deriving DecidableEq, Repr

/-- The requests the modelled test cases make. -/
inductive Request where
  | traceme
  | peekData
  | peekText
  | pokeText
  | cont
  | singleStep
  | getSigInfo
  | attach
  | detach
  deriving DecidableEq, Repr

/-- The fields of a `siginfo_t` that are read. -/
structure SigInfo where
  siSigno : CInt
  siErrno : CInt
  siCode : CInt
  siAddr : CLong

/-- What `ptrace` returns, the `errno` after the call and, for
`PTRACE_GETSIGINFO`, the record it fills in. -/
structure PtraceResult where
  value : CLong
  errno : CInt
  info : SigInfo

/-- The process id `wait` returns and the status word it stores. -/
structure WaitResult where
  pid : Int
  status : CInt

/-- The two uses of `get_or_do_inst`. -/
inductive InstMode where
  | getInstAddr
  | doInst
  deriving DecidableEq, Repr

/-- The calls of the test cases. -/
inductive Op where
  | mmap (sem : Sem)
  | munmap (sem : Sem)
  | semInit (sem : Sem)
  | semPost (sem : Sem)
  | semWait (sem : Sem)
  | fork
  | ptrace (request : Request) (pid : Int) (addr data : CLong)
  | kill (pid : Int) (signal : CInt)
  | wait
  | getOrDoInst (mode : InstMode)
  | perror (text : String)
  | printf (format : String) (values : List Int)
  deriving DecidableEq, Repr

/-- The result of a call.  The results of `sem_post`, `sem_wait`, `perror` and
`printf` are ignored by the code; `mmap` returns an address. -/
@[reducible]
def Res : Op → Type
  | .mmap _ => Nat
  | .munmap _ | .semInit _ | .kill _ _ => CInt
  | .fork => Int
  | .ptrace _ _ _ _ => PtraceResult
  | .wait => WaitResult
  | .getOrDoInst _ => CLong
  | .semPost _ | .semWait _ | .perror _ | .printf _ _ => Unit

/-- How a process of a test case ends: the run function returns its message,
or the child exits. -/
inductive Ending where
  | returned (message : Option String)
  | exited (status : Int)
  deriving DecidableEq, Repr

abbrev Program := Code Op Res

section Calls

/-- `mmap` of the page for one semaphore. -/
abbrev mmap (sem : Sem) : Program Nat :=
  .perform (Op.mmap sem)

/-- `munmap` of the page of one semaphore. -/
abbrev munmap (sem : Sem) : Program CInt :=
  .perform (Op.munmap sem)

/-- `sem_init` with the value 0. -/
abbrev semInit (sem : Sem) : Program CInt :=
  .perform (Op.semInit sem)

/-- `sem_post`. -/
abbrev semPost (sem : Sem) : Program Unit :=
  .perform (Op.semPost sem)

/-- `sem_wait`. -/
abbrev semWait (sem : Sem) : Program Unit :=
  .perform (Op.semWait sem)

/-- `fork`. -/
abbrev fork : Program Int :=
  .perform Op.fork

/-- `ptrace`. -/
abbrev ptrace (request : Request) (pid : Int) (addr data : CLong) : Program PtraceResult :=
  .perform (Op.ptrace request pid addr data)

/-- `kill`. -/
abbrev kill (pid : Int) (signal : CInt) : Program CInt :=
  .perform (Op.kill pid signal)

/-- `wait`. -/
abbrev wait : Program WaitResult :=
  .perform Op.wait

/-- `get_or_do_inst`. -/
abbrev getOrDoInst (mode : InstMode) : Program CLong :=
  .perform (Op.getOrDoInst mode)

/-- `perror`. -/
abbrev perror (text : String) : Program Unit :=
  .perform (Op.perror text)

/-- `printf` of a format with integer arguments. -/
abbrev printf (format : String) (values : List Int) : Program Unit :=
  .perform (Op.printf format values)

end Calls

/-- `WIFSTOPPED`. -/
def wifstopped (status : CInt) : Bool :=
  status &&& 0xff = 0x7f

/-- `WSTOPSIG` and `WEXITSTATUS`. -/
def wexitstatus (status : CInt) : CInt :=
  (status &&& 0xff00) >>> 8

def sigstop : CInt := 19

def sigtrap : CInt := 5

def trapHwbkpt : CInt := 4

/-- `BRK_INST` of the x86 build. -/
def brkInst : CLong := 0

/-! ## `ptrace#1` -/

/-- `child_func` of `ptrace#1`. -/
def childFunc1 (swait swake : Sem) : Program Int := do
  let traced ← ptrace .traceme 0 0 0
  if traced.value ≠ 0 then
    perror "ptrace(PTRACE_TRACEME)"
    return -1
  semPost swake
  semWait swait
  return 0

/-- `parent_func` of `ptrace#1`. -/
def parentFunc1 (swait swake : Sem) (cpid : Int) : Program Int := do
  semWait swait
  let killed ← kill cpid sigstop
  if killed ≠ 0 then
    perror "kill()"
    return -1
  semPost swake
  let waited ← wait
  if waited.pid = cpid then
    if wifstopped waited.status then
      printf "child is stopped.\n" []
    else
      printf "child is not stopped.\n" []
      return -1
  else
    perror "wait()"
    return -1
  let continued ← ptrace .cont cpid 0 0
  if continued.value ≠ 0 then
    perror "ptrace(PTRACE_CONT)"
    return -1
  return 0

/-! ## `ptrace#17` -/

/-- `child_func` of `ptrace#17`. -/
def childFunc17 (swait swake : Sem) : Program Int := do
  let traced ← ptrace .traceme 0 0 0
  if traced.value ≠ 0 then
    perror "ptrace(PTRACE_TRACEME)"
    return -1
  let addr ← getOrDoInst .getInstAddr
  if addr = -1 then
    printf "get_or_do_rewrite_inst(MODE_GET_INST_ADDR) failed.\n" []
    semPost swake
    return -1
  semPost swake
  semWait swait
  let done ← getOrDoInst .doInst
  if done ≠ 0 then
    printf "get_or_do_rewrite_inst(MODE_DO_INST) failed.\n" []
    return -1
  return 0

/-- The label `cont` of `parent_func`. -/
def continueChild (cpid ret : Int) : Program Int := do
  let continued ← ptrace .cont cpid 0 0
  if continued.value ≠ 0 then
    perror "ptrace(PTRACE_CONT)"
    return -1
  return ret

/-- The checks of the record that a single step leaves. -/
def checkSigInfo (cpid : Int) (readVal : CLong) (info : SigInfo) (next : Program Int) :
    Program Int := do
  if info.siSigno = sigtrap then
    printf "  child si_signo == SIGTRAP\n" []
  else
    printf "  child si_signo(%d) != SIGTRAP(%d)\n" [info.siSigno.toInt, sigtrap.toInt]
    return ← continueChild cpid (-1)
  if info.siErrno = 0 then
    printf "  child si_errno == 0\n" []
  else
    printf "  child si_errno(%d) != 0\n" [info.siErrno.toInt]
    return ← continueChild cpid (-1)
  if info.siCode = trapHwbkpt then
    printf "  child si_code == TRAP_HWBKPT\n" []
  else
    printf "  child si_code(%d) != TRAP_HWBKPT(%d)\n" [info.siCode.toInt, trapHwbkpt.toInt]
    return ← continueChild cpid (-1)
  if info.siAddr = readVal then
    printf "  child is stopped singlestep addr.\n" []
  else
    printf "  child is stopped not singlestep addr.\n" []
    printf "  expection:0x%lx, info.si_addr:0x%lx\n" [readVal.toInt, info.siAddr.toInt]
    return ← continueChild cpid (-1)
  next

/-- The single step loop, with the iterations still to come, followed by the
label `cont`. -/
def singleStepLoop (cpid : Int) (i : Nat) (readVal : CLong) : Nat → Program Int
  | 0 => continueChild cpid 0
  | remaining + 1 => do
      printf "[count%02d]\n" [i]
      let stepped ← ptrace .singleStep cpid 0 0
      if stepped.value ≠ 0 then
        perror "  ptrace(PTRACE_SINGLESTEP)"
        return ← continueChild cpid (-1)
      let waited ← wait
      if waited.pid = cpid then
        if wifstopped waited.status then
          if wexitstatus waited.status = sigtrap then
            printf "  child is stopped by SIGTRAP.\n" []
            let got ← ptrace .getSigInfo cpid 0 0
            if got.value ≠ 0 then
              perror "  ptrace(PTRACE_GETSIGINFO)"
              return ← continueChild cpid (-1)
            checkSigInfo cpid readVal got.info
              (singleStepLoop cpid (i + 1) (readVal + 4) remaining)
          else
            printf "  child is stopped by not SIGTRAP (%d).\n" [(wexitstatus waited.status).toInt]
            continueChild cpid (-1)
        else
          printf "  child is not stopped.\n" []
          return -1
      else
        perror "  wait()"
        return -1

/-- `parent_func` of `ptrace#17` from the wait for the planted instruction on. -/
def afterBreak (cpid : Int) (readVal instVal : CLong) : Program Int := do
  let waited ← wait
  if waited.pid = cpid then
    if wifstopped waited.status then
      if wexitstatus waited.status ≠ sigtrap then
        printf "child is stopped by not SIGTRAP (%d).\n" [(wexitstatus waited.status).toInt]
        return ← continueChild cpid (-1)
    else
      printf "child is not stopped.\n" []
      return -1
  else
    perror "wait()"
    return -1
  let poked ← ptrace .pokeText cpid readVal instVal
  if poked.value ≠ 0 then
    perror "ptrace(PTRACE_POKETEXT)"
    return ← continueChild cpid (-1)
  singleStepLoop cpid 0 (readVal + 4) 5

/-- `parent_func` of `ptrace#17` from the stopped child on; `addr` is the
address of the variable of that name.  The check after `PTRACE_PEEKTEXT` looks
at `read_val`. -/
def afterStop (addr : CLong) (cpid : Int) : Program Int := do
  let peeked ← ptrace .peekData cpid addr 0
  let readVal := peeked.value
  if readVal = -1 ∧ peeked.errno ≠ 0 then
    perror "ptrace(PTRACE_PEEKDATA)"
    return ← continueChild cpid (-1)
  let peeked ← ptrace .peekText cpid readVal 0
  let instVal := peeked.value
  if readVal = -1 ∧ peeked.errno ≠ 0 then
    perror "ptrace(PTRACE_PEEKTEXT)"
    return ← continueChild cpid (-1)
  let writeVal := (instVal &&& 0xffffffff00000000) ||| brkInst
  let poked ← ptrace .pokeText cpid readVal writeVal
  if poked.value ≠ 0 then
    perror "ptrace(PTRACE_POKETEXT)"
    return ← continueChild cpid (-1)
  let continued ← ptrace .cont cpid 0 0
  if continued.value ≠ 0 then
    perror "ptrace(PTRACE_CONT)"
    return -1
  afterBreak cpid readVal instVal

/-- `parent_func` of `ptrace#17`. -/
def parentFunc17 (addr : CLong) (swait swake : Sem) (cpid : Int) : Program Int := do
  semWait swait
  let killed ← kill cpid sigstop
  if killed ≠ 0 then
    perror "kill()"
    return -1
  semPost swake
  let waited ← wait
  if waited.pid = cpid then
    if !wifstopped waited.status then
      printf "child is not stopped.\n" []
      return -1
  else
    perror "wait()"
    return -1
  afterStop addr cpid

/-! ## `ptrace#20` -/

/-- `child_func` of `ptrace#20`. -/
def childFunc20 (swait swake : Sem) : Program Int := do
  semPost swake
  semWait swait
  return 0

/-- `parent_func` of `ptrace#20`. -/
def parentFunc20 (swait swake : Sem) (cpid : Int) : Program Int := do
  semWait swait
  let attached ← ptrace .attach cpid 0 0
  if attached.value ≠ 0 then
    perror "ptrace(PTRACE_ATTACH)"
    return -1
  semPost swake
  let waited ← wait
  if waited.pid = cpid then
    if !wifstopped waited.status then
      printf "child is not stopped.\n" []
      return -1
  else
    perror "wait()"
    return -1
  let detached ← ptrace .detach cpid 0 0
  if detached.value ≠ 0 then
    perror "ptrace(PTRACE_DETACH)"
    return -1
  printf "child detach OK.\n" []
  return 0

/-! ## The run function -/

/-- The run function in the child. -/
def childBranch (childFunc : Sem → Sem → Program Int) (ret : CInt) : Program Ending := do
  let funcRet ← childFunc .cwait .pwait
  let cwaitRet ← munmap .cwait
  let pwaitRet ← munmap .pwait
  if ret ||| cwaitRet ||| pwaitRet ≠ 0 then
    perror "[child] munmap()"
    return .exited (-1)
  return .exited funcRet

/-- The run function in the parent. -/
def parentBranch (parentFunc : Sem → Sem → Int → Program Int) (ret : CInt) (pid : Int) :
    Program Ending := do
  let funcRet ← parentFunc .pwait .cwait pid
  let cwaitRet ← munmap .cwait
  let pwaitRet ← munmap .pwait
  if ret ||| cwaitRet ||| pwaitRet ≠ 0 then
    perror "[parent] munmap()"
    return .returned (some "munmap() failed.")
  let waited ← wait
  if waited.pid ≠ -1 then
    if wexitstatus waited.status ≠ 0 then
      return .returned (some "TP failed.")
  else
    perror "wait()"
    return .returned (some "wait() failed.")
  if funcRet ≠ 0 then
    return .returned (some "TP failed.")
  return .returned none

/-- The run function of the ptrace test cases. -/
def runFunc (childFunc : Sem → Sem → Program Int)
    (parentFunc : Sem → Sem → Int → Program Int) : Program Ending := do
  let pwait ← mmap .pwait
  let cwait ← mmap .cwait
  if pwait = 0 ∨ cwait = 0 then
    perror "mmap()"
    return .returned (some "mmap() failed.")
  let pwaitRet ← semInit .pwait
  let cwaitRet ← semInit .cwait
  let ret := pwaitRet ||| cwaitRet
  if ret ≠ 0 then
    perror "sem_init()"
    return .returned (some "sem_init() failed.")
  let pid ← fork
  if pid = -1 then
    perror "fork()"
    return .returned (some "fork() failed.")
  if pid = 0 then
    childBranch childFunc ret
  else
    parentBranch parentFunc ret pid

/-- The modelled test cases. -/
inductive PtraceTest where
  | ptrace1
  | ptrace17 (addr : CLong)
  | ptrace20

/-- The run function of a test case. -/
def PtraceTest.run : PtraceTest → Program Ending
  | .ptrace1 => runFunc childFunc1 parentFunc1
  | .ptrace17 addr => runFunc childFunc17 (parentFunc17 addr)
  | .ptrace20 => runFunc childFunc20 parentFunc20

/-! ## Running the two processes -/

/-- The kernel: two semaphores, and arbitrary results for everything else. -/
def perform (counts : Sem → Nat) (_ : Role) : (op : Op) → Res op → Option (Sem → Nat)
  | .semInit sem, result => some (if result = 0 then Function.update counts sem 0 else counts)
  | .semPost sem, _ => some (semPostOn counts sem)
  | .semWait sem, _ => semWaitOn counts sem
  | .fork, pid => if isForkResult pid then some counts else none
  | .mmap _, _ | .munmap _, _ | .ptrace _ _ _ _, _ | .kill _ _, _ | .wait, _
  | .getOrDoInst _, _ | .perror _, _ | .printf _ _, _ => some counts

/-- Only `fork` starts a process. -/
def spawn (_ : Role) : (op : Op) → Res op → (Res op → Program Ending) →
    Option (Role × Program Ending)
  | .fork, pid, next => forkChild pid next
  | _, _, _ => none

/-- The system of the two processes. -/
def system : System Role Op Res Ending Empty (Sem → Nat) where
  perform := perform
  spawn := spawn
  external := fun _ cause => cause.elim

abbrev PtraceConfig := Config Role Op Res Ending (Sem → Nat)

abbrev PtraceEvent := Event Role Op Res Empty

/-- The start of a test case. -/
def start (test : PtraceTest) : PtraceConfig where
  world := fun _ => 0
  code := family test.run none

end McKernelTest.Ptrace
