import McKernelTest.Lv07.Core
import McKernelTest.Process.Protocol

/-!
# The protocol of the `lv07-pth` threads

A thread's progress is how often it has passed the barrier, the generation it
is waiting for, and whether it has printed its line.  Thread `k` may arrive at
the barrier while it has passed it less than `k` times, prints after exactly
`k` passes, and leaves `read_write` after `thread_num` passes, or at once if it
could not open the file.
-/

namespace McKernelTest.Lv07

open Posix Process

/-- A thread's way through the barrier. -/
structure Progress where
  passed : Nat
  ticket : Option Nat
  printed : Bool

namespace Progress

/-- Before the first arrival. -/
def init : Progress :=
  ⟨0, none, false⟩

/-- The arrivals at the barrier. -/
def arrivals : Progress → Nat
  | ⟨passed, none, _⟩ => passed
  | ⟨passed, some _, _⟩ => passed + 1

theorem arrivals_of_idle {progress : Progress} (idle : progress.ticket = none) :
    progress.arrivals = progress.passed := by
  cases progress with
  | mk passed ticket printed =>
      subst idle
      rfl

theorem arrivals_of_waiting {progress : Progress} {ticket : Nat}
    (waiting : progress.ticket = some ticket) : progress.arrivals = progress.passed + 1 := by
  cases progress with
  | mk passed ticket printed =>
      subst waiting
      rfl

/-- The passes after which the thread has to stop arriving: first to print, then
to leave. -/
def goal (threadNum num : Nat) (printed : Bool) : Nat :=
  if printed then threadNum else num

/-- All passes are made and the line is printed. -/
def complete (threadNum : Nat) : Progress :=
  ⟨threadNum, none, true⟩

end Progress

/-- How far a thread is: the main thread before the barrier exists and while it
creates the others, a new thread, a thread in `read_write` with or without the
file, and the end of `main` and of the thread function. -/
inductive Stage where
  | setup
  | creating (next : Nat)
  | opening (num : Nat)
  | active (num : Nat) (progress : Progress)
  | unopened (num : Nat)
  | done (num : Nat) (progress : Progress)
  | returned (num : Nat) (progress : Progress)
  | joining (next : Nat) (progress : Progress)
  | gone (progress : Progress)

/-- The stage after `fopen`. -/
def afterFopen (num : Nat) (opened : Bool) : Stage :=
  if opened then .active num .init else .unopened num

/-- The stage after `read_write`. -/
def afterReadWrite (num : Nat) (progress : Progress) : Stage :=
  if num = 0 then .joining 1 progress else .done num progress

/-- The calls of a thread in each stage. -/
@[simp]
def allowed (threadNum : Nat) (op : Op) : Stage → Prop
  | .setup =>
      match op with
      | .printf _ _ | .getrlimit | .setrlimit _ => True
      | .barrierInit count => count = threadNum
      | _ => False
  | .creating next =>
      match op with
      | .pthreadCreate num total => num = next ∧ total = threadNum ∧ next < threadNum
      | .fopen => next = threadNum
      | _ => False
  | .opening _ => op = .fopen
  | .active num progress =>
      match op with
      | .fread _ => True
      | .arrive => progress.ticket = none ∧
          progress.passed < Progress.goal threadNum num progress.printed
      | .await ticket => progress.ticket = some ticket
      | .printLine other _ => other = num ∧ progress = ⟨num, none, false⟩
      | .fclose => progress = .complete threadNum
      | _ => False
  | .unopened _ => ∃ text, op = .perror text
  | .done _ _ => op = .threadReturn
  | .joining next _ =>
      match op with
      | .pthreadJoin num => num = next ∧ next < threadNum
      | .exit _ => next = threadNum
      | _ => False
  | .returned _ _ | .gone _ => False

/-- The results that a regular environment gives. -/
@[simp]
def regularResult (ncpu : Int) : (op : Op) → Res op → Bool
  | .getrlimit, result => ncpu ≤ (result : Int)
  | .setrlimit _, result => result = 0
  | .barrierInit _, result => result = 0
  | .pthreadCreate _ _, result => result = 0
  | .pthreadJoin _, result => result = 0
  | _, _ => true

/-- The stage after a call with a regular result. -/
@[simp]
def stageAfter : Stage → (op : Op) → Res op → Stage
  | .setup, .barrierInit _, _ => .creating 1
  | .creating next, .pthreadCreate _ _, _ => .creating (next + 1)
  | .creating _, .fopen, opened => afterFopen 0 opened
  | .opening num, .fopen, opened => afterFopen num opened
  | .active num progress, .arrive, ticket => .active num { progress with ticket := some ticket }
  | .active num progress, .await _, _ =>
      .active num { progress with passed := progress.passed + 1, ticket := none }
  | .active num progress, .printLine _ _, _ => .active num { progress with printed := true }
  | .active num progress, .fclose, _ => afterReadWrite num progress
  | .unopened num, .perror _, _ => afterReadWrite num .init
  | .done num progress, .threadReturn, _ => .returned num progress
  | .joining next progress, .pthreadJoin _, _ => .joining (next + 1) progress
  | .joining _ progress, .exit _, _ => .gone progress
  | stage, _, _ => stage

/-- The calls of `main` before it makes the barrier. -/
def Op.early : Op → Prop
  | .printf _ _ | .getrlimit | .setrlimit _ => True
  | _ => False

/-- What a call can do to the stage of a thread. -/
inductive Move (threadNum : Nat) : Stage → (op : Op) → Res op → Stage → Prop where
  | prepare {op : Op} (result : Res op) (early : op.early) :
      Move threadNum .setup op result .setup
  | barrierInit (result : Int) :
      Move threadNum .setup (.barrierInit threadNum) result (.creating 1)
  | create (next : Nat) (result : Int) (room : next < threadNum) :
      Move threadNum (.creating next) (.pthreadCreate next threadNum) result (.creating (next + 1))
  | mainOpen (opened : Bool) :
      Move threadNum (.creating threadNum) .fopen opened (afterFopen 0 opened)
  | threadOpen (num : Nat) (opened : Bool) :
      Move threadNum (.opening num) .fopen opened (afterFopen num opened)
  | read (num : Nat) (progress : Progress) (count : Nat) (bytes : List UInt8) :
      Move threadNum (.active num progress) (.fread count) bytes (.active num progress)
  | arrive (num : Nat) (progress : Progress) (ticket : Nat) (idle : progress.ticket = none)
      (room : progress.passed < Progress.goal threadNum num progress.printed) :
      Move threadNum (.active num progress) .arrive ticket
        (.active num { progress with ticket := some ticket })
  | await (num : Nat) (progress : Progress) (ticket : Nat) (done : Unit)
      (waiting : progress.ticket = some ticket) :
      Move threadNum (.active num progress) (.await ticket) done
        (.active num { progress with passed := progress.passed + 1, ticket := none })
  | print (num : Nat) (line : List UInt8) (done : Unit) :
      Move threadNum (.active num ⟨num, none, false⟩) (.printLine num line) done
        (.active num ⟨num, none, true⟩)
  | close (num : Nat) (done : Unit) :
      Move threadNum (.active num (.complete threadNum)) .fclose done
        (afterReadWrite num (.complete threadNum))
  | report (num : Nat) (text : String) (done : Unit) :
      Move threadNum (.unopened num) (.perror text) done (afterReadWrite num .init)
  | threadReturn (num : Nat) (progress : Progress) (done : Unit) :
      Move threadNum (.done num progress) .threadReturn done (.returned num progress)
  | join (next : Nat) (progress : Progress) (result : Int) (room : next < threadNum) :
      Move threadNum (.joining next progress) (.pthreadJoin next) result
        (.joining (next + 1) progress)
  | exit (progress : Progress) (status : Int) (done : Unit) :
      Move threadNum (.joining threadNum progress) (.exit status) done (.gone progress)

/-- Every allowed call is one of the moves. -/
theorem move_of_allowed {threadNum : Nat} {stage : Stage} {op : Op}
    (accepted : allowed threadNum op stage) (result : Res op) :
    Move threadNum stage op result (stageAfter stage op result) := by
  cases stage with
  | setup =>
      cases op with
      | printf => exact .prepare result trivial
      | getrlimit => exact .prepare result trivial
      | setrlimit => exact .prepare result trivial
      | barrierInit =>
          cases accepted
          exact .barrierInit result
      | _ => exact accepted.elim
  | creating next =>
      cases op with
      | pthreadCreate =>
          rcases accepted with ⟨rfl, rfl, room⟩
          exact .create _ result room
      | fopen =>
          cases accepted
          exact .mainOpen result
      | _ => exact accepted.elim
  | opening num =>
      cases accepted
      exact .threadOpen num result
  | active num progress =>
      cases op with
      | fread count => exact .read num progress count result
      | arrive => exact .arrive num progress result accepted.1 accepted.2
      | await ticket => exact .await num progress ticket result accepted
      | printLine =>
          rcases accepted with ⟨rfl, rfl⟩
          exact .print _ _ result
      | fclose =>
          cases accepted
          exact .close num result
      | _ => exact accepted.elim
  | unopened num =>
      rcases accepted with ⟨text, rfl⟩
      exact .report num text result
  | done num progress =>
      cases accepted
      exact .threadReturn num progress result
  | joining next progress =>
      cases op with
      | pthreadJoin =>
          rcases accepted with ⟨rfl, room⟩
          exact .join _ progress result room
      | exit status =>
          cases accepted
          exact .exit progress status result
      | _ => exact accepted.elim
  | returned => exact accepted.elim
  | gone => exact accepted.elim

/-- The program as a protocol. -/
def protocol (threadNum : Nat) (ncpu : Int) : Protocol Stage Op Res :=
  ⟨fun stage op => allowed threadNum op stage,
    fun stage op result =>
      if regularResult ncpu op result then some (stageAfter stage op result) else none⟩

@[simp]
theorem protocol_accepts (threadNum : Nat) (ncpu : Int) (stage : Stage) (op : Op) :
    (protocol threadNum ncpu).accepts stage op = allowed threadNum op stage :=
  rfl

@[simp]
theorem protocol_after (threadNum : Nat) (ncpu : Int) (stage : Stage) (op : Op)
    (result : Res op) :
    (protocol threadNum ncpu).after stage op result =
      if regularResult ncpu op result then some (stageAfter stage op result) else none :=
  rfl

/-- A thread ends with its function, and `main` at its end. -/
def finished : Stage → Unit → Prop
  | .returned _ _, _ | .gone _, _ => True
  | _, _ => False

section Follows

variable (threadNum : Nat) (ncpu : Int)

theorem waitTimes_follows (num passed times : Nat) (printed : Bool)
    (room : passed + times ≤ Progress.goal threadNum num printed) :
    (protocol threadNum ncpu).Follows
      (fun stage _ => stage = .active num ⟨passed + times, none, printed⟩)
      (waitTimes times) (.active num ⟨passed, none, printed⟩) := by
  induction times generalizing passed with
  | zero => exact rfl
  | succ times ih =>
      have arrives : passed < Progress.goal threadNum num printed := by omega
      have rest := ih (passed + 1) (by omega)
      rw [Nat.add_right_comm, Nat.add_assoc] at rest
      simpa [waitTimes, pthreadBarrierWait, Code.perform, arrives] using rest

theorem readOpened_follows {num : Nat} (known : num < threadNum) :
    (protocol threadNum ncpu).Follows
      (fun stage _ => stage = afterReadWrite num (.complete threadNum))
      (readOpened threadNum num) (.active num .init) := by
  have before := waitTimes_follows threadNum ncpu num 0 num false (by simp [Progress.goal])
  have after := waitTimes_follows threadNum ncpu num num (threadNum - num) true (by
    simp only [Progress.goal, if_true]
    omega)
  rw [Nat.zero_add] at before
  rw [Nat.add_sub_cancel' known.le] at after
  refine ⟨trivial, fun data following read => ?_⟩
  cases read
  apply before.bind
  rintro stage _ rfl
  refine ⟨⟨rfl, rfl⟩, fun printed following print => ?_⟩
  cases print
  apply after.bind
  rintro stage _ rfl
  refine ⟨rfl, fun closed following close => ?_⟩
  cases close
  rfl

/-- Where `read_write` of thread `num` ends: it is complete, or it never got to
the barrier. -/
def readWriteDone (num : Nat) (stage : Stage) (_ : Unit) : Prop :=
  stage = afterReadWrite num (.complete threadNum) ∨ stage = afterReadWrite num .init

theorem readWrite_follows {num : Nat} (stage : Stage) (known : num < threadNum)
    (opens : allowed threadNum .fopen stage)
    (opened : ∀ result : Bool, stageAfter stage .fopen result = afterFopen num result) :
    (protocol threadNum ncpu).Follows (readWriteDone threadNum num) (readWrite threadNum num)
      stage := by
  simp only [readWrite, Code.perform_bind]
  refine ⟨opens, fun result following after => ?_⟩
  cases after
  rw [opened result]
  cases result with
  | true => exact (readOpened_follows threadNum ncpu known).mono fun _ _ done => Or.inl done
  | false =>
      refine ⟨⟨_, rfl⟩, fun printed following after => ?_⟩
      cases after
      exact Or.inr rfl

theorem threadFunction_follows {num : Nat} (known : num < threadNum) (created : 0 < num) :
    (protocol threadNum ncpu).Follows finished (threadFunction threadNum num) (.opening num) := by
  apply (readWrite_follows threadNum ncpu (.opening num) known rfl fun _ => rfl).bind
  have notMain : num ≠ 0 := created.ne'
  rintro stage _ (rfl | rfl)
  all_goals
    simp [afterReadWrite, notMain, Code.perform, finished]

theorem joinThreads_follows (i remaining : Nat) (progress : Progress)
    (total : i + remaining = threadNum) :
    (protocol threadNum ncpu).Follows finished (joinThreads i remaining)
      (.joining i progress) := by
  induction remaining generalizing i with
  | zero =>
      have last : i = threadNum := total
      simp [joinThreads, Code.perform, finished, last]
  | succ remaining ih =>
      have known : i < threadNum := by omega
      have rest := ih (i + 1) (by omega)
      simp +contextual [joinThreads, known, rest]

theorem createThreads_follows (i remaining : Nat) (positive : 0 < i)
    (total : i + remaining = threadNum) :
    (protocol threadNum ncpu).Follows finished (createThreads threadNum i remaining)
      (.creating i) := by
  induction remaining generalizing i with
  | zero =>
      have last : i = threadNum := total
      have known : 0 < threadNum := by omega
      apply (readWrite_follows threadNum ncpu (.creating i) known last fun _ => rfl).bind
      have rest := fun progress =>
        joinThreads_follows threadNum ncpu 1 (threadNum - 1) progress (by omega)
      rintro stage _ (rfl | rfl)
      · exact rest _
      · exact rest _
  | succ remaining ih =>
      have known : i < threadNum := by omega
      have rest := ih (i + 1) (Nat.succ_pos i) (by omega)
      simp +contextual [createThreads, known, rest]

theorem mainWith_follows (known : 0 < threadNum) (most : threadNum ≤ maxThreadNum)
    (positive : 0 < ncpu) :
    (protocol threadNum ncpu).Follows finished (mainWith threadNum ncpu) .setup := by
  have valid : ¬((threadNum : Int) < 1 ∨ (maxThreadNum : Int) < threadNum) := by omega
  have rest := createThreads_follows threadNum ncpu 1 (threadNum - 1) Nat.one_pos (by omega)
  simp only [mainWith, if_neg valid]
  simp +contextual [positive, rest]

end Follows

end McKernelTest.Lv07
