import McKernelTest.CpuThreadLimits.BarrierVerdict

/-!
# Runs of `cpu_thread_limits#0`

No thread prints before all of them have set their flags, and the run function returns
without a message only after every thread has printed its line once.  As long as every
thread can be created, this is where the test case can always get to.  A thread that was
created although another one was not meets an array that may have been freed.
-/

namespace McKernelTest.CpuThreadLimits.Barrier

open Process Transition

/-- The event of a thread setting its flag. -/
def arrival (num : Nat) : BarrierEvent :=
  .call (.child num) (.store num .waiting 1) ()

/-- What a thread prints in an event. -/
def lineOf (num : Nat) : BarrierEvent → Option (List Int)
  | .call (.child ith) (.printf _ values) _ => if ith = num then some values else none
  | _ => none

/-- What a thread has printed. -/
def lines (num : Nat) (trace : List BarrierEvent) : List (List Int) :=
  trace.filterMap (lineOf num)

/-- What a thread has done is in the trace. -/
structure Log (trace : List BarrierEvent) (num : Nat) (child : Option ChildPoint) : Prop where
  arrived : child.any (·.arrived) = true → arrival num ∈ trace
  silent : child.any (·.printed) = false → lines num trace = []
  printed : child.any (·.printed) = true → ∃ tid : Int, lines num trace = [[tid, num + 1]]

/-- A state, seen as the point of the run function and the points of the threads. -/
structure Snapshot (env : Environment) (args : Args) (trace : List BarrierEvent)
    (config : BarrierConfig) (main : MainPoint) (children : Nat → Option ChildPoint) : Prop where
  isMain : config.point .main = some main
  isPoint : ∀ num, config.point (.child num) = children num
  accounts : Accounts env args config.world main children
  isVerdict : main.verdict env args = verdict env args
  logs : ∀ num, Log trace num (children num)

/-- What holds in every reachable state. -/
def Invariant (env : Environment) (args : Args) (trace : List BarrierEvent)
    (config : BarrierConfig) : Prop :=
  ∃ main children, Snapshot env args trace config main children

section Step

variable {env : Environment} {args : Args} {trace : List BarrierEvent} {num : Nat}
  {config target : BarrierConfig} {event : BarrierEvent}

theorem lines_append_of_none (silent : lineOf num event = none) :
    lines num (trace ++ [event]) = lines num trace := by
  simp [lines, silent]

/-- The log of a thread that does nothing. -/
theorem Log.extend {child : Option ChildPoint} (log : Log trace num child)
    (silent : lineOf num event = none) : Log (trace ++ [event]) num child := by
  constructor
  · exact fun arrived => List.mem_append_left _ (log.arrived arrived)
  · rw [lines_append_of_none silent]
    exact log.silent
  · rw [lines_append_of_none silent]
    exact log.printed

/-- A thread at its start has done as little as one that does not exist. -/
theorem Log.start (log : Log trace num none) : Log trace num (some .storeWaiting) :=
  ⟨log.arrived, log.silent, log.printed⟩

/-- A move of a thread that neither sets its flag nor prints. -/
theorem Log.move {point next : ChildPoint} (log : Log trace num (some point))
    (silent : lineOf num event = none) (arrived : next.arrived = point.arrived)
    (printed : next.printed = point.printed) : Log (trace ++ [event]) num (some next) := by
  have extended := log.extend silent
  constructor
  · rw [Option.any_some, arrived]
    exact extended.arrived
  · rw [Option.any_some, printed]
    exact extended.silent
  · rw [Option.any_some, printed]
    exact extended.printed

/-- A step of a thread in its log. -/
theorem Log.step {point : ChildPoint} {op : Op} {next : Res op → ChildPoint} {result : Res op}
    (log : Log trace num (some point)) (isNode : childFunc num point = .call op next)
    (isLine : ∀ tid localId, point = .print tid localId → localId = num + 1) :
    Log (trace ++ [.call (.child num) op result]) num (some (next result)) := by
  cases point with
  | storeWaiting =>
      cases isNode
      refine ⟨fun _ => List.mem_append_right _ List.mem_cons_self, ?_, by simp [ChildPoint.printed]⟩
      intro silent
      rw [lines_append_of_none rfl]
      exact log.silent rfl
  | loadBarrier =>
      cases isNode
      beta_reduce
      split
      · exact log.move rfl rfl rfl
      · exact log.move rfl rfl rfl
  | print tid localId =>
      cases isNode
      have before := log.silent rfl
      refine ⟨fun _ => List.mem_append_left _ (log.arrived rfl), by simp [ChildPoint.printed],
        fun _ => ⟨tid, ?_⟩⟩
      rw [lines, List.filterMap_append, ← lines, before]
      simp [lineOf, isLine tid localId rfl]
  | pause =>
      cases isNode
      exact log.move rfl rfl rfl
  | gettid =>
      cases isNode
      exact log.move rfl rfl rfl
  | loadLocalId tid =>
      cases isNode
      exact log.move rfl rfl rfl
  | threadReturn =>
      cases isNode
      exact log.move rfl rfl rfl
  | exited => cases isNode

theorem spawn_eq_none (thread : Thread) {op : Op} (result : Res op)
    (single : ∀ ith, op ≠ .pthreadCreate ith) : spawn thread op result = none := by
  cases op with
  | pthreadCreate ith => exact absurd rfl (single ith)
  | _ => rfl

theorem single_of_childFunc {point : ChildPoint} {op : Op} {next : Res op → ChildPoint}
    (isNode : childFunc num point = .call op next) : ∀ ith, op ≠ .pthreadCreate ith := by
  rintro ith rfl
  cases point <;> cases isNode

section Points

variable {point : (thread : Thread) → Option (Point thread)} {children : Nat → Option ChildPoint}

/-- A step of the run function that starts no thread leaves the threads where they are. -/
theorem children_main_step {op : Op} {result : Res op} {main : MainPoint}
    (isPoint : ∀ num, point (.child num) = children num) (single : ∀ ith, op ≠ .pthreadCreate ith) :
    (system env args).resume point .main op result main (.child num) = children num := by
  have started : (system env args).spawn .main op result = none := spawn_eq_none .main result single
  rw [Flow.System.resume_self started, Function.update_of_ne (by simp), isPoint]

/-- The threads after `pthread_create`. -/
theorem children_create {ith : Nat} {iret : Int} {main : MainPoint}
    (isPoint : ∀ num, point (.child num) = children num) :
    (system env args).resume point .main (.pthreadCreate ith) iret main (.child num) =
      if num = ith ∧ iret = 0 then some .storeWaiting else children num := by
  by_cases created : iret = 0
  · have started : (system env args).spawn .main (.pthreadCreate ith) iret =
        some ⟨.child ith, ChildPoint.storeWaiting⟩ := if_pos created
    rw [Flow.System.resume_spawn started]
    by_cases same : num = ith
    · subst same
      simp [created]
    · simp [same, isPoint]
  · have single : (system env args).spawn .main (.pthreadCreate ith) iret = none := if_neg created
    rw [Flow.System.resume_self single, Function.update_of_ne (by simp), isPoint,
      if_neg (fun both => created both.2)]

/-- A step of a thread. -/
theorem children_child_step {ith : Nat} {op : Op} {result : Res op} {reached : ChildPoint}
    (isPoint : ∀ num, point (.child num) = children num) (single : ∀ ith, op ≠ .pthreadCreate ith) :
    (system env args).resume point (.child ith) op result reached (.child num) =
      Function.update children ith (some reached) num := by
  have started : (system env args).spawn (.child ith) op result = none :=
    spawn_eq_none (.child ith) result single
  rw [Flow.System.resume_self started]
  by_cases same : num = ith
  · subst same
    simp
  · simp [same, isPoint]

theorem main_resume (op : Op) (result : Res op) (main : MainPoint) :
    (system env args).resume point .main op result main .main = some main := by
  apply Flow.System.resume_same
  intro started spawned
  cases op with
  | pthreadCreate ith =>
      obtain ⟨-, ⟨⟩⟩ := Option.ite_none_right_eq_some.mp spawned
      simp
  | _ => cases spawned

end Points

section Moves

variable {main : MainPoint} {children : Nat → Option ChildPoint} {world : World} {op : Op}
  {result : Res op}

/-- A step of the run function moves no thread, but it may start one. -/
theorem Snapshot.main_step {next : Res op → MainPoint}
    (snapshot : Snapshot env args trace config main children)
    (isNode : mainNode args main = .call op next)
    (performed : perform env config.world .main op result = some world) :
    ∃ after, Snapshot env args (trace ++ [.call .main op result])
        ⟨world, (system env args).resume config.point .main op result (next result)⟩ (next result)
        after ∧
      ∀ num, after num = children num ∨ children num = none ∧ after num = some .storeWaiting := by
  obtain ⟨-, isPoint, accounts, isVerdict, logs⟩ := snapshot
  have verdict := (accounts.verdict_step isNode performed).trans isVerdict
  by_cases creates : ∃ ith, op = .pthreadCreate ith
  · obtain ⟨ith, rfl⟩ := creates
    obtain ⟨unborn, created⟩ := accounts.create isNode performed
    refine ⟨_, ⟨main_resume _ _ _, fun num => children_create isPoint, created, verdict, ?_⟩, ?_⟩
    · intro num
      have log : Log (trace ++ [.call .main (.pthreadCreate ith) result]) num (children num) :=
        (logs num).extend rfl
      split
      · rename_i own
        rw [own.1, unborn] at log
        rw [own.1]
        exact log.start
      · exact log
    · intro num
      by_cases own : num = ith ∧ result = 0
      · rw [if_pos own, own.1]
        exact Or.inr ⟨unborn, rfl⟩
      · exact Or.inl (if_neg own)
  · have single := not_exists.mp creates
    exact ⟨children, ⟨main_resume _ _ _, fun num => children_main_step isPoint single,
      accounts.main_step isNode single performed, verdict, fun num => (logs num).extend rfl⟩,
      fun num => Or.inl rfl⟩

theorem lineOf_child_of_ne {ith : Nat} (other : num ≠ ith) :
    lineOf num (.call (.child ith) op result) = none := by
  cases op with
  | printf format values => exact if_neg (Ne.symm other)
  | _ => rfl

/-- A step of a thread. -/
theorem Snapshot.child_step {ith : Nat} {point : ChildPoint} {next : Res op → ChildPoint}
    (snapshot : Snapshot env args trace config main children)
    (current : children ith = some point) (isNode : childFunc ith point = .call op next)
    (performed : perform env config.world (.child ith) op result = some world) :
    Snapshot env args (trace ++ [.call (.child ith) op result])
      ⟨world, (system env args).resume config.point (.child ith) op result (next result)⟩ main
      (Function.update children ith (some (next result))) := by
  obtain ⟨isMain, isPoint, accounts, verdict, logs⟩ := snapshot
  have single := single_of_childFunc isNode
  have unstarted : (system env args).spawn (.child ith) op result = none :=
    spawn_eq_none (.child ith) result single
  refine ⟨?_, fun num => children_child_step isPoint single,
    accounts.child_step current isNode performed, verdict, ?_⟩
  · change (system env args).resume config.point (.child ith) op result (next result) .main = _
    rw [Flow.System.resume_self unstarted, Function.update_of_ne (by simp), isMain]
  · intro num
    have log := logs num
    by_cases same : num = ith
    · subst same
      rw [current] at log
      rw [Function.update_self]
      have account := accounts.account num
      rw [current] at account
      exact log.step isNode fun tid localId print => account.printing tid localId (print ▸ rfl)
    · rw [Function.update_of_ne same]
      exact log.extend (lineOf_child_of_ne same)

end Moves

theorem Invariant.step (invariant : Invariant env args trace config)
    (stepped : (system env args).step config event = some target) :
    Invariant env args (trace ++ [event]) target := by
  cases event with
  | external cause => exact cause.elim
  | call thread op result =>
      obtain ⟨point, next, world, isPoint, isNode, performed, rfl⟩ :=
        (Flow.System.step_call_eq_some_iff _ _ _ _ _ _).mp stepped
      obtain ⟨main, children, snapshot⟩ := invariant
      cases thread with
      | main =>
          cases snapshot.isMain.symm.trans isPoint
          obtain ⟨after, moved, -⟩ := snapshot.main_step isNode performed
          exact ⟨next result, after, moved⟩
      | child ith =>
          have current := (snapshot.isPoint ith).symm.trans isPoint
          exact ⟨main, _, snapshot.child_step current isNode performed⟩

end Step

section Runs

variable {env : Environment} {args : Args} {trace : List BarrierEvent} {config : BarrierConfig}

theorem runFunc_progress (args : Args) (count : Nat) : (runFunc args).progress count = {} := by
  unfold runFunc
  split
  · split <;> rfl
  · rfl

theorem runFunc_fits (env : Environment) (args : Args) : (runFunc args).Fits env args := by
  unfold runFunc
  split
  · split <;> exact trivial
  · exact trivial

theorem Invariant.initial (env : Environment) (args : Args) :
    Invariant env args [] (start args) := by
  refine ⟨runFunc args, fun _ => none, rfl, fun _ => rfl, ?_, runFunc_verdict env args, ?_⟩
  · refine ⟨runFunc_fits env args, ?_, ?_, fun num => ?_⟩
    · rw [runFunc_progress]
      rfl
    · rw [runFunc_progress]
      rfl
    · rw [runFunc_progress]
      constructor <;> simp [start]
  · intro num
    constructor <;> simp [lines]

theorem Invariant.of_run (run : Run (system env args).step (start args) trace config) :
    Invariant env args trace config := by
  apply run.invariant (Invariant.initial env args)
  exact fun _ _ _ _ invariant _ stepped => invariant.step stepped

/-! ## What the test case achieves -/

theorem MainPoint.seen_of_opened {main : MainPoint} {count : Nat}
    (opened : (main.progress count).opened = true) : (main.progress count).seen = count := by
  cases main with
  | join ith => rfl
  | free => rfl
  | returned failure =>
      cases failure with
      | none => rfl
      | some failure => cases failure <;> cases opened
  | _ => cases opened

/-- Nobody prints before everybody has set the flag, and what a thread prints is its own
number. -/
theorem prints_after_all_arrived {ith : Nat} {format : String} {values : List Int}
    (run : Run (system env args).step (start args)
      (trace ++ [.call (.child ith) (.printf format values) ()]) config) :
    (∃ tid : Int, values = [tid, ith + 1]) ∧ ∀ num < args.count, arrival num ∈ trace := by
  obtain ⟨middle, before, -, stepped⟩ := run.last
  obtain ⟨main, children, isMain, isPoint, accounts, -, logs⟩ := Invariant.of_run before
  obtain ⟨point, next, world, current, isNode, -, -⟩ :=
    (Flow.System.step_call_eq_some_iff _ _ _ _ _ _).mp stepped
  have isChild : children ith = some point := (isPoint ith).symm.trans current
  have account := accounts.account ith
  rw [isChild] at account
  change childFunc ith point = _ at isNode
  cases point with
  | print tid localId =>
      cases isNode
      refine ⟨⟨tid, by rw [account.printing tid localId rfl]⟩, fun num inside => ?_⟩
      have seen := MainPoint.seen_of_opened (account.entered rfl)
      exact (logs num).arrived ((accounts.account num).seen (seen.symm ▸ inside))
  | _ => cases isNode

/-- The run function creates thread `ith`. -/
def creation (ith : Nat) : List BarrierEvent :=
  [.call .main (.store ith .localId (ith + 1)) (), .call .main (.store ith .waiting 0) (),
    .call .main (.pthreadCreate ith) (0 : Int), .call .main (.store ith .iret 0) ()]

/-- Thread `ith` leaves the barrier and comes to its line. -/
def leaving (ith : Nat) (tid : Int) : List BarrierEvent :=
  [.call (.child ith) .loadBarrier (1 : Nat), .call (.child ith) .gettid tid,
    .call (.child ith) (.load ith .localId) (ith + 1 : Int)]

/-- The line of thread `ith`. -/
def line (ith : Nat) (tid : Int) : BarrierEvent :=
  .call (.child ith) (.printf "[tid=%d] from child thread.(local_id=%d)\n" [tid, ith + 1]) ()

/-- The first of two threads spins at the barrier, and the run function starts its loop again,
until the second thread has set its flag. -/
def twoThreads : List BarrierEvent :=
  [.call .main (.calloc 2) true, .call .main .getrlimitNproc (4 : Nat),
    .call .main (.setrlimitNproc 1) (0 : Int)] ++ creation 0 ++ creation 1 ++
  [.call .main (.load 0 .iret) (0 : Int), .call .main (.load 1 .iret) (0 : Int), arrival 0,
    .call (.child 0) .loadBarrier (0 : Nat), .call (.child 0) .cpuPause (),
    .call .main (.load 0 .waiting) (1 : Int), .call .main (.load 1 .waiting) (0 : Int), arrival 1,
    .call .main (.load 0 .waiting) (1 : Int), .call .main (.load 1 .waiting) (1 : Int),
    .call .main (.storeBarrier 1) ()] ++ leaving 0 77

theorem prints_after_all_arrived_two :
    ∃ config, Run (system ⟨true, 4, 0, fun _ => 0⟩ ⟨2, 1⟩).step (start ⟨2, 1⟩)
      (twoThreads ++ [line 0 77]) config ∧ ∀ num < 2, arrival num ∈ twoThreads := by
  obtain ⟨config, run⟩ : ∃ config, Run (system ⟨true, 4, 0, fun _ => 0⟩ ⟨2, 1⟩).step
      (start ⟨2, 1⟩) (twoThreads ++ [line 0 77]) config := ⟨_, GuardedRun.of_execute rfl⟩
  exact ⟨config, run, (prints_after_all_arrived run).2⟩

/-- The run function returns the verdict, and without a message only after every thread has
printed its line once and returned. -/
theorem returned_outcome {failure : Option Failure}
    (run : Run (system env args).step (start args) trace config)
    (returned : config.point .main = some (.returned failure)) :
    failure = verdict env args ∧ (failure = none → config.world.freed = true ∧
      ∀ num < args.count, config.point (.child num) = some .exited ∧
        ∃ tid : Int, lines num trace = [[tid, num + 1]]) := by
  obtain ⟨main, children, isMain, isPoint, accounts, isVerdict, logs⟩ := Invariant.of_run run
  cases returned.symm.trans isMain
  refine ⟨isVerdict, ?_⟩
  rintro rfl
  refine ⟨accounts.freed, fun num inside => ?_⟩
  have account := accounts.account num
  have exited := account.returned.mp (account.joined inside)
  rw [isPoint]
  refine ⟨exited, (logs num).printed ?_⟩
  rw [exited]
  rfl

/-- The rest of the calls with two threads. -/
def twoReturn : List BarrierEvent :=
  twoThreads ++ [line 0 77, .call (.child 0) .threadReturn ()] ++ leaving 1 78 ++
    [line 1 78, .call (.child 1) .threadReturn (), .call .main (.pthreadJoin 0) (),
      .call .main (.pthreadJoin 1) (), .call .main .free ()]

theorem returned_outcome_two :
    ∃ config, Run (system ⟨true, 4, 0, fun _ => 0⟩ ⟨2, 1⟩).step (start ⟨2, 1⟩) twoReturn config ∧
      ∀ num < 2, ∃ tid : Int, lines num twoReturn = [[tid, num + 1]] := by
  obtain ⟨config, run, returned⟩ : ∃ config, Run (system ⟨true, 4, 0, fun _ => 0⟩ ⟨2, 1⟩).step
      (start ⟨2, 1⟩) twoReturn config ∧ config.point .main = some (.returned none) :=
    ⟨_, GuardedRun.of_execute rfl, rfl⟩
  exact ⟨config, run, fun num inside => (((returned_outcome run returned).2 rfl).2 num inside).2⟩

end Runs

end McKernelTest.CpuThreadLimits.Barrier
