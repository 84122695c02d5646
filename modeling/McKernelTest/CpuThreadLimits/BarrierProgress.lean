import McKernelTest.CpuThreadLimits.BarrierRuns
import McKernelTest.Flow.Rank
import McKernelTest.Transition.Progress

/-!
# How `cpu_thread_limits#0` ends

The run function can always go on to its verdict: a thread that has not set its flag can do
so, and once the barrier is open every thread can return.  If a thread could not be created,
the run function waits for nobody, and a thread that was created may meet the array after
it has been freed.
-/

namespace McKernelTest.CpuThreadLimits.Barrier

open Process Transition

/-- How many steps the run function is away from its return, if it does not have to wait. -/
def MainPoint.rank (count : Nat) : MainPoint → Nat
  | .calloc => 7 * count + 7
  | .getrlimit => 7 * count + 6
  | .setrlimit => 7 * count + 5
  | .storeLocalId ith => 4 * (count - ith) + 3 * count + 4
  | .storeWaiting ith => 4 * (count - ith) + 3 * count + 3
  | .create ith => 4 * (count - ith) + 3 * count + 2
  | .storeIret ith _ => 4 * (count - ith) + 3 * count + 1
  | .loadIret ith => (count - ith) + 2 * count + 3
  | .reloadIret _ => 3
  | .printFailure _ _ => 2
  | .loadWaiting ith => (count - ith) + count + 2
  | .openBarrier => count + 2
  | .join ith => (count - ith) + 1
  | .freeFailed | .free => 1
  | .returned _ => 0

/-- How many steps a thread is away from its return, if the barrier is open. -/
def ChildPoint.rank : ChildPoint → Nat
  | .storeWaiting => 7
  | .pause => 6
  | .loadBarrier => 5
  | .gettid => 4
  | .loadLocalId _ => 3
  | .print _ _ => 2
  | .threadReturn => 1
  | .exited => 0

section Ranks

variable (count ith : Nat)

theorem joinFrom_rank : (joinFrom count ith).rank count ≤ (count - ith) + 1 := by
  unfold joinFrom
  split
  · exact Nat.le_refl _
  · exact Nat.le_add_left 1 _

theorem waitFrom_rank : (waitFrom count ith).rank count ≤ (count - ith) + count + 2 := by
  unfold waitFrom
  split
  · exact Nat.le_refl _
  · simp only [MainPoint.rank]
    omega

theorem checkFrom_rank : (checkFrom count ith).rank count ≤ (count - ith) + 2 * count + 3 := by
  unfold checkFrom
  split
  · exact Nat.le_refl _
  · have rest := waitFrom_rank count 0
    omega

theorem createFrom_rank :
    (createFrom count ith).rank count ≤ 4 * (count - ith) + 3 * count + 4 := by
  unfold createFrom
  split
  · exact Nat.le_refl _
  · have rest := checkFrom_rank count 0
    omega

end Ranks

/-- What the run function waits for. -/
def MainPoint.Ready (world : World) : MainPoint → Prop
  | .loadWaiting ith => world.cells ith .waiting ≠ 0
  | .join ith => world.returned ith = true
  | _ => True

section Moves

variable {env : Environment} {args : Args} {world : World} {main : MainPoint}
  {children : Nat → Option ChildPoint}

/-- The run function goes on unless it has to wait. -/
theorem Accounts.main_descends (accounts : Accounts env args world main children)
    (unfinished : ∀ failure, main ≠ .returned failure) (ready : main.Ready world) :
    ∃ op next result after, mainNode args main = .call op next ∧
      perform env world .main op result = some after ∧
      (next result).rank args.count < main.rank args.count := by
  have fits := accounts.fits
  cases main with
  | calloc =>
      refine ⟨.calloc args.threadNum, _, env.calloc, _, rfl, if_pos rfl, ?_⟩
      cases env.calloc <;> simp [MainPoint.rank]
  | getrlimit =>
      refine ⟨.getrlimitNproc, _, env.rlimMax, _, rfl, if_pos rfl, ?_⟩
      split <;> simp [MainPoint.rank]
  | setrlimit =>
      refine ⟨.setrlimitNproc _, _, env.setrlimit, _, rfl, if_pos rfl, ?_⟩
      split
      · apply Nat.lt_of_le_of_lt (createFrom_rank args.count 0)
        simp only [MainPoint.rank]
        omega
      · exact Nat.succ_pos _
  | storeLocalId ith => exact ⟨_, _, (), _, rfl, rfl, Nat.lt_succ_self _⟩
  | storeWaiting ith => exact ⟨_, _, (), _, rfl, rfl, Nat.lt_succ_self _⟩
  | create ith =>
      exact ⟨.pthreadCreate ith, _, env.pthreadCreate ith, _, rfl, if_pos rfl, Nat.lt_succ_self _⟩
  | storeIret ith iret =>
      refine ⟨_, _, (), _, rfl, rfl, ?_⟩
      have inside := fits.1
      apply Nat.lt_of_le_of_lt (createFrom_rank args.count (ith + 1))
      simp only [MainPoint.rank]
      omega
  | loadIret ith =>
      refine ⟨.load ith .iret, _, world.cells ith .iret, _, rfl, if_pos (Or.inr rfl), ?_⟩
      have inside : ith < args.count := fits
      split
      · simp only [MainPoint.rank]
        omega
      · apply Nat.lt_of_le_of_lt (checkFrom_rank args.count (ith + 1))
        simp only [MainPoint.rank]
        omega
  | reloadIret ith =>
      exact ⟨.load ith .iret, _, world.cells ith .iret, _, rfl, if_pos (Or.inr rfl),
        Nat.lt_succ_self _⟩
  | printFailure ith iret => exact ⟨_, _, (), _, rfl, rfl, Nat.lt_succ_self _⟩
  | freeFailed => exact ⟨_, _, (), _, rfl, rfl, Nat.lt_succ_self _⟩
  | loadWaiting ith =>
      refine ⟨.load ith .waiting, _, world.cells ith .waiting, _, rfl, if_pos (Or.inr rfl), ?_⟩
      have inside : ith < args.count := fits
      rw [if_neg ready]
      apply Nat.lt_of_le_of_lt (waitFrom_rank args.count (ith + 1))
      simp only [MainPoint.rank]
      omega
  | openBarrier =>
      refine ⟨_, _, (), _, rfl, rfl, ?_⟩
      exact Nat.lt_succ_of_le (joinFrom_rank args.count 0)
  | join ith =>
      refine ⟨_, _, (), _, rfl, if_pos ready, ?_⟩
      have inside : ith < args.count := fits
      apply Nat.lt_of_le_of_lt (joinFrom_rank args.count (ith + 1))
      simp only [MainPoint.rank]
      omega
  | free => exact ⟨_, _, (), _, rfl, rfl, Nat.lt_succ_self _⟩
  | returned failure => exact absurd rfl (unfinished failure)

/-- A thread goes on unless it waits at the barrier. -/
theorem Accounts.child_descends {ith : Nat} {point : ChildPoint}
    (accounts : Accounts env args world main children) (running : point ≠ .exited)
    (released : point = .loadBarrier → (main.progress args.count).opened = true) :
    ∃ op next result after, childFunc ith point = .call op next ∧
      perform env world (.child ith) op result = some after ∧ (next result).rank < point.rank := by
  cases point with
  | storeWaiting => exact ⟨_, _, (), _, rfl, rfl, by decide⟩
  | loadBarrier =>
      refine ⟨.loadBarrier, _, world.barrier, _, rfl, if_pos rfl, ?_⟩
      simp [accounts.barrier, released rfl, ChildPoint.rank]
  | pause => exact ⟨_, _, (), _, rfl, rfl, by decide⟩
  | gettid => exact ⟨.gettid, _, (0 : Int), _, rfl, rfl, Nat.lt_succ_self _⟩
  | loadLocalId tid =>
      exact ⟨.load ith .localId, _, world.cells ith .localId, _, rfl, if_pos (Or.inr rfl),
        Nat.lt_succ_self _⟩
  | print tid localId => exact ⟨_, _, (), _, rfl, rfl, Nat.lt_succ_self _⟩
  | threadReturn => exact ⟨_, _, (), _, rfl, rfl, Nat.lt_succ_self _⟩
  | exited => exact absurd rfl running

/-- If no thread can go on, the run function does not have to wait. -/
theorem Accounts.ready_of_blocked (accounts : Accounts env args world main children)
    (blocked : ∀ ith point, children ith = some point →
      point = .exited ∨ point = .loadBarrier ∧ (main.progress args.count).opened = false) :
    main.Ready world := by
  have exists_child : ∀ ith < (main.progress args.count).checked,
      ith < (main.progress args.count).created → ∃ point, children ith = some point := by
    intro ith checked created
    have account := accounts.account ith
    exact Option.isSome_iff_exists.mp (account.born.mpr ⟨created, account.checked checked⟩)
  have fits := accounts.fits
  cases main with
  | loadWaiting ith =>
      obtain ⟨point, found⟩ := exists_child ith fits fits
      have waiting := (accounts.account ith).waiting rfl fits
      change world.cells ith .waiting ≠ 0
      rcases blocked ith point found with rfl | ⟨rfl, -⟩ <;>
        simp [waiting, found, ChildPoint.arrived]
  | join ith =>
      obtain ⟨point, found⟩ := exists_child ith fits fits
      rcases blocked ith point found with rfl | ⟨-, closed⟩
      · exact (accounts.account ith).returned.mpr found
      · cases closed
  | _ => exact trivial

end Moves

/-- The steps that the run function and the threads are away from their returns; a thread
that has not been started has all of them to go. -/
def totalRank (count : Nat) (main : MainPoint) (children : Nat → Option ChildPoint) : Nat :=
  main.rank count + Flow.familyRank 7 ChildPoint.rank count children

section Descent

variable {env : Environment} {args : Args} {trace : List BarrierEvent} {config : BarrierConfig}
  {main : MainPoint} {children : Nat → Option ChildPoint}

theorem MainPoint.created_le_count (fits : main.Fits env args) :
    (main.progress args.count).created ≤ args.count := by
  cases main with
  | storeLocalId ith => exact Nat.le_of_lt fits
  | storeWaiting ith => exact Nat.le_of_lt fits
  | create ith => exact Nat.le_of_lt fits
  | storeIret ith iret => exact fits.1
  | returned failure =>
      cases failure with
      | none => exact Nat.le_refl _
      | some failure => cases failure <;> simp [MainPoint.progress, Progress.made]
  | calloc => exact Nat.zero_le _
  | getrlimit => exact Nat.zero_le _
  | setrlimit => exact Nat.zero_le _
  | _ => exact Nat.le_refl _

/-- A step of the run function. -/
theorem Snapshot.main_descends (snapshot : Snapshot env args trace config main children)
    (unfinished : ∀ failure, main ≠ .returned failure) (ready : main.Ready config.world) :
    ∃ event target next after, (system env args).step config event = some target ∧
      Snapshot env args (trace ++ [event]) target next after ∧
      (∀ num, after num = children num ∨ children num = none ∧ after num = some .storeWaiting) ∧
      next.rank args.count < main.rank args.count := by
  obtain ⟨op, next, result, world, isNode, performed, lower⟩ :=
    snapshot.accounts.main_descends unfinished ready
  obtain ⟨after, moved, started⟩ := snapshot.main_step isNode performed
  exact ⟨_, _, next result, after,
    Flow.System.step_call Thread.main op result snapshot.isMain isNode performed, moved, started,
    lower⟩

/-- A step of a thread. -/
theorem Snapshot.child_descends {ith : Nat} {point : ChildPoint}
    (snapshot : Snapshot env args trace config main children)
    (current : children ith = some point) (running : point ≠ .exited)
    (released : point = .loadBarrier → (main.progress args.count).opened = true) :
    ∃ event target next, (system env args).step config event = some target ∧
      Snapshot env args (trace ++ [event]) target main (Function.update children ith (some next)) ∧
      next.rank < point.rank := by
  obtain ⟨op, next, result, world, isNode, performed, lower⟩ :=
    snapshot.accounts.child_descends running released
  exact ⟨_, _, next result, Flow.System.step_call (Thread.child ith) op result
    ((snapshot.isPoint ith).trans current) isNode performed,
    snapshot.child_step current isNode performed, lower⟩

theorem totalRank_main {next : MainPoint} {after : Nat → Option ChildPoint}
    (started : ∀ num, after num = children num ∨
      children num = none ∧ after num = some .storeWaiting)
    (lower : next.rank args.count < main.rank args.count) :
    totalRank args.count next after < totalRank args.count main children := by
  have same : ∀ num, (after num).elim 7 ChildPoint.rank =
      (children num).elim 7 ChildPoint.rank := by
    intro num
    rcases started num with kept | ⟨unborn, born⟩
    · rw [kept]
    · rw [unborn, born]
      rfl
  rw [totalRank, totalRank, Flow.familyRank_congr same]
  exact Nat.add_lt_add_right lower _

theorem totalRank_child {ith : Nat} {point next : ChildPoint} (inside : ith < args.count)
    (current : children ith = some point) (lower : next.rank < point.rank) :
    totalRank args.count main (Function.update children ith (some next)) <
      totalRank args.count main children := by
  exact Nat.add_lt_add_left (Flow.familyRank_update_lt inside current lower) _

/-- Before the run function has returned, some step brings its return nearer. -/
theorem Snapshot.descends (snapshot : Snapshot env args trace config main children)
    (unfinished : ∀ failure, main ≠ .returned failure) :
    ∃ event target next after, (system env args).step config event = some target ∧
      Snapshot env args (trace ++ [event]) target next after ∧
      totalRank args.count next after < totalRank args.count main children := by
  by_cases able : ∃ ith point, children ith = some point ∧ point ≠ .exited ∧
      (point = .loadBarrier → (main.progress args.count).opened = true)
  · obtain ⟨ith, point, current, running, released⟩ := able
    obtain ⟨event, target, next, stepped, moved, lower⟩ :=
      snapshot.child_descends current running released
    have born := (snapshot.accounts.account ith).born.mp (by rw [current]; rfl)
    have inside := Nat.lt_of_lt_of_le born.1 (MainPoint.created_le_count snapshot.accounts.fits)
    exact ⟨event, target, main, _, stepped, moved, totalRank_child inside current lower⟩
  · have ready : main.Ready config.world := by
      apply snapshot.accounts.ready_of_blocked
      intro ith point current
      by_contra runs
      rw [not_or, not_and] at runs
      exact able ⟨ith, point, current, runs.1, fun waits => eq_true_of_ne_false (runs.2 waits)⟩
    obtain ⟨event, target, next, after, stepped, moved, started, lower⟩ :=
      snapshot.main_descends unfinished ready
    exact ⟨event, target, next, after, stepped, moved, totalRank_main started lower⟩

end Descent

section Results

variable {env : Environment} {args : Args} {trace : List BarrierEvent} {config : BarrierConfig}

/-- Whatever the threads have done so far, the run function can still return its verdict. -/
theorem can_return_verdict (run : Run (system env args).step (start args) trace config) :
    ∃ rest final, Run (system env args).step config rest final ∧
      final.point .main = some (.returned (verdict env args)) := by
  obtain ⟨main, children, snapshot⟩ := Invariant.of_run run
  let Inv (height : Nat) (config : BarrierConfig) : Prop := ∃ trace main children,
    Snapshot env args trace config main children ∧ totalRank args.count main children = height
  let Goal (config : BarrierConfig) : Prop :=
    ∃ failure, config.point .main = some (.returned failure)
  have initial : Inv (totalRank args.count main children) config := ⟨_, _, _, snapshot, rfl⟩
  have progress : ∀ height state, Inv height state → ¬Goal state → ∃ event target lower,
      anyStep state event ∧ (system env args).step state event = some target ∧
        Inv lower target ∧ lower < height := by
    rintro height state ⟨trace, main, children, snapshot, rfl⟩ unfinished
    obtain ⟨event, target, next, after, stepped, moved, lower⟩ := snapshot.descends
      fun failure returned => unfinished ⟨failure, returned ▸ snapshot.isMain⟩
    exact ⟨event, target, _, trivial, stepped, ⟨_, _, _, moved, rfl⟩, lower⟩
  obtain ⟨rest, final, _, continued, ⟨_, _, _, reached, -⟩, failure, returned⟩ :=
    exists_run_of_rank progress initial
  refine ⟨rest, final, continued, ?_⟩
  cases reached.isMain.symm.trans returned
  rw [returned, ← reached.isVerdict]
  rfl

/-- From the start of the test case with two threads. -/
theorem can_return_verdict_two :
    ∃ rest final, Run (system ⟨true, 4, 0, fun _ => 0⟩ ⟨2, 2⟩).step (start ⟨2, 2⟩) rest final ∧
      final.point .main = some (.returned none) := by
  have run : Run (system ⟨true, 4, 0, fun _ => 0⟩ ⟨2, 2⟩).step (start ⟨2, 2⟩) [] (start ⟨2, 2⟩) :=
    GuardedRun.nil
  have value : verdict ⟨true, 4, 0, fun _ => 0⟩ ⟨2, 2⟩ = none := by decide
  rw [← value]
  exact can_return_verdict run

/-- A state with a freed array is one after the return of the run function. -/
theorem MainPoint.returned_of_freed {main : MainPoint} {count : Nat}
    (freed : (main.progress count).freed = true) :
    main = .returned none ∨ main = .returned (some .pthreadCreate) := by
  cases main with
  | returned failure =>
      cases failure with
      | none => exact Or.inl rfl
      | some failure =>
          cases failure with
          | pthreadCreate => exact Or.inr rfl
          | _ => cases freed
  | _ => cases freed

/-- The freed array is used only if one thread was created and another one was not. -/
theorem causes_of_usesFreed {event : BarrierEvent} {target : BarrierConfig}
    (run : Run (system env args).step (start args) trace config)
    (stepped : (system env args).step config event = some target) (used : UsesFreed config event) :
    verdict env args = some .pthreadCreate ∧ ∃ ith < args.count, env.pthreadCreate ith = 0 := by
  obtain ⟨main, children, isMain, isPoint, accounts, isVerdict, -⟩ := Invariant.of_run run
  cases event with
  | external cause => exact cause.elim
  | call thread op result =>
      obtain ⟨point, next, world, current, isNode, -, -⟩ :=
        (Flow.System.step_call_eq_some_iff _ _ _ _ _ _).mp stepped
      have freed : config.world.freed = true := by
        cases op with
        | load => exact used
        | store => exact used
        | _ => exact used.elim
      have returned := MainPoint.returned_of_freed (accounts.freed ▸ freed)
      cases thread with
      | main =>
          cases current.symm.trans isMain
          rcases returned with rfl | rfl <;> cases isNode
      | child ith =>
          have isChild : children ith = some point := (isPoint ith).symm.trans current
          have account := accounts.account ith
          rw [isChild] at account
          have born := account.born.mp rfl
          rcases returned with rfl | rfl
          · have exited := account.returned.mp (account.joined born.1)
            cases exited
            cases isNode
          · exact ⟨isVerdict.symm, ith, born⟩

/-- If some thread cannot be created, the run function can return while the other threads have
not taken a step. -/
theorem exists_run_without_children (failed : verdict env args = some .pthreadCreate) :
    ∃ trace config children, Run (system env args).step (start args) trace config ∧
      Snapshot env args trace config (.returned (some .pthreadCreate)) children ∧
      ∀ num point, children num = some point → point = .storeWaiting := by
  let Inv (height : Nat) (config : BarrierConfig) : Prop := ∃ trace main children,
    Run (system env args).step (start args) trace config ∧
      Snapshot env args trace config main children ∧ main.rank args.count = height ∧
      ∀ num point, children num = some point → point = .storeWaiting
  let Goal (config : BarrierConfig) : Prop :=
    ∃ failure, config.point .main = some (.returned failure)
  obtain ⟨main, children, snapshot⟩ := Invariant.initial env args
  have initial : Inv (main.rank args.count) (start args) := by
    refine ⟨[], main, children, GuardedRun.nil, snapshot, rfl, fun num point found => ?_⟩
    rw [← snapshot.isPoint] at found
    cases found
  have progress : ∀ height state, Inv height state → ¬Goal state → ∃ event target lower,
      anyStep state event ∧ (system env args).step state event = some target ∧
        Inv lower target ∧ lower < height := by
    rintro height state ⟨trace, main, children, run, snapshot, rfl, fresh⟩ unfinished
    have isVerdict := snapshot.isVerdict.trans failed
    have ready : main.Ready state.world := by
      cases main with
      | loadWaiting ith => cases isVerdict
      | join ith => cases isVerdict
      | _ => exact trivial
    obtain ⟨event, target, next, after, stepped, moved, started, lower⟩ :=
      snapshot.main_descends
        (fun failure returned => unfinished ⟨failure, returned ▸ snapshot.isMain⟩) ready
    refine ⟨event, target, _, trivial, stepped,
      ⟨_, next, after, run.snoc trivial stepped, moved, rfl, ?_⟩, lower⟩
    intro num point found
    rcases started num with kept | ⟨-, born⟩
    · exact fresh num point (kept ▸ found)
    · exact Option.some.inj (found.symm.trans born)
  obtain ⟨_, final, _, -, ⟨trace, main, children, run, snapshot, -, fresh⟩, failure, returned⟩ :=
    exists_run_of_rank progress initial
  cases snapshot.isMain.symm.trans returned
  have isFailure : failure = some .pthreadCreate := snapshot.isVerdict.trans failed
  exact ⟨trace, final, children, run, isFailure ▸ snapshot, fresh⟩

/-- The freed array can be used exactly if some thread was created and another one was not. -/
theorem exists_usesFreed_iff (env : Environment) (args : Args) :
    (∃ trace config event target, Run (system env args).step (start args) trace config ∧
      (system env args).step config event = some target ∧ UsesFreed config event) ↔
      verdict env args = some .pthreadCreate ∧ ∃ ith < args.count, env.pthreadCreate ith = 0 := by
  constructor
  · rintro ⟨trace, config, event, target, run, stepped, used⟩
    exact causes_of_usesFreed run stepped used
  · rintro ⟨failed, ith, inside, created⟩
    obtain ⟨trace, config, children, run, snapshot, fresh⟩ := exists_run_without_children failed
    have born := (snapshot.accounts.account ith).born.mpr ⟨inside, created⟩
    obtain ⟨point, found⟩ := Option.isSome_iff_exists.mp born
    cases fresh ith point found
    have stepped := (Flow.System.step_call_eq_some_iff (system env args) config _ (.child ith)
      (.store ith .waiting 1) ()).mpr
        ⟨.storeWaiting, _, _, (snapshot.isPoint ith).trans found, rfl, rfl, rfl⟩
    exact ⟨trace, config, _, _, run, stepped, snapshot.accounts.freed⟩

end Results

end McKernelTest.CpuThreadLimits.Barrier
