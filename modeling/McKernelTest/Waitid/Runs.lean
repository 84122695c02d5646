import McKernelTest.Waitid.Invariant
import Mathlib.Data.List.Nodup

/-!
# Runs of `waitid#1` and `waitid#2`

What the run functions return, if they return, does not depend on when the children move,
wake up and exit.  The ids that they report are those of different children, and in `waitid#1`
all of them are in the group of the parent.
-/

namespace McKernelTest.Waitid

open Process Transition

/-- The child that an event reports. -/
def reportOf : WaitidEvent → Option Int
  | .call .parent (.waitid _) result | .call .parent (.rescan _) result => reported result
  | _ => none

/-- The ids of the children that `waitid` has reported. -/
def reports (trace : List WaitidEvent) : List Int :=
  trace.filterMap reportOf

section ParentSteps

variable {env : Environment} {testCase : TestCase} {procNum : Int} {world after : World}
  {parent : ParentPoint} {children : Nat → Option ChildPoint} {reaped : List Nat} {op : Op}
  {next : Res op → ParentPoint} {result : Res op}

/-- A call of the parent that does not fork. -/
theorem Accounts.parent_step
    (accounts : Accounts env testCase procNum world parent children reaped)
    (isNode : parentNode testCase procNum parent = .call op next) (single : ∀ i, op ≠ .fork i)
    (performed : perform env procNum world .parent op result = some after) :
    ∃ grown, Accounts env testCase procNum after (next result) children grown ∧
      grown.map env.fork = reaped.map env.fork ++ (reportOf (.call .parent op result)).toList := by
  have fits := accounts.fits
  cases parent with
  | fork i =>
      cases isNode
      exact absurd rfl (single i)
  | getpid =>
      cases isNode
      obtain ⟨-, ⟨⟩⟩ := Option.ite_none_right_eq_some.mp performed
      obtain ⟨isValid, rfl⟩ := fits
      refine ⟨[], ?_, rfl⟩
      cases testCase with
      | waitid1 => exact accounts.stay ⟨isValid, rfl, rfl⟩ rfl rfl
      | waitid2 =>
          exact accounts.stay (accounts.fits_waitLoop isValid rfl rfl (Nat.zero_le _))
            (forks_waitLoop _ _ _) (waits_waitLoop _ _ _)
  | getpgid pid =>
      cases isNode
      obtain ⟨isGroup, ⟨⟩⟩ := Option.ite_none_right_eq_some.mp performed
      obtain ⟨isValid, rfl, rfl⟩ := fits
      have isIdtype : Idtype.Fits env .waitid1 (.pgid result) := congrArg Idtype.pgid isGroup
      exact ⟨[], accounts.stay (accounts.fits_waitLoop isValid isIdtype rfl (Nat.zero_le _))
        (forks_waitLoop _ _ _) (waits_waitLoop _ _ _), rfl⟩
  | called pid idtype i =>
      cases idtype with
      | pgid _ | all =>
          cases isNode
          cases performed
          exact ⟨reaped, accounts.stay fits rfl rfl, (List.append_nil _).symm⟩
  | waitid pid idtype i =>
      cases isNode
      exact accounts.scan_step fits rfl performed
  | asleep pid idtype i =>
      cases isNode
      obtain ⟨-, performed⟩ := Option.ite_none_right_eq_some.mp performed
      exact accounts.scan_step fits rfl performed
  | reaped pid idtype i info =>
      cases idtype with
      | pgid _ | all =>
          cases isNode
          cases performed
          exact ⟨reaped, accounts.stay fits rfl rfl, (List.append_nil _).symm⟩
  | report pid idtype i info =>
      cases isNode
      cases performed
      obtain ⟨isValid, isIdtype, inside, counted, missing⟩ := fits
      refine ⟨reaped, ?_, (List.append_nil _).symm⟩
      beta_reduce
      split
      · rename_i success
        exact accounts.stay (accounts.fits_waitLoop isValid isIdtype (counted success) inside)
          (forks_waitLoop _ _ _) (waits_waitLoop _ _ _)
      · rename_i failed
        have short := missing (not_not.mp failed)
        refine accounts.stay ⟨?_, by simp⟩ rfl rfl
        rw [verdict, if_pos isValid, if_neg (by omega)]
  | returned failure => cases isNode

end ParentSteps

/-- A state, seen as the points of the processes and the children that have been waited for. -/
structure Snapshot (env : Environment) (testCase : TestCase) (procNum : Int)
    (trace : List WaitidEvent) (config : WaitidConfig) (parent : ParentPoint)
    (children : Nat → Option ChildPoint) (reaped : List Nat) : Prop where
  isParent : config.point .parent = some parent
  isPoint : ∀ i, config.point (.child i) = children i
  accounts : Accounts env testCase procNum config.world parent children reaped
  isReports : reports trace = reaped.map env.fork

/-- What holds in every reachable state. -/
def Invariant (env : Environment) (testCase : TestCase) (procNum : Int)
    (trace : List WaitidEvent) (config : WaitidConfig) : Prop :=
  ∃ parent children reaped, Snapshot env testCase procNum trace config parent children reaped

section Steps

variable {env : Environment} {testCase : TestCase} {procNum : Int} {trace : List WaitidEvent}
  {config target : WaitidConfig} {parent : ParentPoint} {children : Nat → Option ChildPoint}
  {reaped : List Nat} {world : World} {op : Op} {result : Res op}

theorem spawn_eq_none (proc : Proc) (result : Res op) (single : ∀ i, op ≠ .fork i) :
    spawn testCase proc op result = none := by
  cases op with
  | fork i => exact absurd rfl (single i)
  | _ => rfl

/-- A process that forks nobody only moves itself. -/
theorem resume_of_single {proc : Proc} {reached : Point proc} (single : ∀ i, op ≠ .fork i) :
    (system env testCase procNum).resume config.point proc op result reached =
      Function.update config.point proc (some reached) :=
  Flow.System.resume_self (spawn_eq_none proc result single)

theorem single_of_childNode {i : Nat} {point : ChildPoint} {next : Res op → ChildPoint}
    (isNode : childNode procNum i point = .call op next) : ∀ num, op ≠ .fork num := by
  rintro num rfl
  cases point <;> cases isNode

/-- A child is where it was, or it has just been forked. -/
def Forked (testCase : TestCase) (before after : Option ChildPoint) : Prop :=
  after = before ∨ before = none ∧ after = some (childStart testCase)

theorem reports_append (event : WaitidEvent) :
    reports (trace ++ [event]) = reports trace ++ (reportOf event).toList := by
  cases reported : reportOf event <;> simp [reports, reported]

/-- A call of the parent moves no child, but it may fork one or wait for one. -/
theorem Snapshot.parent_step {next : Res op → ParentPoint}
    (snapshot : Snapshot env testCase procNum trace config parent children reaped)
    (isNode : parentNode testCase procNum parent = .call op next)
    (performed : perform env procNum config.world .parent op result = some world) :
    ∃ after grown, Snapshot env testCase procNum (trace ++ [.call .parent op result])
        ⟨world, (system env testCase procNum).resume config.point .parent op result (next result)⟩
        (next result) after grown ∧ ∀ i, Forked testCase (children i) (after i) := by
  obtain ⟨-, isPoint, accounts, isReports⟩ := snapshot
  by_cases forks : ∃ i, op = .fork i
  · obtain ⟨i, rfl⟩ := forks
    cases parent with
    | fork num =>
        cases isNode
        obtain ⟨unborn, forked⟩ := accounts.fork_step performed
        refine ⟨_, reaped, ⟨?_, ?_, forked, ?_⟩, ?_⟩
        · by_cases failed : result = -1 <;>
            simp [Flow.System.resume, system, spawn, failed]
        · intro other
          by_cases failed : result = -1
          · simp [Flow.System.resume, system, spawn, failed, isPoint]
          · by_cases same : other = i
            · subst same
              simp [Flow.System.resume, system, spawn, failed]
            · simp [Flow.System.resume, system, spawn, failed, same, isPoint]
        · rw [reports_append, isReports]
          exact List.append_nil _
        · intro other
          split
          · exact Or.inl rfl
          · by_cases same : other = i
            · subst same
              exact Or.inr ⟨unborn, Function.update_self _ _ _⟩
            · exact Or.inl (Function.update_of_ne same _ _)
    | called pid idtype num => cases idtype <;> cases isNode
    | reaped pid idtype num info => cases idtype <;> cases isNode
    | _ => cases isNode
  · have single := not_exists.mp forks
    obtain ⟨grown, kept, counted⟩ := accounts.parent_step isNode single performed
    refine ⟨children, grown, ⟨?_, fun i => ?_, kept, ?_⟩, fun i => Or.inl rfl⟩
    · simp [resume_of_single single]
    · simp [resume_of_single single, isPoint]
    · rw [reports_append, isReports, counted]

/-- A call of a child.  It may wake the parent, but it does not send it to sleep. -/
theorem Snapshot.child_step {i : Nat} {point : ChildPoint} {next : Res op → ChildPoint}
    (snapshot : Snapshot env testCase procNum trace config parent children reaped)
    (current : children i = some point) (isNode : childNode procNum i point = .call op next)
    (performed : perform env procNum config.world (.child i) op result = some world) :
    Snapshot env testCase procNum (trace ++ [.call (.child i) op result])
        ⟨world, (system env testCase procNum).resume config.point
            (.child i) op result (next result)⟩
        parent (Function.update children i (some (next result))) reaped ∧
      ∀ waiter, world.waiter = some waiter → waiter.woken = false →
        config.world.waiter = some waiter := by
  obtain ⟨isParent, isPoint, accounts, isReports⟩ := snapshot
  obtain ⟨child, isChild, ok⟩ := accounts.exists_child current
  obtain ⟨running, changed, isWorld, changedOk, waiters⟩ :=
    Waitid.child_step isChild ok isNode performed
  have single := single_of_childNode isNode
  have unreaped : changed.status ≠ .reaped := by
    rcases waiters with ⟨runs, -⟩ | ⟨exited, -⟩
    · simp [runs]
    · simp [exited]
  have asleep : world.waiter.map (·.idtype) = parent.waits := by
    rw [← accounts.asleep]
    rcases waiters with ⟨-, same⟩ | ⟨-, woken⟩
    · rw [same]
    · simp [woken, World.wake, Function.comp_def]
  have unwoken : ∀ waiter, world.waiter = some waiter → waiter.woken = false →
      config.world.waiter = some waiter ∧
        (changed.status = .exited → env.wakesAll = false ∧
          waiter.idtype.matches changed = false) := by
    intro waiter isWaiter sleeps
    rcases waiters with ⟨runs, same⟩ | ⟨exited, woken⟩
    · exact ⟨same ▸ isWaiter, fun exited => by simp [runs] at exited⟩
    · rw [woken] at isWaiter
      obtain ⟨before, isBefore, rfl⟩ := Option.map_eq_some_iff.mp isWaiter
      simp only [Bool.or_eq_false_iff, Option.any_some] at sleeps
      obtain ⟨idtype, beforeWoken⟩ := before
      refine ⟨?_, fun _ => ⟨sleeps.1.2, sleeps.2⟩⟩
      rw [isBefore]
      simp only [sleeps, Option.any_some, Bool.or_false]
  refine ⟨⟨?_, fun num => ?_, ⟨accounts.fits, fun num => ?_, fun num => ?_, accounts.nodup,
    accounts.stays, fun num => ?_, asleep, fun waiter isWaiter sleeps => ?_⟩, ?_⟩,
    fun waiter isWaiter sleeps => (unwoken waiter isWaiter sleeps).1⟩
  · simp [resume_of_single single, isParent]
  · by_cases same : num = i
    · subst same
      simp [resume_of_single single]
    · simp [resume_of_single single, same, isPoint]
  · rw [isWorld]
    by_cases same : num = i
    · subst same
      simpa using changedOk
    · simpa [same] using accounts.childOk num
  · rw [← accounts.forked num, isWorld]
    by_cases same : num = i
    · subst same
      simp [isChild]
    · simp [same]
  · rw [isWorld]
    by_cases same : num = i
    · subst same
      rw [accounts.isReaped, isChild]
      simp [running, unreaped]
    · rw [accounts.isReaped]
      simp [same]
  · obtain ⟨before, exits⟩ := unwoken waiter isWaiter sleeps
    obtain ⟨nobody, someone⟩ := accounts.undisturbed waiter before sleeps
    constructor
    · intro num other isOther exited
      rw [isWorld] at isOther
      by_cases same : num = i
      · subst same
        rw [Function.update_self] at isOther
        cases isOther
        exact (exits exited).2
      · rw [Function.update_of_ne same] at isOther
        exact nobody num other isOther exited
    · obtain ⟨num, other, isOther, waiting, runs⟩ := someone
      rw [isWorld]
      by_cases same : num = i
      · subst same
        refine ⟨num, changed, Function.update_self _ _ _, unreaped, fun all => ?_⟩
        rcases waiters with ⟨runs, -⟩ | ⟨exited, -⟩
        · exact runs
        · cases all.symm.trans (exits exited).1
      · exact ⟨num, other, (Function.update_of_ne same _ _).trans isOther, waiting, runs⟩
  · rw [reports_append, isReports]
    exact List.append_nil _

theorem Invariant.step {event : WaitidEvent}
    (invariant : Invariant env testCase procNum trace config)
    (stepped : (system env testCase procNum).step config event = some target) :
    Invariant env testCase procNum (trace ++ [event]) target := by
  cases event with
  | external cause => exact cause.elim
  | call proc op result =>
      obtain ⟨point, next, world, isPoint, isNode, performed, rfl⟩ :=
        (Flow.System.step_call_eq_some_iff _ _ _ _ _ _).mp stepped
      obtain ⟨parent, children, reaped, snapshot⟩ := invariant
      cases proc with
      | parent =>
          cases snapshot.isParent.symm.trans isPoint
          obtain ⟨after, grown, moved, -⟩ := snapshot.parent_step isNode performed
          exact ⟨next result, after, grown, moved⟩
      | child i =>
          have current := (snapshot.isPoint i).symm.trans isPoint
          exact ⟨parent, _, reaped, (snapshot.child_step current isNode performed).1⟩

theorem Invariant.initial (env : Environment) (testCase : TestCase) (procNum : Int) :
    Invariant env testCase procNum [] (start testCase procNum) := by
  have fits : (runFunc testCase procNum).Fits env testCase procNum [] := by
    unfold runFunc forkLoop
    split
    · rename_i isValid
      split
      · rename_i more
        exact ⟨isValid, rfl, more⟩
      · exact ⟨isValid, rfl⟩
    · rename_i invalid
      refine ⟨?_, by simp⟩
      rw [verdict, if_neg invalid]
  have forks : (runFunc testCase procNum).forks procNum = 0 := by
    unfold runFunc
    split
    · rename_i isValid
      apply forks_forkLoop
      cases testCase <;> simp [valid] at isValid <;> omega
    · rfl
  have waits : (runFunc testCase procNum).waits = none := by
    unfold runFunc
    split
    · exact waits_forkLoop 0
    · rfl
  refine ⟨runFunc testCase procNum, fun _ => none, [], rfl, fun _ => rfl, ⟨fits, fun i => .unborn,
    fun i => ?_, List.nodup_nil, by simp, fun i => by simp [start], waits.symm,
    fun _ isWaiter => by cases isWaiter⟩, rfl⟩
  rw [forks]
  simp [start]

theorem Invariant.of_run
    (run : Run (system env testCase procNum).step (start testCase procNum) trace config) :
    Invariant env testCase procNum trace config := by
  apply run.invariant (Invariant.initial env testCase procNum)
  exact fun _ _ _ _ invariant _ stepped => invariant.step stepped

end Steps

/-! ## What the test cases find out -/

section Results

variable {env : Environment} {testCase : TestCase} {procNum : Int} {trace : List WaitidEvent}
  {config : WaitidConfig}

/-- Whenever the children move and exit, a run function that has returned has returned the same
verdict.  It returns `NULL` only after `waitid` has reported as many different children as it has
been called, and all of them are children that stay in the group of the parent. -/
theorem returned_reports {failure : Option Failure}
    (run : Run (system env testCase procNum).step (start testCase procNum) trace config)
    (returned : config.point .parent = some (.returned failure)) :
    failure = verdict env testCase procNum ∧ (reports trace).Nodup ∧
      (∀ pid ∈ reports trace, ∃ i ∈ stayers env testCase procNum, pid = env.fork i) ∧
      (failure = none → (reports trace).length = rounds testCase procNum) := by
  obtain ⟨parent, children, reaped, isParent, -, accounts, isReports⟩ := Invariant.of_run run
  cases isParent.symm.trans returned
  obtain ⟨isVerdict, length⟩ := accounts.fits
  rw [isReports]
  refine ⟨isVerdict, ?_, ?_, fun success => by rw [List.length_map, length success]⟩
  · refine List.Nodup.map_on (fun i member j _ same => ?_) accounts.nodup
    have forked := ((mem_stayers env testCase procNum).mp (accounts.stays i member)).2.1
    exact (env.fork_injective i j forked same.symm).symm
  · intro pid member
    obtain ⟨i, reapedMember, rfl⟩ := List.mem_map.mp member
    exact ⟨i, accounts.stays i reapedMember, rfl⟩

/-- Two children, of which the second has the given id. -/
def twoChildren (second : Int) : Environment where
  parentPid := 5
  parentGroup := 5
  fork := fun i => if i = 0 then 10 else if i = 1 ∧ second = 11 then 11 else -1
  setpgid := fun _ => 0
  wakesAll := false
  fork_ne_parentGroup := by
    intro i
    split_ifs <;> decide
  fork_injective := by
    intro i j
    split_ifs <;> simp_all

/-- The parent goes to sleep.  The first child moves to a group of its own and exits, but only
the exit of the second child wakes the parent. -/
def wokenBySecond : List WaitidEvent :=
  [.call .parent (.fork 0) (10 : Int), .call .parent (.fork 1) (11 : Int),
    .call .parent .getpid (5 : Int), .call .parent (.getpgid 5) (5 : Int),
    .call .parent (calledLine 5 (.pgid 5)) (),
    .call (.child 1) .getpid (11 : Int), .call (.child 1) (.getpgid 11) (5 : Int),
    .call .parent (.waitid (.pgid 5)) (none : Option Info),
    .call (.child 0) .getpid (10 : Int), .call (.child 0) (.setpgid 10 10) (0 : Int),
    .call (.child 0) (.printf "[child:%5d] setpgid(%d, %d) = %d\n" [10, 10, 10, 0]) (),
    .call (.child 0) (.getpgid 10) (10 : Int), .call (.child 0) (.sleep 3) (),
    .call (.child 0) (.printf "[child:%5d, %5d] sleep %dsec done.\n" [10, 10, 3]) (),
    .call (.child 0) (.exit 0) (), .call (.child 1) (.sleep 4) (),
    .call (.child 1) (.printf "[child:%5d, %5d] sleep %dsec done.\n" [11, 5, 4]) (),
    .call (.child 1) (.exit 0) (),
    .call .parent (.rescan (.pgid 5)) (some ⟨0, 11, 0⟩ : Option Info),
    .call .parent (reapedLine 5 ⟨0, 11, 0⟩ (.pgid 5)) (),
    .call .parent (.printf "[parent:%5d] waitid()=%d, errno=%d\n" [5, 0, 0]) ()]

theorem returned_reports_two :
    ∃ config, Run (system (twoChildren 11) .waitid1 2).step (start .waitid1 2) wokenBySecond
      config ∧ none = verdict (twoChildren 11) .waitid1 2 ∧ (reports wokenBySecond).length = 1 := by
  obtain ⟨config, run, returned⟩ : ∃ config, Run (system (twoChildren 11) .waitid1 2).step
      (start .waitid1 2) wokenBySecond config ∧
      config.point .parent = some (.returned none) := ⟨_, GuardedRun.of_execute rfl, rfl⟩
  obtain ⟨isVerdict, -, -, length⟩ := returned_reports run returned
  exact ⟨config, run, isVerdict, length rfl⟩

end Results

end McKernelTest.Waitid
