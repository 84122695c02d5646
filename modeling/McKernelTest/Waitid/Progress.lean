import McKernelTest.Flow.Rank
import McKernelTest.Transition.Progress
import McKernelTest.Waitid.Runs

/-!
# How `waitid#1` and `waitid#2` end

No child ever has to wait for anybody, so all of them can exit; then `waitid` finds one of
them, or there is none to wait for.

There is one way in which `waitid#1` does not end.  If too few children stay, the parent may go
to sleep while the only child left in its group is one that is about to leave it.  When that
child has left, nobody is there whose exit would wake the parent.
-/

namespace McKernelTest.Waitid

open Process Transition

section Ranks

variable (testCase : TestCase) (procNum : Int)

/-- How many calls the parent is away from its return. -/
def ParentPoint.rank : ParentPoint → Nat
  | .fork i => (procNum.toNat - i) + 5 * rounds testCase procNum + 3
  | .getpid => 5 * rounds testCase procNum + 2
  | .getpgid _ => 5 * rounds testCase procNum + 1
  | .called _ _ i => 5 * (rounds testCase procNum - i)
  | .waitid _ _ i => 5 * (rounds testCase procNum - i) - 1
  | .asleep _ _ i => 5 * (rounds testCase procNum - i) - 2
  | .reaped _ _ i _ => 5 * (rounds testCase procNum - i) - 3
  | .report _ _ i _ => 5 * (rounds testCase procNum - i) - 4
  | .returned _ => 0

/-- How many calls a child is away from its exit. -/
def ChildPoint.rank : ChildPoint → Nat
  | .getpid => 7
  | .setpgid _ => 6
  | .printSetpgid _ _ => 5
  | .getpgid _ | .sleepFirst => 4
  | .sleep _ _ | .getpidLast => 3
  | .print _ _ | .printPid _ => 2
  | .exit => 1
  | .exited => 0

/-- What the parent and the children have still to do. -/
def totalRank (parent : ParentPoint) (children : Nat → Option ChildPoint) : Nat :=
  parent.rank testCase procNum +
    Flow.familyRank (childStart testCase).rank ChildPoint.rank procNum.toNat children

theorem waitLoop_rank (pid : Int) (idtype : Idtype) (i : Nat) :
    (waitLoop testCase procNum pid idtype i).rank testCase procNum ≤
      5 * (rounds testCase procNum - i) := by
  unfold waitLoop
  split
  · exact Nat.le_refl _
  · exact Nat.zero_le _

end Ranks

section Calls

variable {env : Environment} {testCase : TestCase} {procNum : Int} {world : World}
  {parent : ParentPoint} {children : Nat → Option ChildPoint} {reaped : List Nat}

/-- A child makes its next call. -/
theorem exists_child_call (env : Environment) (procNum : Int) {i : Nat} {child : Child}
    {point : ChildPoint}
    (current : world.children i = some child) (running : point ≠ .exited) :
    ∃ op next result after, childNode procNum i point = .call op next ∧
      perform env procNum world (.child i) op result = some after ∧
      (next result).rank < point.rank := by
  cases point with
  | getpid =>
      refine ⟨.getpid, _, env.fork i, _, rfl, if_pos rfl, ?_⟩
      split <;> simp [ChildPoint.rank]
  | setpgid pid =>
      exact ⟨.setpgid pid pid, _, env.setpgid i, _, rfl, if_pos rfl, Nat.lt_succ_self _⟩
  | getpgid pid =>
      refine ⟨.getpgid pid, _, child.group, _, rfl, if_pos ?_, Nat.lt_succ_self _⟩
      simp [current]
  | getpidLast => exact ⟨.getpid, _, env.fork i, _, rfl, if_pos rfl, Nat.lt_succ_self _⟩
  | exited => exact absurd rfl running
  | _ => exact ⟨_, _, (), _, rfl, rfl, Nat.lt_succ_self _⟩

/-- A child that has exited can be reported. -/
theorem exists_scan_exited (env : Environment) {idtype : Idtype} {i : Nat} {child : Child}
    (inside : i < procNum.toNat) (current : world.children i = some child)
    (exited : child.status = .exited)
    (isMatch : idtype.matches child = true) :
    ∃ after, world.scan env procNum.toNat idtype (some ⟨0, env.fork i, 0⟩) = some after := by
  have isFound : (world.findExited env procNum.toNat idtype (env.fork i)).isSome = true := by
    refine List.find?_isSome.mpr ⟨i, List.mem_range.mpr inside, ?_⟩
    simp [current, exited, isMatch]
  obtain ⟨num, isNum⟩ := Option.isSome_iff_exists.mp isFound
  exact ⟨{ world.modify num ({ · with status := .reaped }) with waiter := none },
    by simp [World.scan, isNum]⟩

/-- A look at the children has a result when every child has exited. -/
theorem exists_scan (env : Environment) (procNum : Int) (idtype : Idtype)
    (exited : ∀ i child, world.children i = some child → child.status ≠ .running) :
    ∃ info after, world.scan env procNum.toNat idtype (some info) = some after := by
  cases found : world.hasChild procNum.toNat idtype with
  | false => exact ⟨⟨-1, 0, echild⟩, { world with waiter := none }, by simp [World.scan, found]⟩
  | true =>
      simp only [World.hasChild, List.any_eq_true, Option.any_eq_true, Bool.and_eq_true,
        decide_eq_true_eq] at found
      obtain ⟨i, inside, child, current, unreaped, isMatch⟩ := found
      have isExited : child.status = .exited := by
        cases status : child.status with
        | running => exact absurd status (exited i child current)
        | exited => rfl
        | reaped => exact absurd status unreaped
      obtain ⟨after, performed⟩ :=
        exists_scan_exited env (List.mem_range.mp inside) current isExited isMatch
      exact ⟨_, after, performed⟩

/-- Every `waitid` so far has reported a child. -/
def ParentPoint.Succeeding : ParentPoint → Prop
  | .reaped _ _ _ info | .report _ _ _ info => info.result ≠ -1
  | .asleep _ _ _ | .returned _ => False
  | _ => True

theorem succeeding_waitLoop {pid : Int} {idtype : Idtype} {i : Nat}
    (more : i < rounds testCase procNum) :
    (waitLoop testCase procNum pid idtype i).Succeeding := by
  rw [waitLoop, if_pos more]
  trivial

/-- The parent makes its next call when it is not waiting.  It goes on to wait as long as it
has not waited for all children that stay, or has to wait for more. -/
theorem Accounts.exists_parent_call
    (accounts : Accounts env testCase procNum world parent children reaped)
    (unfinished : ∀ failure, parent ≠ .returned failure)
    (called : ∀ pid idtype i, parent ≠ .waitid pid idtype i)
    (awake : ∀ pid idtype i, parent ≠ .asleep pid idtype i) :
    ∃ op next result after, parentNode testCase procNum parent = .call op next ∧
      perform env procNum world .parent op result = some after ∧
      (next result).rank testCase procNum < parent.rank testCase procNum ∧
      (next result).waits = none ∧
      ((stayers env testCase procNum).length < rounds testCase procNum → parent.Succeeding →
        (next result).Succeeding) := by
  have fits := accounts.fits
  cases parent with
  | fork i =>
      refine ⟨.fork i, _, env.fork i, _, rfl, if_pos rfl, ?_, waits_forkLoop _, ?_⟩
      · have inside := fits.2.2
        unfold forkLoop
        split
        · simp only [ParentPoint.rank]
          omega
        · simp only [ParentPoint.rank]
          omega
      · intro _ _
        unfold forkLoop
        split <;> trivial
  | getpid =>
      refine ⟨.getpid, _, env.parentPid, _, rfl, if_pos rfl, ?_⟩
      cases testCase with
      | waitid1 => exact ⟨Nat.lt_succ_self _, rfl, fun _ _ => trivial⟩
      | waitid2 =>
          refine ⟨?_, waits_waitLoop _ _ _, fun short _ => succeeding_waitLoop (by omega)⟩
          apply Nat.lt_of_le_of_lt (waitLoop_rank _ _ _ _ _)
          simp only [ParentPoint.rank]
          omega
  | getpgid pid =>
      refine ⟨.getpgid pid, _, env.parentGroup, _, rfl, if_pos rfl, ?_, waits_waitLoop _ _ _,
        fun short _ => succeeding_waitLoop (by omega)⟩
      exact Nat.lt_succ_of_le (waitLoop_rank _ _ _ _ _)
  | called pid idtype i =>
      have inside := fits.2.2.2
      cases idtype with
      | pgid pgid =>
          refine ⟨_, _, (), _, rfl, rfl, ?_, rfl, fun _ _ => trivial⟩
          simp only [ParentPoint.rank]
          omega
      | all =>
          refine ⟨_, _, (), _, rfl, rfl, ?_, rfl, fun _ _ => trivial⟩
          simp only [ParentPoint.rank]
          omega
  | waitid pid idtype i => exact absurd rfl (called pid idtype i)
  | asleep pid idtype i => exact absurd rfl (awake pid idtype i)
  | reaped pid idtype i info =>
      have inside := fits.2.2.1
      cases idtype with
      | pgid pgid =>
          refine ⟨_, _, (), _, rfl, rfl, ?_, rfl, fun _ succeeding => succeeding⟩
          simp only [ParentPoint.rank]
          omega
      | all =>
          refine ⟨_, _, (), _, rfl, rfl, ?_, rfl, fun _ succeeding => succeeding⟩
          simp only [ParentPoint.rank]
          omega
  | report pid idtype i info =>
      have inside := fits.2.2.1
      refine ⟨_, _, (), _, rfl, rfl, ?_, ?_, fun short succeeding => ?_⟩
      · have rest := waitLoop_rank testCase procNum pid idtype (i + 1)
        split
        · simp only [ParentPoint.rank] at rest ⊢
          omega
        · simp only [ParentPoint.rank]
          omega
      · split
        · exact waits_waitLoop _ _ _
        · rfl
      · have counted := fits.2.2.2.1 succeeding
        have below := accounts.length_reaped_le
        have success : info.result ≠ -1 := succeeding
        rw [if_pos success]
        exact succeeding_waitLoop (by omega)
  | returned failure => exact absurd rfl (unfinished failure)

end Calls

section Descent

variable {env : Environment} {testCase : TestCase} {procNum : Int} {trace : List WaitidEvent}
  {config : WaitidConfig} {parent : ParentPoint} {children : Nat → Option ChildPoint}
  {reaped : List Nat}

theorem ParentPoint.forks_le (fits : parent.Fits env testCase procNum reaped) :
    parent.forks procNum ≤ procNum.toNat := by
  cases parent with
  | fork i =>
      have inside := fits.2.2
      simp only [ParentPoint.forks]
      omega
  | returned failure =>
      cases failure with
      | none => exact Nat.le_refl _
      | some failure =>
          cases failure with
          | procNum => exact Nat.zero_le _
          | waitid => exact Nat.le_refl _
  | _ => exact Nat.le_refl _

/-- A child that has not exited brings the return nearer with its next call. -/
theorem Snapshot.child_descends {i : Nat} {child : Child} {point : ChildPoint}
    (snapshot : Snapshot env testCase procNum trace config parent children reaped)
    (isChild : config.world.children i = some child) (current : children i = some point)
    (running : point ≠ .exited) :
    ∃ event target next,
      (system env testCase procNum).step config event = some target ∧
      Snapshot env testCase procNum (trace ++ [event]) target parent
        (Function.update children i (some next)) reaped ∧
      (∀ waiter, target.world.waiter = some waiter → waiter.woken = false →
        config.world.waiter = some waiter) ∧
      totalRank testCase procNum parent (Function.update children i (some next)) <
        totalRank testCase procNum parent children := by
  obtain ⟨op, next, result, world, isNode, performed, lower⟩ :=
    exists_child_call env procNum isChild running
  have born := (snapshot.accounts.forked i).mp (by rw [isChild]; rfl)
  have inside := Nat.lt_of_lt_of_le born.1 (ParentPoint.forks_le snapshot.accounts.fits)
  obtain ⟨moved, waiters⟩ := snapshot.child_step current isNode performed
  refine ⟨.call (.child i) op result, _, next result,
    Flow.System.step_call (Proc.child i) op result ((snapshot.isPoint i).trans current) isNode
      performed, moved, waiters, ?_⟩
  exact Nat.add_lt_add_left (Flow.familyRank_update_lt inside current lower) _

/-- A call of the parent that brings its return nearer does so for the whole system. -/
theorem Snapshot.parent_descends {op : Op} {next : Res op → ParentPoint} {result : Res op}
    {world : World}
    (snapshot : Snapshot env testCase procNum trace config parent children reaped)
    (isNode : parentNode testCase procNum parent = .call op next)
    (performed : perform env procNum config.world .parent op result = some world)
    (lower : (next result).rank testCase procNum < parent.rank testCase procNum) :
    ∃ event target after grown,
      (system env testCase procNum).step config event = some target ∧ target.world = world ∧
      Snapshot env testCase procNum (trace ++ [event]) target (next result) after grown ∧
      (∀ i, Forked testCase (children i) (after i)) ∧
      totalRank testCase procNum (next result) after <
        totalRank testCase procNum parent children := by
  obtain ⟨after, grown, moved, started⟩ := snapshot.parent_step isNode performed
  refine ⟨.call .parent op result, _, after, grown,
    Flow.System.step_call Proc.parent op result snapshot.isParent isNode performed, rfl, moved,
    started, ?_⟩
  have same : ∀ i, (after i).elim (childStart testCase).rank ChildPoint.rank =
      (children i).elim (childStart testCase).rank ChildPoint.rank := by
    intro i
    rcases started i with kept | ⟨unborn, isStart⟩
    · rw [kept]
    · rw [unborn, isStart]
      rfl
  rw [totalRank, totalRank, Flow.familyRank_congr same]
  exact Nat.add_lt_add_right lower _

/-- A child that is not at its end has not exited, and the other way round. -/
theorem Accounts.running_iff {i : Nat} {child : Child}
    (accounts : Accounts env testCase procNum config.world parent children reaped)
    (isChild : config.world.children i = some child) :
    ∃ point, children i = some point ∧ (child.status = .running ↔ point ≠ .exited) := by
  have ok := accounts.childOk i
  rw [isChild] at ok
  generalize current : children i = point at ok
  cases ok with
  | born forked fits group running => exact ⟨_, rfl, running⟩

end Descent

/-! ## The parent that sleeps for ever -/

/-- The parent is asleep, nobody has woken it, and it has waited for all children whose exit
would wake it. -/
def Stuck (env : Environment) (testCase : TestCase) (procNum : Int) (world : World) : Prop :=
  (∃ waiter, world.waiter = some waiter ∧ waiter.woken = false) ∧ env.wakesAll = false ∧
    ∀ i ∈ stayers env testCase procNum, (world.children i).any (·.status = .reaped) = true

section Stuck

variable {env : Environment} {testCase : TestCase} {procNum : Int} {trace : List WaitidEvent}
  {config target : WaitidConfig} {parent : ParentPoint} {children : Nat → Option ChildPoint}
  {reaped : List Nat}

/-- A parent that sleeps is inside `waitid`. -/
theorem Accounts.exists_asleep {world : World} {waiter : Waiter}
    (accounts : Accounts env testCase procNum world parent children reaped)
    (isWaiter : world.waiter = some waiter) :
    ∃ pid i, parent = .asleep pid waiter.idtype i := by
  have asleep := accounts.asleep
  rw [isWaiter] at asleep
  cases parent with
  | asleep pid idtype i =>
      cases asleep
      exact ⟨pid, i, rfl⟩
  | _ => cases asleep

/-- A child that has not been waited for leaves the group, if all that stay have been. -/
theorem Accounts.leaves_of_unreaped {world : World} {i : Nat} {child : Child}
    (accounts : Accounts env testCase procNum world parent children reaped)
    (all : ∀ i ∈ stayers env testCase procNum,
      (world.children i).any (·.status = .reaped) = true)
    (current : world.children i = some child) (unreaped : child.status ≠ .reaped) :
    i < procNum.toNat ∧ env.fork i ≠ -1 ∧ leaves env testCase procNum i = true := by
  have born := (accounts.forked i).mp (by rw [current]; rfl)
  have inside := Nat.lt_of_lt_of_le born.1 (ParentPoint.forks_le accounts.fits)
  refine ⟨inside, born.2, ?_⟩
  by_contra stays
  have waited := all i ((mem_stayers env testCase procNum).mpr
    ⟨inside, born.2, Bool.not_eq_true _ ▸ stays⟩)
  simp [current, unreaped] at waited

/-- Nobody wakes a parent that sleeps for ever. -/
theorem Stuck.step {event : WaitidEvent}
    (stuck : Stuck env testCase procNum config.world)
    (invariant : Invariant env testCase procNum trace config)
    (stepped : (system env testCase procNum).step config event = some target) :
    Stuck env testCase procNum target.world := by
  obtain ⟨⟨waiter, isWaiter, sleeps⟩, picky, all⟩ := stuck
  obtain ⟨parent, children, reaped, snapshot⟩ := invariant
  have accounts := snapshot.accounts
  obtain ⟨pid, round, rfl⟩ := accounts.exists_asleep isWaiter
  cases event with
  | external cause => exact cause.elim
  | call proc op result =>
      obtain ⟨point, next, world, isPoint, isNode, performed, rfl⟩ :=
        (Flow.System.step_call_eq_some_iff _ _ _ _ _ _).mp stepped
      cases proc with
      | parent =>
          cases snapshot.isParent.symm.trans isPoint
          cases isNode
          obtain ⟨woken, -⟩ := Option.ite_none_right_eq_some.mp performed
          simp [isWaiter, sleeps] at woken
      | child i =>
          have current := (snapshot.isPoint i).symm.trans isPoint
          obtain ⟨child, isChild, ok⟩ := accounts.exists_child current
          obtain ⟨running, changed, isWorld, changedOk, waiters⟩ :=
            Waitid.child_step isChild ok isNode performed
          obtain ⟨inside, forked, moves⟩ :=
            accounts.leaves_of_unreaped all isChild (by simp [running])
          refine ⟨?_, picky, fun num stays => ?_⟩
          · rcases waiters with ⟨-, same⟩ | ⟨exited, woken⟩
            · exact ⟨waiter, same.trans isWaiter, sleeps⟩
            · have isTest : testCase = .waitid1 := by
                simp only [leaves, Bool.and_eq_true, decide_eq_true_eq] at moves
                exact moves.1.1
              have group := changedOk.group_of_exited (by simp [exited])
              rw [if_pos moves] at group
              have foreign : waiter.idtype.matches changed = false := by
                rw [← Bool.not_eq_true, Idtype.matches_iff accounts.fits.2.1]
                intro same
                exact env.fork_ne_parentGroup i forked (group.symm.trans (same isTest))
              refine ⟨waiter, ?_, sleeps⟩
              rw [woken, World.wake, isWaiter]
              simp [picky, foreign]
          · rw [isWorld]
            have other : num ≠ i := by
              rintro rfl
              exact Bool.false_ne_true
                (((mem_stayers env testCase procNum).mp stays).2.2.symm.trans moves)
            rw [Function.update_of_ne other]
            exact all num stays

end Stuck

/-! ## From every state -/

section Return

variable {env : Environment} {testCase : TestCase} {procNum : Int} {trace : List WaitidEvent}
  {config : WaitidConfig} {parent : ParentPoint} {children : Nat → Option ChildPoint}
  {reaped : List Nat}

/-- A parent that sleeps while every child has exited has been woken, or it sleeps for ever. -/
theorem Accounts.woken_of_exited {waiter : Waiter}
    (accounts : Accounts env testCase procNum config.world parent children reaped)
    (free : ¬Stuck env testCase procNum config.world)
    (exited : ∀ i child, config.world.children i = some child → child.status ≠ .running)
    (isWaiter : config.world.waiter = some waiter) : waiter.woken = true := by
  by_contra unwoken
  have sleeps : waiter.woken = false := Bool.not_eq_true _ ▸ unwoken
  obtain ⟨nobody, num, child, isChild, -, runs⟩ := accounts.undisturbed waiter isWaiter sleeps
  obtain ⟨pid, i, rfl⟩ := accounts.exists_asleep isWaiter
  refine free ⟨⟨waiter, isWaiter, sleeps⟩, ?_, fun j stays => ?_⟩
  · by_contra all
    exact exited num child isChild (runs (Bool.not_eq_false _ ▸ all))
  · rw [← accounts.isReaped]
    by_contra unreaped
    obtain ⟨-, child, current, waiting, isMatch⟩ :=
      accounts.exists_of_unreaped accounts.fits.2.1 rfl stays unreaped
    cases status : child.status with
    | running => exact exited j child current status
    | exited => exact Bool.false_ne_true ((nobody j child current status).symm.trans isMatch)
    | reaped => exact waiting status

/-- The parent makes its next call when every child has exited, if it does not sleep for
ever. -/
theorem Accounts.exists_call_of_exited
    (accounts : Accounts env testCase procNum config.world parent children reaped)
    (unfinished : ∀ failure, parent ≠ .returned failure)
    (free : ¬Stuck env testCase procNum config.world)
    (exited : ∀ i child, config.world.children i = some child → child.status ≠ .running) :
    ∃ op next result after, parentNode testCase procNum parent = .call op next ∧
      perform env procNum config.world .parent op result = some after ∧
      (next result).rank testCase procNum < parent.rank testCase procNum ∧
      (next result).waits = none := by
  have fits := accounts.fits
  have asleep := accounts.asleep
  cases parent with
  | waitid pid idtype i =>
      have inside := fits.2.2.2
      obtain ⟨info, after, performed⟩ := exists_scan env procNum idtype exited
      refine ⟨.waitid idtype, _, some info, after, rfl, performed, ?_, rfl⟩
      simp only [scanned, ParentPoint.rank]
      omega
  | asleep pid idtype i =>
      have inside := fits.2.2.2
      obtain ⟨waiter, isWaiter, -⟩ := Option.map_eq_some_iff.mp asleep
      have woken := accounts.woken_of_exited free exited isWaiter
      obtain ⟨info, after, performed⟩ := exists_scan env procNum idtype exited
      refine ⟨.rescan idtype, _, some info, after, rfl, ?_, ?_, rfl⟩
      · simp [perform, isWaiter, woken, performed]
      · simp only [scanned, ParentPoint.rank]
        omega
  | _ =>
      obtain ⟨op, next, result, after, isNode, performed, lower, waits, -⟩ :=
        accounts.exists_parent_call unfinished (by simp) (by simp)
      exact ⟨op, next, result, after, isNode, performed, lower, waits⟩

/-- Before the run function has returned, some step brings its return nearer, if the parent
does not sleep for ever. -/
theorem Snapshot.descends
    (snapshot : Snapshot env testCase procNum trace config parent children reaped)
    (unfinished : ∀ failure, parent ≠ .returned failure)
    (free : ¬Stuck env testCase procNum config.world) :
    ∃ event target next after grown,
      (system env testCase procNum).step config event = some target ∧
      Snapshot env testCase procNum (trace ++ [event]) target next after grown ∧
      ¬Stuck env testCase procNum target.world ∧
      totalRank testCase procNum next after < totalRank testCase procNum parent children := by
  have accounts := snapshot.accounts
  by_cases able : ∃ i child, config.world.children i = some child ∧ child.status = .running
  · -- The children go first, those that leave as well.
    obtain ⟨i, child, isChild, runs⟩ := able
    obtain ⟨point, current, running⟩ := accounts.running_iff isChild
    obtain ⟨event, target, next, stepped, moved, waiters, lower⟩ :=
      snapshot.child_descends isChild current (running.mp runs)
    refine ⟨event, target, parent, _, reaped, stepped, moved, fun stuck => free ?_, lower⟩
    obtain ⟨⟨waiter, isWaiter, sleeps⟩, picky, all⟩ := stuck
    refine ⟨⟨waiter, waiters waiter isWaiter sleeps, sleeps⟩, picky, fun num stays => ?_⟩
    rw [← accounts.isReaped, moved.accounts.isReaped]
    exact all num stays
  · have exited : ∀ i child, config.world.children i = some child → child.status ≠ .running :=
      fun i child isChild runs => able ⟨i, child, isChild, runs⟩
    obtain ⟨op, next, result, world, isNode, performed, lower, waits⟩ :=
      accounts.exists_call_of_exited unfinished free exited
    obtain ⟨event, target, after, grown, stepped, -, moved, -, less⟩ :=
      snapshot.parent_descends isNode performed lower
    refine ⟨event, target, next result, after, grown, stepped, moved, fun stuck => ?_, less⟩
    obtain ⟨⟨waiter, isWaiter, -⟩, -⟩ := stuck
    have asleep := moved.accounts.asleep
    rw [waits, isWaiter] at asleep
    cases asleep

end Return

section Reach

variable {env : Environment} {procNum : Int} {trace : List WaitidEvent}
  {config : WaitidConfig} {parent : ParentPoint} {children : Nat → Option ChildPoint}
  {reaped : List Nat}

/-- The children that will leave have not done anything. -/
def Waiting (env : Environment) (procNum : Int) (children : Nat → Option ChildPoint) : Prop :=
  ∀ i, leaves env .waitid1 procNum i = true → ∀ point, children i = some point → point = .getpid

/-- The parent is about to look at its children, all that stay have been waited for, and those
that leave have not done anything. -/
def Ready (env : Environment) (procNum : Int) (config : WaitidConfig) : Prop :=
  ∃ trace pid idtype i children reaped,
    Snapshot env .waitid1 procNum trace config (.waitid pid idtype i) children reaped ∧
      Waiting env procNum children ∧ ∀ num ∈ stayers env .waitid1 procNum, num ∈ reaped

end Reach

end McKernelTest.Waitid
