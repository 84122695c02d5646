import McKernelTest.SchedSetaffinity.WakeupRuns
import McKernelTest.Transition.Progress

/-!
# How `sched_setaffinity#10` ends

The run function can always go on to its verdict.  Afterwards the children can end, unless
the set could not be allocated or `sched_setaffinity` failed: then nobody sends them the
signal that they wait for, since the group that the parent sends it to does not exist.
-/

namespace McKernelTest.SchedSetaffinity.Wakeup

open Posix Process Transition

/-- How many calls the parent is away from its return, if it does not have to wait. -/
def ParentPoint.rank : ParentPoint → Nat
  | .sigaction => 20
  | .pipe => 19
  | .fork1 => 18
  | .read _ => 17
  | .closeRead _ _ => 16
  | .closeWrite _ _ => 15
  | .fork2 _ _ => 14
  | .setpgid1 _ => 13
  | .setpgid2 _ => 12
  | .cpuAlloc _ => 11
  | .pause _ => 10
  | .loadCount _ => 9
  | .clearCount _ => 8
  | .setaffinity _ => 7
  | .cpuFree _ _ => 6
  | .wake2 _ _ => 5
  | .wake1 _ _ => 4
  | .wait1 _ _ => 3
  | .wait2 _ _ | .kill1 _ _ => 2
  | .print _ | .kill2 _ _ | .killGroup _ | .release _ => 1
  | .returned _ => 0

/-- How many calls a child is away from its end, if its counter is set. -/
def ChildPoint.rank : ChildPoint → Nat
  | .getpid => 18
  | .sigaction _ => 17
  | .writeRegisters _ => 16
  | .cpuBefore _ => 15
  | .printBefore _ _ => 14
  | .floatsBefore _ => 13
  | .showBefore _ => 12
  | .prepare _ => 11
  | .notify _ _ => 10
  | .pause _ => 9
  | .loadCount _ => 8
  | .cpuAfter _ => 7
  | .printAfter _ _ => 6
  | .floatsAfter _ => 5
  | .showAfter => 4
  | .closeRead => 3
  | .closeWrite => 2
  | .exit => 1
  | .exited => 0

/-- What a child has still to do, with its pending signals; a child that has ended has nothing
left. -/
def procRank (state : ProcState) (child : Option ChildPoint) : Nat :=
  if state.ended.isSome then 0
  else 8 * (child.elim 18 ChildPoint.rank + 1) + (state.pending .usr1).toNat +
    (state.pending .kill).toNat

/-- What the children have still to do. -/
def childrenRank (world : World) (children : ChildId → Option ChildPoint) : Nat :=
  procRank (world.procs (.child .first)) (children .first) +
    procRank (world.procs (.child .second)) (children .second)

/-- What all processes have still to do.  A call counts more than the signals it may send. -/
def totalRank (world : World) (parent : ParentPoint) (children : ChildId → Option ChildPoint) :
    Nat :=
  8 * parent.rank + ((world.procs .parent).pending .usr2).toNat + childrenRank world children

/-- The other child. -/
def ChildId.other : ChildId → ChildId
  | .first => .second
  | .second => .first

theorem ChildId.other_ne (id : ChildId) : id.other ≠ id := by
  cases id <;> decide

theorem childrenRank_eq (world : World) (children : ChildId → Option ChildPoint) (id : ChildId) :
    childrenRank world children = procRank (world.procs (.child id)) (children id) +
      procRank (world.procs (.child id.other)) (children id.other) := by
  cases id with
  | first => rfl
  | second => exact Nat.add_comm _ _

section Ranks

variable {state after : ProcState} {child next : Option ChildPoint}

/-- The signals that a process has got do not outweigh a call. -/
theorem procRank_le (state after : ProcState) (ended : after.ended.isSome = state.ended.isSome)
    (same : next.elim 18 ChildPoint.rank = child.elim 18 ChildPoint.rank) :
    procRank after next ≤ procRank state child + 2 := by
  unfold procRank
  rw [ended, same]
  have usr1 := Bool.toNat_le (after.pending .usr1)
  have kill := Bool.toNat_le (after.pending .kill)
  split
  · omega
  · omega

/-- A call of a process. -/
theorem procRank_call (after : ProcState) {point reached : ChildPoint}
    (alive : state.ended = none) (lower : reached.rank < point.rank) :
    procRank after (some reached) + 6 ≤ procRank state (some point) := by
  unfold procRank
  rw [alive, Option.elim_some, Option.elim_some]
  have usr1 := Bool.toNat_le (after.pending .usr1)
  have kill := Bool.toNat_le (after.pending .kill)
  simp only [Option.isSome_none, Bool.false_eq_true, if_false]
  split
  · omega
  · omega

theorem handle_pending (state : ProcState) (signal : Signal) :
    (state.handle signal).pending = Function.update state.pending signal false := by
  unfold ProcState.handle
  split <;> rfl

/-- A signal that arrives. -/
theorem procRank_handle {signal : Signal} (alive : state.ended = none)
    (pending : state.pending signal = true) (noted : signal ≠ .usr2) :
    procRank (state.handle signal) child < procRank state child := by
  unfold procRank
  rw [alive]
  simp only [Option.isSome_none, Bool.false_eq_true, if_false]
  split
  · omega
  · rw [handle_pending]
    cases signal with
    | usr1 => simp [pending]
    | usr2 => exact absurd rfl noted
    | kill => simp [pending]

end Ranks

section Calls

variable {env : Environment} {numOfCpus : Int} {world : World}

/-- A child makes its next call unless it waits in its loop. -/
theorem exists_child_call (env : Environment) (world : World) (child : Child) (proc : Proc)
    {point : ChildPoint} (last : child.last = .closeRead ∨ child.last = .exit)
    (running : point ≠ .exited)
    (counted : ∀ curPid, point = .loadCount curPid → (world.procs proc).counts child.handler ≠ 0) :
    ∃ op next result after, childNode child point = .call op next ∧
      performRunning env world proc op result = some after ∧ (next result).rank < point.rank := by
  cases point with
  | getpid => exact ⟨.getpid, _, env.pidOf proc, _, rfl, if_pos rfl, Nat.lt_succ_self _⟩
  | loadCount curPid =>
      refine ⟨.loadCount child.handler, _, (world.procs proc).counts child.handler, _, rfl,
        if_pos rfl, ?_⟩
      rw [if_neg (counted curPid rfl)]
      exact Nat.lt_succ_self _
  | prepare curPid =>
      cases notification : child.notification with
      | cpu =>
          refine ⟨.getCpuId, fun curCpu => .notify curPid curCpu, (0 : Int), world, ?_, rfl,
            Nat.lt_succ_self _⟩
          rw [childNode, notification]
      | wakeup =>
          refine ⟨.getppid, fun ppid => .notify curPid ppid, env.parentPid, world, ?_, if_pos rfl,
            Nat.lt_succ_self _⟩
          rw [childNode, notification]
  | notify curPid value =>
      cases notification : child.notification with
      | cpu =>
          refine ⟨.write value, fun _ => .loadCount curPid, (), _, ?_, rfl,
            by simp [ChildPoint.rank]⟩
          rw [childNode, notification]
      | wakeup =>
          refine ⟨.kill value .usr2, fun _ => .loadCount curPid, (), _, ?_, rfl,
            by simp [ChildPoint.rank]⟩
          rw [childNode, notification]
  | showAfter =>
      refine ⟨.showExtendedRegisters, _, (), _, rfl, rfl, ?_⟩
      rcases last with isLast | isLast
      · rw [isLast]
        decide
      · rw [isLast]
        decide
  | exited => exact absurd rfl running
  | cpuBefore curPid => exact ⟨.getCpuId, _, (0 : Int), _, rfl, rfl, Nat.lt_succ_self _⟩
  | cpuAfter curPid => exact ⟨.getCpuId, _, (0 : Int), _, rfl, rfl, Nat.lt_succ_self _⟩
  | _ => exact ⟨_, _, (), _, rfl, rfl, Nat.lt_succ_self _⟩

/-- What the parent waits for. -/
def ParentPoint.Ready (env : Environment) (world : World) : ParentPoint → Prop
  | .read _ => world.queue ≠ []
  | .loadCount _ => (world.procs .parent).counts .parent ≠ 0
  | .wait1 locals _ => world.canWait env locals.childPid1 = true
  | .wait2 locals _ => world.canWait env locals.childPid2 = true
  | _ => True

/-- The parent makes its next call unless it has to wait. -/
theorem exists_parent_call (numOfCpus : Int) {parent : ParentPoint}
    (unfinished : ∀ failure, parent ≠ .returned failure) (ready : parent.Ready env world) :
    ∃ op next result after, parentNode numOfCpus parent = .call op next ∧
      performRunning env world .parent op result = some after ∧
      (next result).rank < parent.rank := by
  cases parent with
  | pipe =>
      refine ⟨.pipe, _, env.pipe, _, rfl, if_pos rfl, ?_⟩
      split <;> decide
  | fork1 =>
      refine ⟨.fork .first, _, env.fork1, _, rfl, if_pos rfl, ?_⟩
      split <;> simp [ParentPoint.rank]
  | read childPid1 =>
      obtain ⟨value, rest, isQueue⟩ := List.exists_cons_of_ne_nil ready
      refine ⟨.read, _, value, { world with queue := rest }, rfl, ?_, Nat.lt_succ_self _⟩
      simp [performRunning, isQueue]
  | fork2 childPid1 cpuidChild1 =>
      refine ⟨.fork .second, _, env.fork2, _, rfl, if_pos rfl, ?_⟩
      split <;> simp [ParentPoint.rank]
  | setpgid1 locals =>
      refine ⟨.setpgid _ _, _, env.setpgid locals.childPid1, _, rfl, if_pos rfl, ?_⟩
      split <;> simp [ParentPoint.rank]
  | setpgid2 locals =>
      refine ⟨.setpgid _ _, _, env.setpgid locals.childPid2, _, rfl, if_pos rfl, ?_⟩
      split <;> simp [ParentPoint.rank]
  | cpuAlloc locals =>
      refine ⟨.cpuAlloc _, _, env.cpuAlloc, _, rfl, if_pos rfl, ?_⟩
      split <;> simp [ParentPoint.rank]
  | loadCount locals =>
      refine ⟨.loadCount .parent, _, (world.procs .parent).counts .parent, _, rfl, if_pos rfl, ?_⟩
      rw [if_neg ready]
      exact Nat.lt_succ_self _
  | setaffinity locals =>
      exact ⟨.schedSetaffinity _ _ _, _, env.setaffinity, _, rfl, if_pos rfl, Nat.lt_succ_self _⟩
  | cpuFree locals result =>
      refine ⟨.cpuFree, _, (), _, rfl, rfl, ?_⟩
      split <;> simp [ParentPoint.rank]
  | wait1 locals result => exact ⟨.waitpid _, _, (), _, rfl, if_pos ready, Nat.lt_succ_self _⟩
  | wait2 locals result => exact ⟨.waitpid _, _, (), _, rfl, if_pos ready, Nat.lt_succ_self _⟩
  | print result =>
      refine ⟨.printf _ _, _, (), _, rfl, rfl, ?_⟩
      split <;> simp [ParentPoint.rank]
  | returned failure => exact absurd rfl (unfinished failure)
  | _ => exact ⟨_, _, (), _, rfl, rfl, Nat.lt_succ_self _⟩

end Calls

/-- A child that waits in its loop, and to which no signal is on its way. -/
structure Idle (handler : Handler) (state : ProcState) (point : ChildPoint) : Prop where
  loops : ∃ curPid, point = .loadCount curPid
  uncounted : state.counts handler = 0
  usr1 : state.pending .usr1 = false
  kill : state.pending .kill = false

/-- Nobody has sent a signal to a child that waits for it in vain. -/
theorem ChildOk.unsent_of_idle {handler : Handler} {forked sent killed : Bool} {state : ProcState}
    {point : ChildPoint} (ok : ChildOk handler forked sent killed state (some point))
    (alive : state.ended = none) (idle : Idle handler state point) :
    sent = false ∧ killed = false := by
  constructor
  · have wake := ok.wake
    rw [idle.uncounted, idle.usr1] at wake
    cases wake
    rfl
  · by_contra doomed
    rcases ok.doomed (eq_true_of_ne_false doomed) with pending | ended
    · rw [idle.kill] at pending
      cases pending
    · rw [alive] at ended
      cases ended

section Descent

variable {env : Environment} {numOfCpus : Int} {config : WakeupConfig} {parent : ParentPoint}
  {children : ChildId → Option ChildPoint} {point : ChildPoint}

/-- Some step leads to a state with less to do. -/
def Descends (env : Environment) (numOfCpus : Int) (config : WakeupConfig) (parent : ParentPoint)
    (children : ChildId → Option ChildPoint) : Prop :=
  ∃ event target next after, (system env numOfCpus).step config event = some target ∧
    Snapshot env numOfCpus target next after ∧ (parent.rank = 0 → next = parent) ∧
    totalRank target.world next after < totalRank config.world parent children

/-- A signal that is pending is delivered. -/
theorem Snapshot.deliver_descends {proc : Proc} {signal : Signal}
    (snapshot : Snapshot env numOfCpus config parent children)
    (pending : (config.world.procs proc).pending signal = true)
    (alive : (config.world.procs proc).ended = none)
    (noted : proc = .parent ∧ signal = .usr2 ∨ proc ≠ .parent ∧ signal ≠ .usr2) :
    Descends env numOfCpus config parent children := by
  have delivered : deliver config.world proc signal =
      some (config.world.set proc ((config.world.procs proc).handle signal)) :=
    if_pos ⟨pending, alive⟩
  refine ⟨.external (proc, signal), _, parent, children,
    (Flow.System.step_external_eq_some_iff _ _ _ _).mpr ⟨_, delivered, rfl⟩,
    snapshot.deliver_step delivered, fun _ => rfl, ?_⟩
  have others : ∀ other ≠ proc, (config.world.set proc
      ((config.world.procs proc).handle signal)).procs other = config.world.procs other :=
    fun other different => config.world.set_of_ne _ different
  unfold totalRank
  rcases noted with ⟨rfl, rfl⟩ | ⟨isChild, noted⟩
  · unfold childrenRank
    rw [World.set_self, others (.child .first) (by simp), others (.child .second) (by simp),
      handle_pending, Function.update_self, pending]
    simp only [Bool.toNat_false, Bool.toNat_true]
    omega
  · cases proc with
    | parent => exact absurd rfl isChild
    | child id =>
        have less : procRank ((config.world.procs (.child id)).handle signal) (children id) < _ :=
          procRank_handle alive pending noted
        rw [childrenRank_eq _ children id, childrenRank_eq _ children id, World.set_self,
          others .parent (by simp), others (.child id.other) (by simp [id.other_ne])]
        omega

/-- A child goes on unless it waits in vain. -/
theorem Snapshot.child_descends {id : ChildId}
    (snapshot : Snapshot env numOfCpus config parent children) (isPoint : children id = some point)
    (alive : (config.world.procs (.child id)).ended = none)
    (busy : ¬Idle (.child id) (config.world.procs (.child id)) point) :
    Descends env numOfCpus config parent children := by
  by_cases usr1 : (config.world.procs (.child id)).pending .usr1 = true
  · exact snapshot.deliver_descends usr1 alive (by simp)
  by_cases kill : (config.world.procs (.child id)).pending .kill = true
  · exact snapshot.deliver_descends kill alive (by simp)
  have running : point ≠ .exited := by
    rintro rfl
    exact (snapshot.accounts.childOk id).running alive isPoint
  have counted : ∀ curPid, point = .loadCount curPid →
      (config.world.procs (.child id)).counts (childFn id).handler ≠ 0 := by
    intro curPid waits uncounted
    rw [childFn_handler] at uncounted
    exact busy ⟨⟨curPid, waits⟩, uncounted, by simpa using usr1, by simpa using kill⟩
  obtain ⟨op, next, result, world, isNode, performed, lower⟩ :=
    exists_child_call env config.world (childFn id) (.child id) (childFn_last id) running counted
  refine ⟨.call (.child id) op result, _, parent, Function.update children id (some (next result)),
    Flow.System.step_call (Proc.child id) op result ((snapshot.isChild id).trans isPoint) isNode
      ((if_pos alive).trans performed),
    snapshot.child_step isPoint alive isNode performed, fun _ => rfl, ?_⟩
  have own : procRank (world.procs (.child id)) (some (next result)) + 6 ≤ _ :=
    procRank_call (world.procs (.child id)) alive lower
  have kept := ended_of_performRunning (single_of_childNode isNode)
    (show Proc.child id.other ≠ .child id by simp [id.other_ne]) performed
  have other : procRank (world.procs (.child id.other)) (children id.other) ≤ _ :=
    procRank_le (config.world.procs (.child id.other)) (world.procs (.child id.other))
      (congrArg _ kept) rfl
  have bit := Bool.toNat_le ((world.procs .parent).pending .usr2)
  unfold totalRank
  rw [childrenRank_eq _ children id, childrenRank_eq _ _ id, Function.update_self,
    Function.update_of_ne id.other_ne, isPoint]
  dsimp only
  omega

/-- A call of the parent ends no child; a child that it forks is running. -/
theorem Accounts.ended_parent_step {world after : World} {op : Op} {next : Res op → ParentPoint}
    {result : Res op} (accounts : Accounts env world parent children)
    (isNode : parentNode numOfCpus parent = .call op next)
    (performed : performRunning env world .parent op result = some after) (id : ChildId) :
    (after.procs (.child id)).ended = (world.procs (.child id)).ended := by
  by_cases forks : ∃ child, op = .fork child
  · obtain ⟨started, rfl⟩ := forks
    obtain ⟨-, isAfter⟩ := Option.ite_none_right_eq_some.mp performed
    cases isAfter
    split
    · rfl
    · by_cases same : id = started
      · subst same
        rw [World.set_self, ProcState.forked, accounts.parentOk.ended]
        exact (accounts.unforked isNode).alive.symm
      · rw [world.set_of_ne _ (by simpa using same)]
  · exact ended_of_performRunning (not_exists.mp forks) (by simp) performed

theorem Forked.rank {before after : Option ChildPoint} (forked : Forked before after) :
    after.elim 18 ChildPoint.rank = before.elim 18 ChildPoint.rank := by
  rcases forked with rfl | ⟨rfl, rfl⟩
  · rfl
  · rfl

/-- The parent goes on unless it has to wait. -/
theorem Snapshot.parent_descends (snapshot : Snapshot env numOfCpus config parent children)
    (unfinished : ∀ failure, parent ≠ .returned failure)
    (ready : parent.Ready env config.world) :
    Descends env numOfCpus config parent children := by
  obtain ⟨op, next, result, world, isNode, performed, lower⟩ :=
    exists_parent_call numOfCpus unfinished ready
  obtain ⟨after, moved, forked⟩ := snapshot.parent_step isNode performed
  have alive := snapshot.accounts.parentOk.ended
  refine ⟨.call .parent op result, _, next result, after,
    Flow.System.step_call Proc.parent op result snapshot.isParent isNode
      ((if_pos alive).trans performed),
    moved, fun finished => by omega, ?_⟩
  have ended := snapshot.accounts.ended_parent_step isNode performed
  have rank : ∀ id, procRank (world.procs (.child id)) (after id) ≤
      procRank (config.world.procs (.child id)) (children id) + 2 :=
    fun id => procRank_le _ _ (congrArg _ (ended id)) (forked id).rank
  have first := rank .first
  have second := rank .second
  have bit := Bool.toNat_le ((world.procs .parent).pending .usr2)
  unfold totalRank childrenRank
  dsimp only
  omega

/-- A child that has been forked has ended, or it waits in vain. -/
def Settled (handler : Handler) (state : ProcState) (child : Option ChildPoint) : Prop :=
  ∀ point, child = some point → state.ended.isSome = true ∨ Idle handler state point

theorem Settled.idle {handler : Handler} {sent killed : Bool} {state : ProcState}
    {child : Option ChildPoint} (settled : Settled handler state child)
    (ok : ChildOk handler true sent killed state child) (alive : state.ended = none) :
    ∃ point, child = some point ∧ Idle handler state point := by
  obtain ⟨point, isPoint⟩ := Option.isSome_iff_exists.mp ok.born
  rcases settled point isPoint with ended | idle
  · rw [alive] at ended
    cases ended
  · exact ⟨point, isPoint, idle⟩

/-- A child that waits in its loop has notified the parent. -/
theorem Idle.notified {handler : Handler} {state : ProcState} {child : Option ChildPoint}
    (idle : ∃ point, child = some point ∧ Idle handler state point) :
    child.any (·.notified) = true := by
  obtain ⟨_, rfl, ⟨curPid, rfl⟩, -⟩ := idle
  rfl

/-- A child to which a signal has been sent does not wait in vain. -/
theorem Settled.ended {handler : Handler} {sent killed : Bool} {state : ProcState}
    {child : Option ChildPoint} (settled : Settled handler state child)
    (ok : ChildOk handler true sent killed state child) (signalled : sent = true ∨ killed = true) :
    state.ended.isSome = true := by
  by_contra running
  have alive := Option.not_isSome_iff_eq_none.mp running
  obtain ⟨point, rfl, idle⟩ := settled.idle ok alive
  obtain ⟨unsent, unkilled⟩ := ok.unsent_of_idle alive idle
  simp [unsent, unkilled] at signalled

/-- When the children are settled, the parent does not have to wait. -/
theorem Snapshot.ready (snapshot : Snapshot env numOfCpus config parent children)
    (settled : ∀ id, Settled (.child id) (config.world.procs (.child id)) (children id))
    (quiet : (config.world.procs .parent).pending .usr2 = false) :
    parent.Ready env config.world := by
  have accounts := snapshot.accounts
  have first := accounts.childOk .first
  have second := accounts.childOk .second
  cases parent with
  | read childPid1 =>
      intro empty
      have queue := accounts.queue
      rw [Idle.notified ((settled .first).idle first first.alive), empty] at queue
      cases queue
  | loadCount locals =>
      intro uncounted
      have wake := accounts.parentOk.wake rfl
      rw [Idle.notified ((settled .second).idle second second.alive), quiet, uncounted] at wake
      cases wake
  | wait1 locals affinity =>
      exact (accounts.canWait_iff accounts.fits.1.1 rfl).mpr
        ((settled .first).ended first (Or.inl rfl))
  | wait2 locals affinity =>
      exact (accounts.canWait_iff accounts.fits.1.2 rfl).mpr
        ((settled .second).ended second (Or.inl rfl))
  | _ => exact trivial

/-- Something can be done, unless the run function has returned and the children are settled. -/
theorem Snapshot.descends_or_settled (snapshot : Snapshot env numOfCpus config parent children) :
    Descends env numOfCpus config parent children ∨
      (∃ failure, parent = .returned failure) ∧
        ∀ id, Settled (.child id) (config.world.procs (.child id)) (children id) := by
  by_contra stuck
  obtain ⟨still, unsettled⟩ := not_or.mp stuck
  have settled : ∀ id, Settled (.child id) (config.world.procs (.child id)) (children id) := by
    intro id point isPoint
    by_contra busy
    obtain ⟨running, busy⟩ := not_or.mp busy
    exact still (snapshot.child_descends isPoint (Option.not_isSome_iff_eq_none.mp running) busy)
  have quiet : (config.world.procs .parent).pending .usr2 = false := by
    by_contra pending
    exact still (snapshot.deliver_descends (eq_true_of_ne_false pending)
      snapshot.accounts.parentOk.ended (by simp))
  have unfinished : ∀ failure, parent ≠ .returned failure :=
    fun failure isReturned => unsettled ⟨⟨failure, isReturned⟩, settled⟩
  exact still (snapshot.parent_descends unfinished (snapshot.ready settled quiet))

end Descent

/-! ## The end of the test case -/

section Results

variable {env : Environment} {numOfCpus : Int} {trace : List WakeupEvent} {config : WakeupConfig}

/-- From every reachable state, the run function can go on to return its verdict. -/
theorem exists_run_to_verdict
    (run : Run (system env numOfCpus).step (start env numOfCpus) trace config) :
    ∃ rest target, Run (system env numOfCpus).step config rest target ∧
      target.point .parent = some (.returned (verdict env numOfCpus)) := by
  obtain ⟨parent, children, snapshot⟩ := Invariant.of_run run
  let Inv (height : ℕ) (config : WakeupConfig) : Prop := ∃ parent children,
    Snapshot env numOfCpus config parent children ∧
      totalRank config.world parent children = height
  let Goal (config : WakeupConfig) : Prop :=
    ∃ failure, config.point .parent = some (.returned failure)
  have progress : ∀ height config, Inv height config → ¬Goal config → ∃ event target lower,
      True ∧ (system env numOfCpus).step config event = some target ∧ Inv lower target ∧
        lower < height := by
    rintro _ config ⟨parent, children, snapshot, rfl⟩ unfinished
    rcases snapshot.descends_or_settled with
      ⟨event, target, next, after, stepped, moved, -, less⟩ | ⟨⟨failure, rfl⟩, -⟩
    · exact ⟨event, target, _, trivial, stepped, ⟨next, after, moved, rfl⟩, less⟩
    · exact absurd ⟨failure, snapshot.isParent⟩ unfinished
  obtain ⟨rest, target, _, continued, ⟨parent, children, snapshot, -⟩, failure, returned⟩ :=
    exists_run_of_rank progress ⟨parent, children, snapshot, rfl⟩
  cases snapshot.isParent.symm.trans returned
  exact ⟨rest, target, continued, returned.trans (congrArg _ (congrArg _ snapshot.isVerdict))⟩

/-- From the state in which both children have been forked. -/
theorem exists_run_to_verdict_forked :
    ∃ config rest target,
      Run (system (twoChildren 0 0) 4).step (start (twoChildren 0 0) 4) callsToForks config ∧
      Run (system (twoChildren 0 0) 4).step config rest target ∧
      target.point .parent = some (.returned none) := by
  obtain ⟨config, run⟩ : ∃ config, Run (system (twoChildren 0 0) 4).step
      (start (twoChildren 0 0) 4) callsToForks config := ⟨_, GuardedRun.of_execute rfl⟩
  have value : verdict (twoChildren 0 0) 4 = none := by decide
  rw [← value]
  obtain ⟨rest, target, continued, returned⟩ := exists_run_to_verdict run
  exact ⟨config, rest, target, run, continued, returned⟩

/-- A run function that has returned does nothing more. -/
theorem returned_of_run {failure : Option Failure} {rest : List WakeupEvent}
    {target : WakeupConfig} (returned : config.point .parent = some (.returned failure))
    (continued : Run (system env numOfCpus).step config rest target) :
    target.point .parent = some (.returned failure) := by
  apply continued.preserves returned
  intro config event target returned _ stepped
  cases event with
  | external cause =>
      obtain ⟨world, -, rfl⟩ := (Flow.System.step_external_eq_some_iff _ _ _ _).mp stepped
      exact returned
  | call proc op result =>
      obtain ⟨point, next, world, isPoint, isNode, -, rfl⟩ :=
        (Flow.System.step_call_eq_some_iff _ _ _ _ _ _).mp stepped
      cases proc with
      | parent =>
          cases returned.symm.trans isPoint
          cases isNode
      | child id =>
          dsimp only
          rw [resume_of_single (single_of_childNode isNode), Function.update_of_ne (by simp)]
          exact returned

/-- Every child that has been forked has ended. -/
def ChildrenEnded (config : WakeupConfig) : Prop :=
  ∀ proc ≠ .parent, (config.point proc).isSome = true →
    (config.world.procs proc).ended.isSome = true

/-- The run function returns after it has released the children. -/
def Releases (failure : Option Failure) : Prop :=
  failure ≠ some .cpuAlloc ∧ failure ≠ some .setaffinity

theorem Releases.signalled {failure : Option Failure} (releases : Releases failure)
    (id : ChildId) :
    let progress := (ParentPoint.returned failure).progress
    progress.forked id = true → progress.sent id = true ∨ progress.killed id = true := by
  cases failure with
  | none => cases id <;> decide
  | some failure =>
      cases failure with
      | cpuAlloc => exact absurd rfl releases.1
      | setaffinity => exact absurd rfl releases.2
      | _ => cases id <;> decide

/-- No child waits in vain after it has been released. -/
theorem Snapshot.childrenEnded {failure : Option Failure} {children : ChildId → Option ChildPoint}
    (snapshot : Snapshot env numOfCpus config (.returned failure) children)
    (releases : Releases failure)
    (settled : ∀ id, Settled (.child id) (config.world.procs (.child id)) (children id)) :
    ChildrenEnded config := by
  intro proc isChild born
  cases proc with
  | parent => exact absurd rfl isChild
  | child id =>
      have ok := snapshot.accounts.childOk id
      rw [snapshot.isChild, ok.born] at born
      have signalled := releases.signalled id born
      rw [born] at ok
      exact (settled id).ended ok signalled

/-- A child that has not been released is running. -/
theorem Snapshot.not_childrenEnded {failure : Option Failure}
    {children : ChildId → Option ChildPoint}
    (snapshot : Snapshot env numOfCpus config (.returned failure) children)
    (waits : failure = some .cpuAlloc ∨ failure = some .setaffinity) : ¬ChildrenEnded config := by
  intro allEnded
  have first : ChildOk (.child .first) true false false (config.world.procs (.child .first))
      (children .first) := by
    rcases waits with rfl | rfl
    · exact snapshot.accounts.childOk .first
    · exact snapshot.accounts.childOk .first
  have ended := allEnded (.child .first) (by simp) ((snapshot.isChild .first).symm ▸ first.born)
  rw [first.alive] at ended
  cases ended

/-- After the run function has returned, the children can end if and only if it has not failed
for want of memory for the set or in `sched_setaffinity`. -/
theorem children_can_end_iff
    (run : Run (system env numOfCpus).step (start env numOfCpus) trace config)
    {failure : Option Failure} (returned : config.point .parent = some (.returned failure)) :
    (∃ rest target, Run (system env numOfCpus).step config rest target ∧ ChildrenEnded target) ↔
      failure ≠ some .cpuAlloc ∧ failure ≠ some .setaffinity := by
  constructor
  · rintro ⟨rest, target, continued, allEnded⟩
    obtain ⟨parent, children, snapshot⟩ := Invariant.of_run (run.append continued)
    cases snapshot.isParent.symm.trans (returned_of_run returned continued)
    constructor
    · exact fun waits => snapshot.not_childrenEnded (Or.inl waits) allEnded
    · exact fun waits => snapshot.not_childrenEnded (Or.inr waits) allEnded
  · intro releases
    obtain ⟨parent, children, snapshot⟩ := Invariant.of_run run
    cases snapshot.isParent.symm.trans returned
    let Inv (height : ℕ) (config : WakeupConfig) : Prop := ∃ children,
      Snapshot env numOfCpus config (.returned failure) children ∧
        totalRank config.world (.returned failure) children = height
    have progress : ∀ height config, Inv height config → ¬ChildrenEnded config →
        ∃ event target lower, True ∧ (system env numOfCpus).step config event = some target ∧
          Inv lower target ∧ lower < height := by
      rintro _ config ⟨children, snapshot, rfl⟩ unfinished
      rcases snapshot.descends_or_settled with
        ⟨event, target, next, after, stepped, moved, stays, less⟩ | ⟨-, settled⟩
      · cases stays rfl
        exact ⟨event, target, _, trivial, stepped, ⟨after, moved, rfl⟩, less⟩
      · exact absurd (snapshot.childrenEnded releases settled) unfinished
    obtain ⟨rest, target, _, continued, -, allEnded⟩ :=
      exists_run_of_rank progress ⟨children, snapshot, rfl⟩
    exact ⟨rest, target, continued, allEnded⟩

/-- The children that are left over when `sched_setaffinity` fails. -/
theorem children_can_end_iff_setaffinity :
    ∃ trace config, Run (system (twoChildren 0 (-1)) 4).step (start (twoChildren 0 (-1)) 4) trace
      config ∧ config.point .parent = some (.returned (some .setaffinity)) ∧
      ¬∃ rest target, Run (system (twoChildren 0 (-1)) 4).step config rest target ∧
        ChildrenEnded target := by
  obtain ⟨config, run, returned⟩ : ∃ config, Run (system (twoChildren 0 (-1)) 4).step
      (start (twoChildren 0 (-1)) 4)
      (callsToForks ++ callsToMove (-1) ++ [.call .parent (.kill (-11) .usr1) ()]) config ∧
      config.point .parent = some (.returned (some .setaffinity)) :=
    ⟨_, GuardedRun.of_execute rfl, rfl⟩
  refine ⟨_, config, run, returned, fun canEnd => ?_⟩
  exact ((children_can_end_iff run returned).mp canEnd).2 rfl

end Results

end McKernelTest.SchedSetaffinity.Wakeup
