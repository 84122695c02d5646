import McKernelTest.SchedSetaffinity.WakeupVerdict

/-!
# Runs of `sched_setaffinity#10`

The accounts are kept by every call of every process and by every delivery of a signal.  So
no signal meets a process without its handler, and a child whose wake-up was never sent
does not leave its loop.
-/

namespace McKernelTest.SchedSetaffinity.Wakeup

open Posix Process Transition

section Forks

variable {env : Environment} {numOfCpus : Int} {world after : World} {parent : ParentPoint}
  {children : ChildId → Option ChildPoint}

theorem ChildOk.unborn {handler : Handler} {sent killed : Bool} {state : ProcState}
    {child : Option ChildPoint} (ok : ChildOk handler false sent killed state child) :
    child = none :=
  Option.not_isSome_iff_eq_none.mp (by simp [ok.born])

theorem unforked_of_fork {id : ChildId} {next : Int → ParentPoint}
    (isNode : parentNode numOfCpus parent = .call (.fork id) next) :
    parent.progress.forked id = false ∧ parent.progress.sent id = false ∧
      parent.progress.killed id = false := by
  cases parent with
  | fork1 =>
      cases isNode
      exact ⟨rfl, rfl, rfl⟩
  | fork2 childPid1 cpuidChild1 =>
      cases isNode
      exact ⟨rfl, rfl, rfl⟩
  | _ => cases isNode

/-- The child that is going to be forked. -/
theorem Accounts.unforked {id : ChildId} {next : Int → ParentPoint}
    (accounts : Accounts env world parent children)
    (isNode : parentNode numOfCpus parent = .call (.fork id) next) :
    ChildOk (.child id) false false false (world.procs (.child id)) (children id) := by
  obtain ⟨unforked, unsent, unkilled⟩ := unforked_of_fork isNode
  have ok := accounts.childOk id
  rwa [unforked, unsent, unkilled] at ok

/-- A child is forked. -/
theorem Accounts.fork {id : ChildId} {next : ParentPoint}
    (accounts : Accounts env world parent children) (fits : next.Fits env)
    (same : next.progress = parent.progress.set true false false id)
    (unborn : children id = none) (forked : env.fork id ≠ -1) :
    Accounts env (world.set (.child id) (world.procs .parent).forked) next
      (Function.update children id (some .getpid)) := by
  refine accounts.setChild fits same (fun _ => forked) (accounts.parentOk.fork id)
    (accounts.groups .parent) ?_ (by simp)
  rw [unborn]
  rfl

/-- The children after `fork`. -/
def afterFork (children : ChildId → Option ChildPoint) (id : ChildId) (result : Int) :
    ChildId → Option ChildPoint :=
  if result = -1 then children else Function.update children id (some .getpid)

/-- A call of `fork`. -/
theorem Accounts.fork_step {id : ChildId} {next : Int → ParentPoint} {result : Int}
    (accounts : Accounts env world parent children)
    (isNode : parentNode numOfCpus parent = .call (.fork id) next)
    (performed : performRunning env world .parent (.fork id) result = some after) :
    Accounts env after (next result) (afterFork children id result) := by
  obtain ⟨isResult, isAfter⟩ := Option.ite_none_right_eq_some.mp performed
  have isPid : result = env.fork id := isResult
  cases isAfter
  have unborn := (accounts.unforked isNode).unborn
  unfold afterFork
  cases parent with
  | fork1 =>
      cases isNode
      by_cases failed : result = -1
      · simp only [if_pos failed]
        exact accounts.stay trivial rfl
      · simp only [if_neg failed]
        exact accounts.fork isPid rfl unborn (isPid ▸ failed)
  | fork2 childPid1 cpuidChild1 =>
      cases isNode
      by_cases failed : result = -1
      · simp only [if_pos failed]
        exact accounts.stay accounts.fits rfl
      · simp only [if_neg failed]
        exact accounts.fork ⟨accounts.fits, isPid⟩ rfl unborn (isPid ▸ failed)
  | _ => cases isNode

end Forks

section Children

variable {env : Environment} {world after : World} {parent : ParentPoint}

theorem World.set_procs_self (world : World) (proc : Proc) :
    world.set proc (world.procs proc) = world := by
  rw [World.set, Function.update_eq_self]

/-- What a child does: something of its own, or its notification. -/
theorem ChildOk.step {child : Child} {proc : Proc} {forked sent killed : Bool} {point : ChildPoint}
    {op : Op} {next : Res op → ChildPoint} {result : Res op}
    (last : child.last = .closeRead ∨ child.last = .exit)
    (ok : ChildOk child.handler forked sent killed (world.procs proc) (some point))
    (alive : (world.procs proc).ended = none) (isNode : childNode child point = .call op next)
    (performed : performRunning env world proc op result = some after) :
    (∃ state, after = world.set proc state ∧
      ChildOk child.handler forked sent killed state (some (next result)) ∧
      state.group = (world.procs proc).group ∧ (next result).notified = point.notified) ∨
    ∃ curPid value, point = .notify curPid value := by
  have quiet : ∀ {next : ChildPoint}, next.armed = point.armed →
      next.notified = point.notified → next.released = point.released → next ≠ .exited →
      after = world → ∃ state, after = world.set proc state ∧
        ChildOk child.handler forked sent killed state (some next) ∧
        state.group = (world.procs proc).group ∧ next.notified = point.notified := by
    intro next armed notified released continues same
    exact ⟨world.procs proc, same.trans (world.set_procs_self proc).symm,
      ok.move armed notified released continues alive, rfl, notified⟩
  cases point with
  | notify curPid value => exact Or.inr ⟨curPid, value, rfl⟩
  | sigaction curPid =>
      cases isNode
      cases performed
      exact Or.inl ⟨_, rfl, ok.arm alive, rfl, rfl⟩
  | loadCount curPid =>
      cases isNode
      obtain ⟨isResult, ⟨⟩⟩ := Option.ite_none_right_eq_some.mp performed
      left
      beta_reduce
      split
      · exact quiet rfl rfl rfl (by simp) rfl
      · rename_i counted
        exact ⟨world.procs proc, (world.set_procs_self proc).symm,
          ok.release (isResult ▸ counted) alive, rfl, rfl⟩
  | exit =>
      cases isNode
      cases performed
      exact Or.inl ⟨_, rfl, ok.exit, rfl, rfl⟩
  | showAfter =>
      cases isNode
      cases performed
      left
      rcases last with isLast | isLast
      · rw [isLast]
        exact quiet rfl rfl rfl (by simp) rfl
      · rw [isLast]
        exact quiet rfl rfl rfl (by simp) rfl
  | prepare curPid =>
      cases notification : child.notification with
      | cpu =>
          rw [childNode, notification] at isNode
          cases isNode
          cases performed
          exact Or.inl (quiet rfl rfl rfl (by simp) rfl)
      | wakeup =>
          rw [childNode, notification] at isNode
          cases isNode
          obtain ⟨-, ⟨⟩⟩ := Option.ite_none_right_eq_some.mp performed
          exact Or.inl (quiet rfl rfl rfl (by simp) rfl)
  | getpid =>
      cases isNode
      obtain ⟨-, ⟨⟩⟩ := Option.ite_none_right_eq_some.mp performed
      exact Or.inl (quiet rfl rfl rfl (by simp) rfl)
  | exited => cases isNode
  | _ =>
      cases isNode
      cases performed
      exact Or.inl (quiet rfl rfl rfl (by simp) rfl)

variable {children : ChildId → Option ChildPoint} {point : ChildPoint} {op : Op}
  {next : Res op → ChildPoint} {result : Res op}

theorem ParentPoint.armed_of_forked2 (forked : parent.progress.forked2 = true) :
    parent.progress.armed = true := by
  cases parent with
  | returned failure =>
      cases failure with
      | none => rfl
      | some failure =>
          cases failure with
          | numOfCpus => cases forked
          | _ => rfl
  | sigaction => cases forked
  | _ => rfl

/-- The second child signals the process that `getppid` has returned. -/
theorem ppid_step (isNode : childNode child2Fn point = .call op next)
    (performed : performRunning env world (.child .second) op result = some after)
    (curPid value : Int)
    (reached : next result = .notify curPid value) : value = env.parentPid := by
  cases point with
  | prepare pid =>
      cases isNode
      obtain ⟨isResult, -⟩ := Option.ite_none_right_eq_some.mp performed
      cases reached
      exact isResult
  | loadCount pid =>
      cases isNode
      beta_reduce at reached
      split at reached <;> cases reached
  | exited => cases isNode
  | _ =>
      cases isNode
      cases reached

/-- The first child writes to the pipe. -/
theorem Accounts.notify_first {curPid value : Int} (accounts : Accounts env world parent children)
    (isPoint : children .first = some (.notify curPid value))
    (alive : (world.procs (.child .first)).ended = none) :
    Accounts env { world with queue := world.queue ++ [value] } parent
      (Function.update children .first (some (.loadCount curPid))) := by
  obtain ⟨fits, forked, parentOk, childOk, queue, groups, ppid⟩ := accounts
  have first := childOk .first
  rw [isPoint] at first queue
  refine ⟨fits, forked, parentOk, fun id => ?_, ?_, groups, ppid⟩
  · cases id with
    | first => exact first.notify alive
    | second => exact childOk .second
  · have empty : world.queue.length + parent.progress.read.toNat = 0 := queue
    have one : (world.queue ++ [value]).length + parent.progress.read.toNat = 1 := by
      rw [List.length_append, List.length_singleton]
      omega
    exact one

/-- The second child signals the parent. -/
theorem Accounts.notify_second {curPid value : Int} (accounts : Accounts env world parent children)
    (isPoint : children .second = some (.notify curPid value))
    (alive : (world.procs (.child .second)).ended = none) :
    Accounts env (world.kill env (.child .second) value .usr2) parent
      (Function.update children .second (some (.loadCount curPid))) := by
  obtain ⟨fits, forked, parentOk, childOk, queue, groups, ppid⟩ := accounts
  have second := childOk .second
  rw [isPoint] at second parentOk
  cases ppid curPid value isPoint
  have isPid : env.pidOf .parent = env.parentPid := rfl
  rw [World.kill_eq_set isPid env.parentPid_pos Environment.pidOf_eq_parentPid parentOk.group
    parentOk.ended]
  have armed := ParentPoint.armed_of_forked2 second.born.symm
  refine ⟨fits, forked, parentOk.receive armed, fun id => ?_, queue,
    groups_set _ groups (groups .parent), by simp⟩
  cases id with
  | first => exact childOk .first
  | second => exact second.notify alive

theorem childFn_handler (id : ChildId) : (childFn id).handler = .child id := by
  cases id <;> rfl

theorem childFn_last (id : ChildId) :
    (childFn id).last = .closeRead ∨ (childFn id).last = .exit := by
  cases id with
  | first => exact Or.inl rfl
  | second => exact Or.inr rfl

/-- A call of a child. -/
theorem Accounts.child_step {id : ChildId} (accounts : Accounts env world parent children)
    (isPoint : children id = some point) (alive : (world.procs (.child id)).ended = none)
    (isNode : childNode (childFn id) point = .call op next)
    (performed : performRunning env world (.child id) op result = some after) :
    Accounts env after parent (Function.update children id (some (next result))) := by
  have ok := accounts.childOk id
  rw [isPoint, ← childFn_handler] at ok
  rcases ok.step (childFn_last id) alive isNode performed with
    ⟨state, rfl, ok, group, notified⟩ | ⟨curPid, value, rfl⟩
  · rw [childFn_handler] at ok
    refine accounts.setChild accounts.fits (Progress.set_self ..).symm (accounts.forked id) ok
      (fun pgid found => accounts.groups (.child id) pgid (group ▸ found)) ?_ ?_
    · rwa [isPoint]
    · rintro rfl curPid value reached
      exact ppid_step isNode performed curPid value (Option.some.inj reached)
  · cases id with
    | first =>
        cases isNode
        cases performed
        exact accounts.notify_first isPoint alive
    | second =>
        cases isNode
        cases performed
        exact accounts.notify_second isPoint alive

/-- A signal is delivered. -/
theorem Accounts.deliver_step {proc : Proc} {signal : Signal}
    (accounts : Accounts env world parent children)
    (delivered : deliver world proc signal = some after) :
    Accounts env after parent children := by
  obtain ⟨⟨pending, alive⟩, isAfter⟩ := Option.ite_none_right_eq_some.mp delivered
  cases isAfter
  have group : ((world.procs proc).handle signal).group = (world.procs proc).group := by
    unfold ProcState.handle
    split <;> rfl
  cases proc with
  | parent => exact accounts.setParent accounts.fits rfl (accounts.parentOk.handle pending) group
  | child id =>
      exact accounts.signal accounts.fits (Progress.set_self ..).symm
        ((accounts.childOk id).handle pending) group

end Children

/-- A state, seen as the points of its processes. -/
structure Snapshot (env : Environment) (numOfCpus : Int) (config : WakeupConfig)
    (parent : ParentPoint) (children : ChildId → Option ChildPoint) : Prop where
  isParent : config.point .parent = some parent
  isChild : ∀ id, config.point (.child id) = children id
  accounts : Accounts env config.world parent children
  isVerdict : parent.verdict env = verdict env numOfCpus
  waited : Waited parent config.world

/-- What holds in every reachable state. -/
def Invariant (env : Environment) (numOfCpus : Int) (config : WakeupConfig) : Prop :=
  ∃ parent children, Snapshot env numOfCpus config parent children

section Steps

variable {env : Environment} {numOfCpus : Int} {config : WakeupConfig} {parent : ParentPoint}
  {children : ChildId → Option ChildPoint} {world : World} {op : Op} {result : Res op}

/-- A process that forks nobody only moves itself. -/
theorem resume_of_single {proc : Proc} {reached : Point proc} (single : ∀ child, op ≠ .fork child) :
    (system env numOfCpus).resume config.point proc op result reached =
      Function.update config.point proc (some reached) := by
  apply Flow.System.resume_self
  change spawn proc op result = none
  cases op with
  | fork child => exact absurd rfl (single child)
  | _ => rfl

theorem single_of_childNode {child : Child} {point : ChildPoint} {next : Res op → ChildPoint}
    (isNode : childNode child point = .call op next) : ∀ other, op ≠ .fork other := by
  rintro other rfl
  cases point with
  | prepare pid =>
      rw [childNode] at isNode
      split at isNode <;> cases isNode
  | notify pid value =>
      rw [childNode] at isNode
      split at isNode <;> cases isNode
  | _ => cases isNode

/-- A child is where it was, or it has just been forked. -/
def Forked (before after : Option ChildPoint) : Prop :=
  after = before ∨ before = none ∧ after = some .getpid

theorem Forked.afterFork {id : ChildId} (unborn : children id = none) (childPid : Int)
    (other : ChildId) : Forked (children other) (afterFork children id childPid other) := by
  unfold Wakeup.afterFork
  split
  · exact Or.inl rfl
  · by_cases same : other = id
    · subst same
      rw [Function.update_self]
      exact Or.inr ⟨unborn, rfl⟩
    · rw [Function.update_of_ne same]
      exact Or.inl rfl

/-- The points after `fork`. -/
theorem resume_fork {id : ChildId} {childPid : Int} {reached : ParentPoint}
    (isChild : ∀ other, config.point (.child other) = children other) :
    let point := (system env numOfCpus).resume config.point .parent (.fork id) childPid reached
    point .parent = some reached ∧
      ∀ other, point (.child other) = afterFork children id childPid other := by
  by_cases failed : childPid = -1
  · simp [Flow.System.resume, system, spawn, afterFork, failed, isChild]
  · refine ⟨by simp [Flow.System.resume, system, spawn, failed], fun other => ?_⟩
    by_cases same : other = id
    · subst same
      simp [Flow.System.resume, system, spawn, afterFork, failed]
    · simp [Flow.System.resume, system, spawn, afterFork, failed, same, isChild]

/-- A call of the parent moves no child, but it may fork one. -/
theorem Snapshot.parent_step {next : Res op → ParentPoint}
    (snapshot : Snapshot env numOfCpus config parent children)
    (isNode : parentNode numOfCpus parent = .call op next)
    (performed : performRunning env config.world .parent op result = some world) :
    ∃ after, Snapshot env numOfCpus
        ⟨world, (system env numOfCpus).resume config.point .parent op result (next result)⟩
        (next result) after ∧ ∀ id, Forked (children id) (after id) := by
  obtain ⟨-, isChild, accounts, isVerdict, waited⟩ := snapshot
  have verdict := (accounts.verdict_step isNode performed).trans isVerdict
  have ended := accounts.waited_step waited isNode performed
  by_cases forks : ∃ child, op = .fork child
  · obtain ⟨id, rfl⟩ := forks
    obtain ⟨atParent, atChildren⟩ := resume_fork isChild
    exact ⟨afterFork children id result, ⟨atParent, atChildren,
      accounts.fork_step isNode performed, verdict, ended⟩,
      Forked.afterFork (accounts.unforked isNode).unborn result⟩
  · have single := not_exists.mp forks
    refine ⟨children, ⟨?_, ?_, accounts.parent_step isNode single performed, verdict, ended⟩,
      fun _ => Or.inl rfl⟩
    · simp [resume_of_single single]
    · simp [resume_of_single single, isChild]

/-- Processes that have ended stay so. -/
theorem ended_of_child_step {child : Child} {proc : Proc} {point : ChildPoint}
    {next : Res op → ChildPoint} (isNode : childNode child point = .call op next)
    (alive : (config.world.procs proc).ended = none)
    (performed : performRunning env config.world proc op result = some world) (other : Proc)
    (ended : (config.world.procs other).ended.isSome = true) :
    (world.procs other).ended.isSome = true := by
  have different : other ≠ proc := by
    rintro rfl
    rw [alive] at ended
    cases ended
  rwa [ended_of_performRunning (single_of_childNode isNode) different performed]

variable {point : ChildPoint} {next : Res op → ChildPoint}

/-- A call of a child. -/
theorem Snapshot.child_step {id : ChildId}
    (snapshot : Snapshot env numOfCpus config parent children) (isPoint : children id = some point)
    (alive : (config.world.procs (.child id)).ended = none)
    (isNode : childNode (childFn id) point = .call op next)
    (performed : performRunning env config.world (.child id) op result = some world) :
    Snapshot env numOfCpus
      ⟨world, (system env numOfCpus).resume config.point (.child id) op result (next result)⟩ parent
      (Function.update children id (some (next result))) := by
  obtain ⟨isParent, isChild, accounts, isVerdict, waited⟩ := snapshot
  refine ⟨?_, fun other => ?_, accounts.child_step isPoint alive isNode performed, isVerdict,
    waited.keep (ended_of_child_step isNode alive performed)⟩
  · simp [resume_of_single (single_of_childNode isNode), isParent]
  · dsimp only
    rw [resume_of_single (single_of_childNode isNode)]
    by_cases same : other = id
    · subst same
      rw [Function.update_self, Function.update_self]
    · rw [Function.update_of_ne same, Function.update_of_ne (by simpa using same), isChild]

/-- The delivery of a signal. -/
theorem Snapshot.deliver_step {proc : Proc} {signal : Signal}
    (snapshot : Snapshot env numOfCpus config parent children)
    (delivered : deliver config.world proc signal = some world) :
    Snapshot env numOfCpus ⟨world, config.point⟩ parent children := by
  obtain ⟨isParent, isChild, accounts, isVerdict, waited⟩ := snapshot
  refine ⟨isParent, isChild, accounts.deliver_step delivered, isVerdict,
    waited.keep fun other ended => ?_⟩
  obtain ⟨⟨-, alive⟩, ⟨⟩⟩ := Option.ite_none_right_eq_some.mp delivered
  have different : other ≠ proc := by
    rintro rfl
    rw [alive] at ended
    cases ended
  rwa [config.world.set_of_ne _ different]

theorem Invariant.step {event : WakeupEvent} {target : WakeupConfig}
    (invariant : Invariant env numOfCpus config)
    (stepped : (system env numOfCpus).step config event = some target) :
    Invariant env numOfCpus target := by
  obtain ⟨parent, children, snapshot⟩ := invariant
  cases event with
  | external cause =>
      obtain ⟨world, delivered, rfl⟩ :=
        (Flow.System.step_external_eq_some_iff _ _ _ _).mp stepped
      exact ⟨parent, children, snapshot.deliver_step delivered⟩
  | call proc op result =>
      obtain ⟨point, next, world, isPoint, isNode, performed, rfl⟩ :=
        (Flow.System.step_call_eq_some_iff _ _ _ _ _ _).mp stepped
      obtain ⟨alive, running⟩ := Option.ite_none_right_eq_some.mp performed
      cases proc with
      | parent =>
          cases snapshot.isParent.symm.trans isPoint
          obtain ⟨after, moved, -⟩ := snapshot.parent_step isNode running
          exact ⟨next result, after, moved⟩
      | child id =>
          have isPoint := (snapshot.isChild id).symm.trans isPoint
          exact ⟨parent, _, snapshot.child_step isPoint alive isNode running⟩

theorem ChildOk.initial (handler : Handler) :
    ChildOk handler false false false (idle none) none := by
  constructor <;> simp [idle]
  exact Wake.idle

theorem Invariant.initial (env : Environment) (numOfCpus : Int) :
    Invariant env numOfCpus (start env numOfCpus) := by
  have progress : (runFunc numOfCpus).progress = {} := by
    unfold runFunc
    split <;> rfl
  have fits : (runFunc numOfCpus).Fits env := by
    unfold runFunc
    split <;> exact trivial
  have unwaited : ∀ id, (runFunc numOfCpus).waited id = false := by
    intro id
    unfold runFunc
    split <;> rfl
  refine ⟨runFunc numOfCpus, fun _ => none, rfl, fun _ => rfl, ⟨fits, ?_, ?_, ?_, ?_, ?_, ?_⟩,
    runFunc_verdict env numOfCpus, Waited.of_unwaited unwaited⟩
  · rw [progress]
    intro id forked
    cases id <;> cases forked
  · rw [progress]
    constructor <;> simp [start, idle]
    exact Wake.idle
  · rw [progress]
    intro id
    cases id with
    | first => exact ChildOk.initial (.child .first)
    | second => exact ChildOk.initial (.child .second)
  · rw [progress]
    rfl
  · intro proc pgid found
    cases proc with
    | parent => exact Or.inl (Option.some.inj found).symm
    | child id => cases found
  · simp

theorem Invariant.of_run {trace : List WakeupEvent}
    (run : Run (system env numOfCpus).step (start env numOfCpus) trace config) :
    Invariant env numOfCpus config := by
  apply run.preserves (Invariant.initial env numOfCpus)
  exact fun _ _ _ invariant _ stepped => invariant.step stepped

end Steps

/-! ## How the processes end -/

section Endings

variable {env : Environment} {parent : ParentPoint} {handler : Handler} {forked sent : Bool}
  {state : ProcState} {child : Option ChildPoint}

/-- `SIGKILL` is sent only after `setpgid` has failed. -/
theorem ParentPoint.verdict_of_killed (fits : parent.Fits env) {id : ChildId}
    (killed : parent.progress.killed id = true) :
    parent.verdict env = some .setpgid1 ∨ parent.verdict env = some .setpgid2 := by
  have killed : parent.progress.killed1 = true ∨ parent.progress.killed2 = true := by
    cases id with
    | first => exact Or.inl killed
    | second => exact Or.inr killed
  cases parent with
  | kill2 locals failure => exact fits.2.imp (congrArg some) (congrArg some)
  | returned failure =>
      cases failure with
      | none => simp [ParentPoint.progress, Progress.awake, Progress.both] at killed
      | some failure =>
          cases failure with
          | setpgid1 => exact Or.inl rfl
          | setpgid2 => exact Or.inr rfl
          | _ => simp [ParentPoint.progress, Progress.awake, Progress.both] at killed
  | _ => simp [ParentPoint.progress, Progress.awake, Progress.both] at killed

/-- A child that has ended has exited or was sent `SIGKILL`. -/
theorem ChildOk.ending {killed : Bool} {ending : Ending}
    (ok : ChildOk handler forked sent killed state child) (ended : state.ended = some ending) :
    ending = .exited 0 ∨ ending = .killed .kill ∧ killed = true := by
  cases ending with
  | exited status => exact Or.inl (congrArg _ (ok.exited status ended).1)
  | killed signal =>
      obtain ⟨rfl, isKilled⟩ := ok.killed signal ended
      exact Or.inr ⟨rfl, isKilled⟩

theorem ChildOk.exited_of_ended (ok : ChildOk handler forked sent false state child)
    (ended : state.ended.isSome = true) : state.ended = some (.exited 0) := by
  obtain ⟨ending, isEnding⟩ := Option.isSome_iff_exists.mp ended
  rcases ok.ending isEnding with rfl | ⟨-, impossible⟩
  · exact isEnding
  · cases impossible

end Endings

section Results

variable {env : Environment} {numOfCpus : Int} {trace : List WakeupEvent} {config : WakeupConfig}

/-- In whatever order the processes run and the signals arrive, `SIGUSR1` and `SIGUSR2` end no
process: a process that has ended has exited with status 0, or `setpgid` has failed and
`SIGKILL` has ended it. -/
theorem ended_by_exit_or_sigkill
    (run : Run (system env numOfCpus).step (start env numOfCpus) trace config) {proc : Proc}
    {ending : Ending} (ended : (config.world.procs proc).ended = some ending) :
    ending = .exited 0 ∨ ending = .killed .kill ∧
      (verdict env numOfCpus = some .setpgid1 ∨ verdict env numOfCpus = some .setpgid2) := by
  obtain ⟨parent, children, snapshot⟩ := Invariant.of_run run
  have accounts := snapshot.accounts
  rw [← snapshot.isVerdict]
  cases proc with
  | parent =>
      rw [accounts.parentOk.ended] at ended
      cases ended
  | child id =>
      exact ((accounts.childOk id).ending ended).imp_right fun ⟨same, killed⟩ =>
        ⟨same, ParentPoint.verdict_of_killed accounts.fits killed⟩

/-- Two children, with what the system answers to `setpgid` and `sched_setaffinity`. -/
def twoChildren (setpgid1 setaffinity : Int) : Environment where
  parentPid := 5
  parentGroup := 5
  pipe := 0
  fork1 := 10
  fork2 := 11
  setpgid1 := setpgid1
  setpgid2 := 0
  cpuAlloc := true
  setaffinity := setaffinity
  parentPid_pos := by decide
  fork1_valid := by decide
  fork2_valid := by decide

/-- The calls of a child before its notification. -/
def callsBefore (id : ChildId) (pid : Int) : List WakeupEvent :=
  let proc : Proc := .child id
  let child := childFn id
  [.call proc .getpid pid, .call proc (.sigaction .usr1 child.handler true) (),
    .call proc .writeRegisters (), .call proc .getCpuId (0 : Int),
    .call proc (.printf child.before [pid, 0]) (),
    .call proc (.printf "[pid:%d] f0 = %f, f1 = %f, f2 = %f, f3 = %f\n" [pid]) (),
    .call proc .showExtendedRegisters ()]

/-- The calls up to the two forks. -/
def callsToForks : List WakeupEvent :=
  [.call .parent (.sigaction .usr2 .parent false) (), .call .parent .pipe (0 : Int),
    .call .parent (.fork .first) (10 : Int)] ++ callsBefore .first 10 ++
  [.call (.child .first) .getCpuId (0 : Int), .call (.child .first) (.write 0) (),
    .call .parent .read (0 : Int),
    .call .parent (.close .readEnd) (), .call .parent (.close .writeEnd) (),
    .call .parent (.fork .second) (11 : Int)]

/-- The first child is killed because it cannot have a group of its own. -/
theorem ended_by_exit_or_sigkill_setpgid :
    ∃ trace config, Run (system (twoChildren (-1) 0) 4).step (start (twoChildren (-1) 0) 4) trace
      config ∧ (config.world.procs (.child .first)).ended = some (.killed .kill) ∧
      (verdict (twoChildren (-1) 0) 4 = some .setpgid1 ∨
        verdict (twoChildren (-1) 0) 4 = some .setpgid2) := by
  obtain ⟨config, run, ended⟩ : ∃ config, Run (system (twoChildren (-1) 0) 4).step
      (start (twoChildren (-1) 0) 4) (callsToForks ++ [.call .parent (.setpgid 10 10) (-1 : Int),
        .call .parent (.kill 10 .kill) (), .external (.child .first, .kill)]) config ∧
      (config.world.procs (.child .first)).ended = some (.killed .kill) :=
    ⟨_, GuardedRun.of_execute rfl, rfl⟩
  rcases ended_by_exit_or_sigkill run ended with impossible | ⟨-, failed⟩
  · cases impossible
  · exact ⟨_, config, run, ended, failed⟩

/-- What the run function returns does not depend on the order of the steps, and when it returns
`NULL` both children have exited with status 0. -/
theorem returned_children
    (run : Run (system env numOfCpus).step (start env numOfCpus) trace config)
    {failure : Option Failure} (returned : config.point .parent = some (.returned failure)) :
    failure = verdict env numOfCpus ∧
      (failure = none → ∀ proc ≠ .parent, (config.world.procs proc).ended = some (.exited 0)) := by
  obtain ⟨parent, children, snapshot⟩ := Invariant.of_run run
  cases snapshot.isParent.symm.trans returned
  refine ⟨snapshot.isVerdict, ?_⟩
  rintro rfl proc isChild
  have accounts := snapshot.accounts
  cases proc with
  | parent => exact absurd rfl isChild
  | child id =>
      have ok := accounts.childOk id
      have unkilled : (ParentPoint.returned none).progress.killed id = false := by
        cases id <;> rfl
      rw [unkilled] at ok
      exact ok.exited_of_ended (snapshot.waited id rfl)

/-- The calls of a child after it has been woken, up to what follows its last output. -/
def callsAfter (id : ChildId) (pid : Int) : List WakeupEvent :=
  let proc : Proc := .child id
  let child := childFn id
  [.external (proc, .usr1), .call proc (.loadCount child.handler) (1 : Int),
    .call proc .getCpuId (0 : Int), .call proc (.printf child.after [pid, 0]) (),
    .call proc (.printf "[pid:%d] f0 = %f, f1 = %f, f2 = %f, f3 = %f\n" [pid]) (),
    .call proc .showExtendedRegisters ()]

/-- The calls from the forks on, up to the answer of `sched_setaffinity`. -/
def callsToMove (setaffinity : Int) : List WakeupEvent :=
  [.call .parent (.setpgid 10 10) (0 : Int), .call .parent (.setpgid 11 10) (0 : Int),
    .call .parent (.cpuAlloc 4) true] ++ callsBefore .second 11 ++
  [.call (.child .second) .getppid (5 : Int), .call (.child .second) (.kill 5 .usr2) (),
    .external (.parent, .usr2),
    .call .parent (.loadCount .parent) (1 : Int), .call .parent (.clearCount .parent) (),
    .call .parent (.schedSetaffinity 11 (CpuSet.allocSize 4) (cpusetOf 0 4)) setaffinity,
    .call .parent .cpuFree ()]

/-- The calls after the second child has been moved. -/
def callsToReturn : List WakeupEvent :=
  [.call .parent (.kill 11 .usr1) (), .call .parent (.kill 10 .usr1) ()] ++
  callsAfter .first 10 ++
  [.call (.child .first) (.close .readEnd) (), .call (.child .first) (.close .writeEnd) (),
    .call (.child .first) (.exit 0) ()] ++
  callsAfter .second 11 ++
  [.call (.child .second) (.exit 0) (), .call .parent (.waitpid 10) (),
    .call .parent (.waitpid 11) (),
    .call .parent (.printf "==Please check migrated child process keep datas==\n" []) ()]

theorem returned_children_success :
    ∃ config, Run (system (twoChildren 0 0) 4).step (start (twoChildren 0 0) 4)
      (callsToForks ++ callsToMove 0 ++ callsToReturn) config ∧
      ∀ proc ≠ .parent, (config.world.procs proc).ended = some (.exited 0) := by
  obtain ⟨config, run, returned⟩ : ∃ config, Run (system (twoChildren 0 0) 4).step
      (start (twoChildren 0 0) 4) (callsToForks ++ callsToMove 0 ++ callsToReturn) config ∧
      config.point .parent = some (.returned none) := ⟨_, GuardedRun.of_execute rfl, rfl⟩
  exact ⟨config, run, (returned_children run returned).2 rfl⟩

end Results

end McKernelTest.SchedSetaffinity.Wakeup
