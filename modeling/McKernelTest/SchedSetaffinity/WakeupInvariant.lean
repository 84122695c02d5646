import McKernelTest.SchedSetaffinity.Wakeup

/-!
# The signals of `sched_setaffinity#10`

A wake-up is one signal: it has not been sent, it is pending, or its handler has counted it.
The parent sends `SIGUSR1` to a child only after the child has notified it, and a child
notifies only after it has installed its handler, so the handler is there when the signal
arrives, and it is needed once.
-/

namespace McKernelTest.SchedSetaffinity.Wakeup

open Posix Process Transition

/-- A signal that is sent at most once: whether it has been sent, whether it is pending, and the
counter of its handler. -/
inductive Wake : Bool → Bool → Int → Prop
  | idle : Wake false false 0
  | sent : Wake true true 0
  | handled : Wake true false 1

theorem Wake.send {pending : Bool} {count : Int} (wake : Wake false pending count) :
    Wake true true count := by
  cases wake
  exact .sent

theorem Wake.handle {sent : Bool} {count : Int} (wake : Wake sent true count) :
    sent = true ∧ count = 0 ∧ Wake sent false (count + 1) := by
  cases wake
  exact ⟨rfl, rfl, .handled⟩

theorem Wake.count_of_unsent {pending : Bool} {count : Int} (wake : Wake false pending count) :
    count = 0 := by
  cases wake
  rfl

theorem Wake.sent_of_count {sent pending : Bool} {count : Int} (wake : Wake sent pending count)
    (counted : count ≠ 0) : sent = true ∧ pending = false ∧ count = 1 := by
  cases wake with
  | idle => exact absurd rfl counted
  | sent => exact absurd rfl counted
  | handled => exact ⟨rfl, rfl, rfl⟩

/-- What the parent has done. -/
structure Progress where
  /-- The handler for `SIGUSR2` is installed. -/
  armed : Bool := false
  forked1 : Bool := false
  /-- The notification of the first child has been read. -/
  read : Bool := false
  forked2 : Bool := false
  /-- The counter of the handler has been found set. -/
  heard : Bool := false
  /-- The counter has been cleared again. -/
  cleared : Bool := false
  /-- `SIGUSR1` has been sent. -/
  sent1 : Bool := false
  sent2 : Bool := false
  /-- `SIGKILL` has been sent. -/
  killed1 : Bool := false
  killed2 : Bool := false

namespace Progress

/-- The child has been forked. -/
def forked (progress : Progress) : ChildId → Bool
  | .first => progress.forked1
  | .second => progress.forked2

/-- `SIGUSR1` has been sent to the child. -/
def sent (progress : Progress) : ChildId → Bool
  | .first => progress.sent1
  | .second => progress.sent2

/-- `SIGKILL` has been sent to the child. -/
def killed (progress : Progress) : ChildId → Bool
  | .first => progress.killed1
  | .second => progress.killed2

/-- What has been done about a child changes. -/
def set (progress : Progress) (forked sent killed : Bool) : ChildId → Progress
  | .first => { progress with forked1 := forked, sent1 := sent, killed1 := killed }
  | .second => { progress with forked2 := forked, sent2 := sent, killed2 := killed }

/-- Both children have been forked. -/
def both : Progress :=
  { armed := true, forked1 := true, read := true, forked2 := true }

/-- The second child has been waited for. -/
def awake : Progress :=
  { both with heard := true, cleared := true }

section Set

variable (progress : Progress) (isForked isSent isKilled : Bool) (id : ChildId)

theorem set_self :
    progress.set (progress.forked id) (progress.sent id) (progress.killed id) id = progress := by
  cases id <;> rfl

@[simp]
theorem set_armed : (progress.set isForked isSent isKilled id).armed = progress.armed := by
  cases id <;> rfl

@[simp]
theorem set_heard : (progress.set isForked isSent isKilled id).heard = progress.heard := by
  cases id <;> rfl

@[simp]
theorem set_cleared : (progress.set isForked isSent isKilled id).cleared = progress.cleared := by
  cases id <;> rfl

@[simp]
theorem set_read : (progress.set isForked isSent isKilled id).read = progress.read := by
  cases id <;> rfl

@[simp]
theorem set_forked : (progress.set isForked isSent isKilled id).forked =
    Function.update progress.forked id isForked := by
  funext other
  cases id <;> cases other <;> rfl

@[simp]
theorem set_sent : (progress.set isForked isSent isKilled id).sent =
    Function.update progress.sent id isSent := by
  funext other
  cases id <;> cases other <;> rfl

@[simp]
theorem set_killed : (progress.set isForked isSent isKilled id).killed =
    Function.update progress.killed id isKilled := by
  funext other
  cases id <;> cases other <;> rfl

end Set

end Progress

namespace ParentPoint

/-- What the parent has done at a point. -/
def progress : ParentPoint → Progress
  | .sigaction | .returned (some .numOfCpus) => {}
  | .pipe | .fork1 | .returned (some .pipe) | .returned (some .fork1) => { armed := true }
  | .read _ => { armed := true, forked1 := true }
  | .closeRead _ _ | .closeWrite _ _ | .fork2 _ _ | .release _ =>
      { armed := true, forked1 := true, read := true }
  | .returned (some .fork2) => { armed := true, forked1 := true, read := true, sent1 := true }
  | .setpgid1 _ | .setpgid2 _ | .kill1 _ _ | .cpuAlloc _ | .loadCount _ | .pause _
  | .returned (some .cpuAlloc) => Progress.both
  | .kill2 _ _ => { Progress.both with killed1 := true }
  | .returned (some .setpgid1) | .returned (some .setpgid2) =>
      { Progress.both with killed1 := true, killed2 := true }
  | .clearCount _ => { Progress.both with heard := true }
  | .setaffinity _ | .cpuFree _ _ | .killGroup _ | .wake2 _ _ | .returned (some .setaffinity) =>
      Progress.awake
  | .wake1 _ _ => { Progress.awake with sent2 := true }
  | .wait1 _ _ | .wait2 _ _ | .print _ | .returned (some .setaffinityAfter) | .returned none =>
      { Progress.awake with sent1 := true, sent2 := true }

/-- The local variables hold what the system has answered. -/
def Fits (env : Environment) : ParentPoint → Prop
  | .read childPid1 | .closeRead childPid1 _ | .closeWrite childPid1 _ | .fork2 childPid1 _
  | .release childPid1 => childPid1 = env.fork1
  | .setpgid1 locals | .setpgid2 locals | .cpuAlloc locals | .loadCount locals | .pause locals
  | .clearCount locals | .setaffinity locals | .killGroup locals =>
      locals.childPid1 = env.fork1 ∧ locals.childPid2 = env.fork2
  | .kill1 locals failure | .kill2 locals failure =>
      (locals.childPid1 = env.fork1 ∧ locals.childPid2 = env.fork2) ∧
        (failure = .setpgid1 ∨ failure = .setpgid2)
  | .cpuFree locals _ => locals.childPid1 = env.fork1 ∧ locals.childPid2 = env.fork2
  | .wake2 locals result | .wake1 locals result | .wait1 locals result | .wait2 locals result =>
      (locals.childPid1 = env.fork1 ∧ locals.childPid2 = env.fork2) ∧ result ≠ -1
  | .print result => result ≠ -1
  | .sigaction | .pipe | .fork1 | .returned _ => True

end ParentPoint

namespace ChildPoint

/-- The handler for `SIGUSR1` is installed. -/
def armed : ChildPoint → Bool
  | .getpid | .sigaction _ => false
  | _ => true

/-- The parent has been notified. -/
def notified : ChildPoint → Bool
  | .getpid | .sigaction _ | .writeRegisters _ | .cpuBefore _ | .printBefore _ _ | .floatsBefore _
  | .showBefore _ | .prepare _ | .notify _ _ => false
  | _ => true

/-- The child has left its loop. -/
def released : ChildPoint → Bool
  | .cpuAfter _ | .printAfter _ _ | .floatsAfter _ | .showAfter | .closeRead | .closeWrite | .exit
  | .exited => true
  | _ => false

end ChildPoint

/-- The parent's own state. -/
structure ParentOk (progress : Progress) (notified : Bool) (state : ProcState) : Prop where
  usr1 : state.actions .usr1 = .default
  usr2 : state.actions .usr2 = if progress.armed then .handler .parent false else .default
  quiet1 : state.pending .usr1 = false
  quiet : state.pending .kill = false
  count : ∀ id, state.counts (.child id) = 0
  armed : notified = true → progress.armed = true
  wake : progress.cleared = false → Wake notified (state.pending .usr2) (state.counts .parent)
  cleared : progress.cleared = true → notified = true ∧ state.pending .usr2 = false
  heard : progress.heard = true → progress.cleared = false → state.counts .parent ≠ 0
  group : state.group.isSome = true
  ended : state.ended = none

/-- A child and what the parent has done to it. -/
structure ChildOk (handler : Handler) (forked sent killed : Bool) (state : ProcState)
    (point : Option ChildPoint) : Prop where
  born : point.isSome = forked
  group : state.group.isSome = forked
  action : state.actions .usr1 =
    if point.any (·.armed) = true ∧ state.counts handler = 0 then .handler handler true
    else .default
  wake : Wake sent (state.pending .usr1) (state.counts handler)
  quiet : state.pending .usr2 = false
  ready : sent = true → point.any (·.notified) = true
  released : point.any (·.released) = true → state.counts handler ≠ 0
  kill : state.pending .kill = true → killed = true
  doomed : killed = true → state.pending .kill = true ∨ state.ended.isSome = true
  running : state.ended = none → point ≠ some .exited
  exited : ∀ status, state.ended = some (.exited status) → status = 0 ∧ point = some .exited
  killed : ∀ signal, state.ended = some (.killed signal) → signal = .kill ∧ killed = true

section Child

variable {handler : Handler} {forked sent killed : Bool} {state : ProcState}
  {point next : ChildPoint}

/-- A step of a child that the others do not see. -/
theorem ChildOk.move (ok : ChildOk handler forked sent killed state (some point))
    (armed : next.armed = point.armed) (notified : next.notified = point.notified)
    (released : next.released = point.released) (continues : next ≠ .exited)
    (alive : state.ended = none) : ChildOk handler forked sent killed state (some next) where
  born := ok.born
  group := ok.group
  action := by
    rw [Option.any_some, armed]
    exact ok.action
  wake := ok.wake
  quiet := ok.quiet
  ready isSent := by
    rw [Option.any_some, notified]
    exact ok.ready isSent
  released isReleased := by
    rw [Option.any_some, released] at isReleased
    exact ok.released isReleased
  kill := ok.kill
  doomed := ok.doomed
  running _ := by simpa using continues
  exited status ended := by simp [alive] at ended
  killed signal ended := by simp [alive] at ended

/-- The child installs its handler. -/
theorem ChildOk.arm {pid : Int}
    (ok : ChildOk handler forked sent killed state (some (.sigaction pid)))
    (alive : state.ended = none) :
    ChildOk handler forked sent killed
      { state with actions := Function.update state.actions .usr1 (.handler handler true) }
      (some (.writeRegisters pid)) := by
  have unsent : sent = false := by
    by_contra isSent
    exact absurd (ok.ready (eq_true_of_ne_false isSent)) (by simp [ChildPoint.notified])
  have count : state.counts handler = 0 := (unsent ▸ ok.wake).count_of_unsent
  exact {
    born := ok.born
    group := ok.group
    action := by simp [ChildPoint.armed, count]
    wake := ok.wake
    quiet := ok.quiet
    ready := fun isSent => by simp [unsent] at isSent
    released := fun isReleased => by simp [ChildPoint.released] at isReleased
    kill := ok.kill
    doomed := ok.doomed
    running := fun _ => by simp
    exited := fun status ended => by simp [alive] at ended
    killed := fun signal ended => by simp [alive] at ended }

/-- The child has notified the parent. -/
theorem ChildOk.notify {pid value : Int}
    (ok : ChildOk handler forked sent killed state (some (.notify pid value)))
    (alive : state.ended = none) :
    ChildOk handler forked sent killed state (some (.loadCount pid)) where
  born := ok.born
  group := ok.group
  action := ok.action
  wake := ok.wake
  quiet := ok.quiet
  ready _ := rfl
  released isReleased := by simp [ChildPoint.released] at isReleased
  kill := ok.kill
  doomed := ok.doomed
  running _ := by simp
  exited status ended := by simp [alive] at ended
  killed signal ended := by simp [alive] at ended

/-- The child finds its counter set. -/
theorem ChildOk.release {pid : Int}
    (ok : ChildOk handler forked sent killed state (some (.loadCount pid)))
    (counted : state.counts handler ≠ 0) (alive : state.ended = none) :
    ChildOk handler forked sent killed state (some (.cpuAfter pid)) where
  born := ok.born
  group := ok.group
  action := ok.action
  wake := ok.wake
  quiet := ok.quiet
  ready _ := rfl
  released _ := counted
  kill := ok.kill
  doomed := ok.doomed
  running _ := by simp
  exited status ended := by simp [alive] at ended
  killed signal ended := by simp [alive] at ended

/-- The child exits. -/
theorem ChildOk.exit (ok : ChildOk handler forked sent killed state (some .exit)) :
    ChildOk handler forked sent killed { state with ended := some (.exited 0) }
      (some .exited) where
  born := ok.born
  group := ok.group
  action := ok.action
  wake := ok.wake
  quiet := ok.quiet
  ready _ := rfl
  released _ := ok.released rfl
  kill := ok.kill
  doomed _ := Or.inr rfl
  running alive := by cases alive
  exited status ended := by
    cases ended
    exact ⟨rfl, rfl⟩
  killed signal ended := by cases ended

variable {child : Option ChildPoint}

/-- A child to which nothing has been sent is running, or it has not been forked. -/
theorem ChildOk.alive (ok : ChildOk handler forked false false state child) :
    state.ended = none := by
  cases ended : state.ended with
  | none => rfl
  | some ending =>
      cases ending with
      | exited status =>
          have isExited := (ok.exited status ended).2
          have counted := ok.released (by rw [isExited]; rfl)
          exact absurd ok.wake.count_of_unsent counted
      | killed signal => cases (ok.killed signal ended).2

/-- The parent sends `SIGUSR1` to a child that has notified it. -/
theorem ChildOk.send (ok : ChildOk handler forked false killed state child)
    (notified : child.any (·.notified) = true) :
    ChildOk handler forked true killed
      { state with pending := Function.update state.pending .usr1 true } child where
  born := ok.born
  group := ok.group
  action := ok.action
  wake := by simpa using ok.wake.send
  quiet := by simpa using ok.quiet
  ready _ := notified
  released := ok.released
  kill := by simpa using ok.kill
  doomed := by simpa using ok.doomed
  running := ok.running
  exited := ok.exited
  killed := ok.killed

/-- The parent sends `SIGKILL` to a child. -/
theorem ChildOk.sendKill (ok : ChildOk handler forked sent killed state child) :
    ChildOk handler forked sent true
      { state with pending := Function.update state.pending .kill true } child where
  born := ok.born
  group := ok.group
  action := ok.action
  wake := by simpa using ok.wake
  quiet := by simpa using ok.quiet
  ready := ok.ready
  released := ok.released
  kill _ := rfl
  doomed _ := by simp
  running := ok.running
  exited := ok.exited
  killed signal ended := ⟨(ok.killed signal ended).1, rfl⟩

/-- The group of a child does not matter. -/
theorem ChildOk.setGroup {group : Option Int} (ok : ChildOk handler forked sent killed state child)
    (exists_ : group.isSome = state.group.isSome) :
    ChildOk handler forked sent killed { state with group := group } child :=
  { ok with group := exists_.trans ok.group }

theorem armed_of_notified (notified : child.any (·.notified) = true) :
    child.any (·.armed) = true := by
  cases child with
  | none => cases notified
  | some point =>
      cases point with
      | getpid => cases notified
      | sigaction pid => cases notified
      | _ => rfl

/-- `SIGUSR1` arrives at its handler. -/
theorem ChildOk.handleUsr1 (ok : ChildOk handler forked sent killed state child)
    (pending : state.pending .usr1 = true) :
    ChildOk handler forked sent killed (state.handle .usr1) child := by
  have wake := ok.wake
  rw [pending] at wake
  obtain ⟨isSent, count, counted⟩ := wake.handle
  have action : state.actions .usr1 = .handler handler true := by
    rw [ok.action, if_pos ⟨armed_of_notified (ok.ready isSent), count⟩]
  have isState : state.handle .usr1 =
      { state with
        pending := Function.update state.pending .usr1 false
        actions := Function.update state.actions .usr1 .default
        counts := Function.update state.counts handler (state.counts handler + 1) } := by
    simp [ProcState.handle, ProcState.action, action, Disposition.next]
  rw [isState]
  exact {
    born := ok.born
    group := ok.group
    action := by simp [count]
    wake := by simpa using counted
    quiet := by simpa using ok.quiet
    ready := ok.ready
    released := fun _ => by simp [count]
    kill := by simpa using ok.kill
    doomed := by simpa using ok.doomed
    running := ok.running
    exited := ok.exited
    killed := ok.killed }

/-- `SIGKILL` arrives. -/
theorem ChildOk.handleKill (ok : ChildOk handler forked sent killed state child)
    (pending : state.pending .kill = true) :
    ChildOk handler forked sent killed (state.handle .kill) child where
  born := ok.born
  group := ok.group
  action := ok.action
  wake := by simpa [ProcState.handle, ProcState.action] using ok.wake
  quiet := by simpa [ProcState.handle, ProcState.action] using ok.quiet
  ready := ok.ready
  released := ok.released
  kill stillPending := by simp [ProcState.handle, ProcState.action] at stillPending
  doomed _ := Or.inr (by simp [ProcState.handle, ProcState.action])
  running ended := by simp [ProcState.handle, ProcState.action] at ended
  exited status ended := by simp [ProcState.handle, ProcState.action] at ended
  killed signal ended := by
    cases ended
    exact ⟨rfl, ok.kill pending⟩

/-- A signal arrives at a child. -/
theorem ChildOk.handle {signal : Signal} (ok : ChildOk handler forked sent killed state child)
    (pending : state.pending signal = true) :
    ChildOk handler forked sent killed (state.handle signal) child := by
  cases signal with
  | usr1 => exact ok.handleUsr1 pending
  | usr2 =>
      rw [ok.quiet] at pending
      cases pending
  | kill => exact ok.handleKill pending

end Child

section Parent

variable {progress : Progress} {notified : Bool} {state : ProcState}

/-- `SIGUSR2` arrives at the parent, which gets no other signal. -/
theorem ParentOk.handle {signal : Signal} (ok : ParentOk progress notified state)
    (pending : state.pending signal = true) : ParentOk progress notified (state.handle signal) := by
  cases signal with
  | usr1 =>
      rw [ok.quiet1] at pending
      cases pending
  | kill =>
      rw [ok.quiet] at pending
      cases pending
  | usr2 =>
      have uncleared : progress.cleared = false := by
        by_contra cleared
        rw [(ok.cleared (eq_true_of_ne_false cleared)).2] at pending
        cases pending
      have wake := ok.wake uncleared
      rw [pending] at wake
      obtain ⟨isNotified, count, counted⟩ := wake.handle
      have action : state.actions .usr2 = .handler .parent false := by
        rw [ok.usr2, if_pos (ok.armed isNotified)]
      have isState : state.handle .usr2 =
          { state with
            pending := Function.update state.pending .usr2 false
            actions := Function.update state.actions .usr2 (.handler .parent false)
            counts := Function.update state.counts .parent (state.counts .parent + 1) } := by
        simp [ProcState.handle, ProcState.action, action, Disposition.next]
      rw [isState]
      exact {
        usr1 := by simpa using ok.usr1
        usr2 := by simp [ok.armed isNotified]
        quiet1 := by simpa using ok.quiet1
        quiet := by simpa using ok.quiet
        count := by simpa using ok.count
        armed := ok.armed
        wake := fun _ => by simpa using counted
        cleared := fun cleared => by simp [uncleared] at cleared
        heard := fun _ _ => by simp [count]
        group := ok.group
        ended := ok.ended }

/-- The second child sends `SIGUSR2`. -/
theorem ParentOk.receive (ok : ParentOk progress false state) (armed : progress.armed = true) :
    ParentOk progress true
      { state with pending := Function.update state.pending .usr2 true } where
  usr1 := ok.usr1
  usr2 := ok.usr2
  quiet1 := by simpa using ok.quiet1
  quiet := by simpa using ok.quiet
  count := ok.count
  armed _ := armed
  wake uncleared := by simpa using (ok.wake uncleared).send
  cleared isCleared := by simpa using (ok.cleared isCleared).1
  heard := ok.heard
  group := ok.group
  ended := ok.ended

/-- The parent has done something that does not concern its own signals. -/
theorem ParentOk.advance {next : Progress} (ok : ParentOk progress notified state)
    (armed : next.armed = progress.armed) (heard : next.heard = progress.heard)
    (cleared : next.cleared = progress.cleared) : ParentOk next notified state where
  usr1 := ok.usr1
  usr2 := by
    rw [armed]
    exact ok.usr2
  quiet1 := ok.quiet1
  quiet := ok.quiet
  count := ok.count
  armed isNotified := by
    rw [armed]
    exact ok.armed isNotified
  wake uncleared := ok.wake (cleared ▸ uncleared)
  cleared isCleared := ok.cleared (cleared ▸ isCleared)
  heard isHeard uncleared := ok.heard (heard ▸ isHeard) (cleared ▸ uncleared)
  group := ok.group
  ended := ok.ended

/-- The parent installs its handler. -/
theorem ParentOk.arm (ok : ParentOk {} notified state) :
    ParentOk { armed := true } notified
      { state with actions := Function.update state.actions .usr2 (.handler .parent false) } where
  usr1 := by simpa using ok.usr1
  usr2 := by simp
  quiet1 := ok.quiet1
  quiet := ok.quiet
  count := ok.count
  armed _ := rfl
  wake := ok.wake
  cleared := ok.cleared
  heard := ok.heard
  group := ok.group
  ended := ok.ended

/-- The parent clears its counter after it has been found set. -/
theorem ParentOk.clear (ok : ParentOk progress notified state) (heard : progress.heard = true)
    (uncleared : progress.cleared = false) :
    ParentOk { progress with cleared := true } notified
      { state with counts := Function.update state.counts .parent 0 } where
  usr1 := ok.usr1
  usr2 := ok.usr2
  quiet1 := ok.quiet1
  quiet := ok.quiet
  count := by simpa using ok.count
  armed := ok.armed
  wake impossible := by cases impossible
  cleared _ := by
    obtain ⟨isNotified, idle, -⟩ := (ok.wake uncleared).sent_of_count (ok.heard heard uncleared)
    exact ⟨isNotified, idle⟩
  heard _ impossible := by cases impossible
  group := ok.group
  ended := ok.ended

/-- A child has the dispositions and the counters of the parent. -/
theorem ParentOk.fork (ok : ParentOk progress notified state) (id : ChildId) :
    ChildOk (.child id) true false false state.forked (some .getpid) where
  born := rfl
  group := ok.group
  action := ok.usr1
  wake := by
    change Wake false false (state.counts (.child id))
    rw [ok.count]
    exact .idle
  quiet := rfl
  ready isSent := by cases isSent
  released isReleased := by cases isReleased
  kill pending := by cases pending
  doomed isKilled := by cases isKilled
  running _ := by simp
  exited status ended := by
    rw [ProcState.forked, ok.ended] at ended
    cases ended
  killed signal ended := by
    rw [ProcState.forked, ok.ended] at ended
    cases ended

end Parent

/-- The state of all processes agrees with what the parent has done. -/
structure Accounts (env : Environment) (world : World) (parent : ParentPoint)
    (children : ChildId → Option ChildPoint) : Prop where
  fits : parent.Fits env
  forked : ∀ id, parent.progress.forked id = true → env.fork id ≠ -1
  parentOk : ParentOk parent.progress ((children .second).any (·.notified)) (world.procs .parent)
  childOk : ∀ id, ChildOk (.child id) (parent.progress.forked id) (parent.progress.sent id)
    (parent.progress.killed id) (world.procs (.child id)) (children id)
  queue : world.queue.length + parent.progress.read.toNat =
    ((children .first).any (·.notified)).toNat
  groups : ∀ proc pgid, (world.procs proc).group = some pgid →
    pgid = env.parentGroup ∨ pgid = env.fork1
  ppid : ∀ curPid value, children .second = some (.notify curPid value) → value = env.parentPid

@[simp]
theorem World.set_self (world : World) (proc : Proc) (state : ProcState) :
    (world.set proc state).procs proc = state :=
  Function.update_self _ _ _

theorem World.set_of_ne (world : World) {proc other : Proc} (state : ProcState)
    (different : other ≠ proc) : (world.set proc state).procs other = world.procs other :=
  Function.update_of_ne different _ _

section Kill

variable {env : Environment} {world : World}

theorem Environment.fork_valid (env : Environment) (id : ChildId) :
    env.fork id = -1 ∨
      1 < env.fork id ∧ env.fork id ≠ env.parentPid ∧ env.fork id ≠ env.parentGroup := by
  cases id with
  | first => exact env.fork1_valid
  | second => exact env.fork2_valid.imp_right fun ⟨large, other, group, _⟩ => ⟨large, other, group⟩

/-- Different children have different ids. -/
theorem Environment.fork_injective {id other : ChildId} (forked : env.fork id ≠ -1)
    (same : env.fork other = env.fork id) : other = id := by
  have different : env.fork2 = -1 ∨ env.fork2 ≠ env.fork1 :=
    env.fork2_valid.imp_right fun valid => valid.2.2.2
  cases id <;> cases other <;> simp only [Environment.fork] at forked same ⊢ <;> omega

theorem Environment.pidOf_eq_fork {id : ChildId} (forked : env.fork id ≠ -1) :
    1 < env.fork id ∧ ∀ proc, env.pidOf proc = env.fork id → proc = .child id := by
  have valid := (env.fork_valid id).resolve_left forked
  refine ⟨valid.1, fun proc same => ?_⟩
  cases proc with
  | parent => exact absurd same.symm valid.2.1
  | child other => rw [Environment.fork_injective forked same]

theorem Environment.pidOf_eq_parentPid (proc : Proc) (same : env.pidOf proc = env.parentPid) :
    proc = .parent := by
  have positive := env.parentPid_pos
  cases proc with
  | parent => rfl
  | child id =>
      have same : env.fork id = env.parentPid := same
      rcases env.fork_valid id with failed | valid
      · omega
      · exact absurd same valid.2.1

/-- `kill` of one process. -/
theorem World.kill_eq_set {caller target : Proc} {pid : Int} {signal : Signal}
    (isPid : env.pidOf target = pid) (positive : 0 < pid)
    (unique : ∀ proc, env.pidOf proc = pid → proc = target)
    (exists_ : (world.procs target).group.isSome = true)
    (alive : (world.procs target).ended = none) :
    world.kill env caller pid signal = world.set target
      { world.procs target with
        pending := Function.update (world.procs target).pending signal true } := by
  simp only [World.kill, World.set, World.mk.injEq, and_true]
  funext proc
  simp only [addresses_pid _ _ positive]
  by_cases same : proc = target
  · subst same
    rw [if_pos ⟨exists_, alive, isPid⟩, Function.update_self]
  · rw [if_neg (fun addressed => same (unique proc addressed.2.2)), Function.update_of_ne same]

/-- `kill` of a group that does not exist. -/
theorem World.kill_eq_self {caller : Proc} {pgid : Int} {signal : Signal} (large : 1 < pgid)
    (nobody : ∀ proc, (world.procs proc).group ≠ some pgid) :
    world.kill env caller (-pgid) signal = world := by
  have same : (world.kill env caller (-pgid) signal).procs = world.procs := by
    funext proc
    simp only [World.kill, addresses_group _ _ large]
    exact if_neg fun addressed => nobody proc addressed.2.2
  change World.mk (world.kill env caller (-pgid) signal).procs world.queue = world
  rw [same]

end Kill

section ParentSteps

variable {env : Environment} {numOfCpus : Int} {world after : World} {parent next : ParentPoint}
  {children : ChildId → Option ChildPoint}

/-- A step of the parent that changes nothing. -/
theorem Accounts.stay (accounts : Accounts env world parent children) (fits : next.Fits env)
    (same : next.progress = parent.progress) : Accounts env world next children := by
  obtain ⟨-, forked, parentOk, childOk, queue, groups, ppid⟩ := accounts
  rw [← same] at forked parentOk childOk queue
  exact ⟨fits, forked, parentOk, childOk, queue, groups, ppid⟩

/-- `setpgid` changes the groups of the children. -/
theorem Accounts.setpgid {pid pgid : Int} (accounts : Accounts env world parent children)
    (isChild : pid ≠ env.parentPid) (isGroup : pgid = env.fork1) :
    Accounts env (world.setpgid env pid pgid) parent children := by
  have regroup : ∀ proc, (world.setpgid env pid pgid).procs proc =
      { world.procs proc with group := ((world.setpgid env pid pgid).procs proc).group } := by
    intro proc
    simp only [World.setpgid]
    split <;> rfl
  have kept : ∀ proc, ((world.setpgid env pid pgid).procs proc).group.isSome =
      (world.procs proc).group.isSome := by
    intro proc
    simp only [World.setpgid]
    split
    · rename_i own
      exact own.2.symm
    · rfl
  refine ⟨accounts.fits, accounts.forked, ?_, fun id => ?_, accounts.queue, ?_, accounts.ppid⟩
  · have same : (world.setpgid env pid pgid).procs .parent = world.procs .parent :=
      if_neg fun own => isChild own.1.symm
    rw [same]
    exact accounts.parentOk
  · rw [regroup]
    exact (accounts.childOk id).setGroup (kept (.child id))
  · intro proc group found
    simp only [World.setpgid] at found
    split at found
    · exact Or.inr ((Option.some.inj found).symm.trans isGroup)
    · exact accounts.groups proc group found

section Set

variable {state : ProcState}

/-- What the groups of the processes can be after a change of one process. -/
theorem groups_set (proc : Proc)
    (groups : ∀ proc pgid, (world.procs proc).group = some pgid →
      pgid = env.parentGroup ∨ pgid = env.fork1)
    (group : ∀ pgid, state.group = some pgid → pgid = env.parentGroup ∨ pgid = env.fork1) :
    ∀ other pgid, ((world.set proc state).procs other).group = some pgid →
      pgid = env.parentGroup ∨ pgid = env.fork1 := by
  intro other pgid found
  by_cases same : other = proc
  · subst same
    rw [World.set_self] at found
    exact group pgid found
  · rw [World.set_of_ne world state same] at found
    exact groups other pgid found

/-- The parent's own state changes. -/
theorem Accounts.setParent (accounts : Accounts env world parent children)
    (fits : next.Fits env)
    (same : next.progress = { parent.progress with
      armed := next.progress.armed, heard := next.progress.heard,
      cleared := next.progress.cleared })
    (ok : ParentOk next.progress ((children .second).any (·.notified)) state)
    (group : state.group = (world.procs .parent).group) :
    Accounts env (world.set .parent state) next children := by
  obtain ⟨-, forked, -, childOk, queue, groups, ppid⟩ := accounts
  have alike : next.progress.forked = parent.progress.forked ∧
      next.progress.sent = parent.progress.sent ∧
      next.progress.killed = parent.progress.killed ∧
      next.progress.read = parent.progress.read := by
    rw [same]
    exact ⟨rfl, rfl, rfl, rfl⟩
  obtain ⟨sameForked, sameSent, sameKilled, sameRead⟩ := alike
  refine ⟨fits, ?_, ok, ?_, ?_, groups_set _ groups fun pgid found => ?_, ppid⟩
  · rwa [sameForked]
  · rwa [sameForked, sameSent, sameKilled]
  · rwa [sameRead]
  · exact groups .parent pgid (group ▸ found)

/-- A child moves, or the parent does something to it. -/
theorem Accounts.setChild {id : ChildId} {forked sent killed : Bool} {child : Option ChildPoint}
    (accounts : Accounts env world parent children) (fits : next.Fits env)
    (same : next.progress = parent.progress.set forked sent killed id)
    (isForked : forked = true → env.fork id ≠ -1)
    (ok : ChildOk (.child id) forked sent killed state child)
    (group : ∀ pgid, state.group = some pgid → pgid = env.parentGroup ∨ pgid = env.fork1)
    (notified : child.any (·.notified) = (children id).any (·.notified))
    (ppid : id = .second → ∀ curPid value, child = some (.notify curPid value) →
      value = env.parentPid) :
    Accounts env (world.set (.child id) state) next (Function.update children id child) := by
  have alike : ∀ other, (Function.update children id child other).any (·.notified) =
      (children other).any (·.notified) := by
    intro other
    by_cases isOwn : other = id
    · subst isOwn
      rwa [Function.update_self]
    · rw [Function.update_of_ne isOwn]
  refine ⟨fits, fun other => ?_, ?_, fun other => ?_, ?_, groups_set _ accounts.groups group,
    fun curPid value reached => ?_⟩
  · rw [same, Progress.set_forked]
    by_cases isOwn : other = id
    · subst isOwn
      rwa [Function.update_self]
    · rw [Function.update_of_ne isOwn]
      exact accounts.forked other
  · rw [same, alike]
    exact accounts.parentOk.advance (Progress.set_armed ..) (Progress.set_heard ..)
      (Progress.set_cleared ..)
  · rw [same, Progress.set_forked, Progress.set_sent, Progress.set_killed]
    by_cases isOwn : other = id
    · subst isOwn
      simpa only [Function.update_self, World.set_self] using ok
    · rw [world.set_of_ne state (fun same => isOwn (Proc.child.inj same))]
      simpa only [Function.update_of_ne isOwn] using accounts.childOk other
  · rw [same, alike, Progress.set_read]
    exact accounts.queue
  · by_cases isOwn : id = .second
    · subst isOwn
      rw [Function.update_self] at reached
      exact ppid rfl curPid value reached
    · rw [Function.update_of_ne (Ne.symm isOwn)] at reached
      exact accounts.ppid curPid value reached

/-- The parent signals a child. -/
theorem Accounts.signal {id : ChildId} {sent killed : Bool}
    (accounts : Accounts env world parent children) (fits : next.Fits env)
    (same : next.progress = parent.progress.set (parent.progress.forked id) sent killed id)
    (ok : ChildOk (.child id) (parent.progress.forked id) sent killed state (children id))
    (group : state.group = (world.procs (.child id)).group) :
    Accounts env (world.set (.child id) state) next children := by
  have signalled := accounts.setChild fits same (accounts.forked id) ok
    (fun pgid found => accounts.groups (.child id) pgid (group ▸ found)) rfl
    (fun isSecond => isSecond ▸ accounts.ppid)
  rwa [Function.update_eq_self] at signalled

end Set

section Sends

variable (accounts : Accounts env world parent children)
include accounts

/-- `kill` of a child. -/
theorem Accounts.kill_child {id : ChildId} {pid : Int} {signal : Signal} (isPid : pid = env.fork id)
    (forked : parent.progress.forked id = true)
    (alive : (world.procs (.child id)).ended = none) :
    world.kill env .parent pid signal = world.set (.child id)
      { world.procs (.child id) with
        pending := Function.update (world.procs (.child id)).pending signal true } := by
  subst isPid
  obtain ⟨large, unique⟩ := Environment.pidOf_eq_fork (accounts.forked id forked)
  exact World.kill_eq_set rfl (by omega) unique ((accounts.childOk id).group.trans forked) alive

/-- What the first child has written has been read only after it was written. -/
theorem Accounts.notified1 (read : parent.progress.read = true) :
    (children .first).any (·.notified) = true := by
  have queue := accounts.queue
  rw [read] at queue
  by_contra unnotified
  rw [Bool.not_eq_true] at unnotified
  simp [unnotified] at queue

end Sends

/-- The parent reads the notification of the first child. -/
theorem Accounts.read {childPid1 result : Int}
    (accounts : Accounts env world (.read childPid1) children)
    (performed : performRunning env world .parent .read result = some after) :
    Accounts env after (.closeRead childPid1 result) children := by
  obtain ⟨fits, forked, parentOk, childOk, queue, groups, ppid⟩ := accounts
  simp only [performRunning] at performed
  cases isQueue : world.queue with
  | nil => simp [isQueue] at performed
  | cons value rest =>
      rw [isQueue] at performed queue
      obtain ⟨-, ⟨⟩⟩ := Option.ite_none_right_eq_some.mp performed
      refine ⟨fits, ?_, parentOk.advance rfl rfl rfl, ?_, queue, groups, ppid⟩
      · exact forked
      · exact childOk

/-- `kill` of the group of the second child finds nobody. -/
theorem Accounts.kill_group (accounts : Accounts env world parent children) {signal : Signal}
    (forked : parent.progress.forked2 = true) :
    world.kill env .parent (-env.fork2) signal = world := by
  have valid := env.fork2_valid.resolve_left (accounts.forked .second forked)
  apply World.kill_eq_self valid.1
  intro proc found
  rcases accounts.groups proc _ found with same | same
  · exact valid.2.2.1 same
  · exact valid.2.2.2 same

/-- The parent finds its counter set. -/
theorem Accounts.hear {locals : Locals}
    (accounts : Accounts env world (.loadCount locals) children)
    (counted : (world.procs .parent).counts .parent ≠ 0) :
    Accounts env world (.clearCount locals) children := by
  obtain ⟨fits, forked, parentOk, childOk, queue, groups, ppid⟩ := accounts
  exact ⟨fits, forked, { parentOk with heard := fun _ _ => counted }, childOk, queue, groups, ppid⟩

/-- A call of the parent that forks nobody. -/
theorem Accounts.parent_step {op : Op} {next : Res op → ParentPoint} {result : Res op}
    (accounts : Accounts env world parent children)
    (isNode : parentNode numOfCpus parent = .call op next) (single : ∀ child, op ≠ .fork child)
    (performed : performRunning env world .parent op result = some after) :
    Accounts env after (next result) children := by
  have fits := accounts.fits
  have parentOk := accounts.parentOk
  have first := accounts.childOk .first
  have second := accounts.childOk .second
  cases parent with
  | sigaction =>
      cases isNode
      cases performed
      exact accounts.setParent trivial rfl parentOk.arm rfl
  | pipe =>
      cases isNode
      obtain ⟨-, ⟨⟩⟩ := Option.ite_none_right_eq_some.mp performed
      beta_reduce
      split
      · exact accounts.stay trivial rfl
      · exact accounts.stay trivial rfl
  | fork1 =>
      cases isNode
      exact absurd rfl (single .first)
  | read childPid1 =>
      cases isNode
      exact accounts.read performed
  | closeRead childPid1 cpuidChild1 =>
      cases isNode
      cases performed
      exact accounts.stay fits rfl
  | closeWrite childPid1 cpuidChild1 =>
      cases isNode
      cases performed
      exact accounts.stay fits rfl
  | fork2 childPid1 cpuidChild1 =>
      cases isNode
      exact absurd rfl (single .second)
  | release childPid1 =>
      cases isNode
      cases performed
      cases fits
      rw [accounts.kill_child (rfl : env.fork1 = env.fork .first) rfl first.alive]
      exact accounts.signal trivial rfl (first.send (accounts.notified1 rfl)) rfl
  | setpgid1 locals =>
      cases isNode
      obtain ⟨-, ⟨⟩⟩ := Option.ite_none_right_eq_some.mp performed
      beta_reduce
      split
      · exact accounts.stay ⟨fits, Or.inl rfl⟩ rfl
      · have valid := env.fork1_valid.resolve_left (accounts.forked .first rfl)
        exact (accounts.setpgid (fits.1 ▸ valid.2.1) fits.1).stay fits rfl
  | setpgid2 locals =>
      cases isNode
      obtain ⟨-, ⟨⟩⟩ := Option.ite_none_right_eq_some.mp performed
      beta_reduce
      split
      · exact accounts.stay ⟨fits, Or.inr rfl⟩ rfl
      · have valid := env.fork2_valid.resolve_left (accounts.forked .second rfl)
        exact (accounts.setpgid (fits.2 ▸ valid.2.1) fits.1).stay fits rfl
  | kill1 locals failure =>
      cases isNode
      cases performed
      rw [accounts.kill_child (fits.1.1 : _ = env.fork .first) rfl first.alive]
      exact accounts.signal fits rfl first.sendKill rfl
  | kill2 locals failure =>
      cases isNode
      cases performed
      rw [accounts.kill_child (fits.1.2 : _ = env.fork .second) rfl second.alive]
      rcases fits.2 with rfl | rfl
      · exact accounts.signal trivial rfl second.sendKill rfl
      · exact accounts.signal trivial rfl second.sendKill rfl
  | cpuAlloc locals =>
      cases isNode
      obtain ⟨-, ⟨⟩⟩ := Option.ite_none_right_eq_some.mp performed
      cases result with
      | true => exact accounts.stay fits rfl
      | false => exact accounts.stay trivial rfl
  | loadCount locals =>
      cases isNode
      obtain ⟨isResult, ⟨⟩⟩ := Option.ite_none_right_eq_some.mp performed
      beta_reduce
      split
      · exact accounts.stay fits rfl
      · rename_i counted
        exact accounts.hear (isResult ▸ counted)
  | pause locals =>
      cases isNode
      cases performed
      exact accounts.stay fits rfl
  | clearCount locals =>
      cases isNode
      cases performed
      exact accounts.setParent fits rfl (parentOk.clear rfl rfl) rfl
  | setaffinity locals =>
      cases isNode
      obtain ⟨-, ⟨⟩⟩ := Option.ite_none_right_eq_some.mp performed
      exact accounts.stay fits rfl
  | cpuFree locals result =>
      cases isNode
      cases performed
      beta_reduce
      split
      · exact accounts.stay fits rfl
      · rename_i success
        exact accounts.stay ⟨fits, success⟩ rfl
  | killGroup locals =>
      cases isNode
      cases performed
      rw [fits.2, accounts.kill_group rfl]
      exact accounts.stay trivial rfl
  | wake2 locals result =>
      cases isNode
      cases performed
      rw [accounts.kill_child (fits.1.2 : _ = env.fork .second) rfl second.alive]
      exact accounts.signal fits rfl (second.send (parentOk.cleared rfl).1) rfl
  | wake1 locals result =>
      cases isNode
      cases performed
      rw [accounts.kill_child (fits.1.1 : _ = env.fork .first) rfl first.alive]
      exact accounts.signal fits rfl (first.send (accounts.notified1 rfl)) rfl
  | wait1 locals result =>
      cases isNode
      obtain ⟨-, ⟨⟩⟩ := Option.ite_none_right_eq_some.mp performed
      exact accounts.stay fits rfl
  | wait2 locals result =>
      cases isNode
      obtain ⟨-, ⟨⟩⟩ := Option.ite_none_right_eq_some.mp performed
      exact accounts.stay fits.2 rfl
  | print result =>
      cases isNode
      cases performed
      beta_reduce
      split
      · exact accounts.stay trivial rfl
      · exact accounts.stay trivial rfl
  | returned failure => cases isNode

end ParentSteps

end McKernelTest.SchedSetaffinity.Wakeup
