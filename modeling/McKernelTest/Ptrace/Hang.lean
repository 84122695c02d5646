import McKernelTest.Ptrace.Core

/-!
# The rendezvous of the ptrace test cases

Both processes owe each other a post: the child before it waits on `cwait`, the
parent between its wait on `pwait` and its wait for the child's end.  A failing
`PTRACE_TRACEME` makes the child leave without its post, and a failing `kill`
or `PTRACE_ATTACH` makes the parent leave without its own.  No other failure
can hang the test cases.
-/

namespace McKernelTest.Ptrace

open Posix Process Transition

/-- The process stands at a `sem_wait` on a semaphore that is 0. -/
def Blocked (config : PtraceConfig) (role : Role) (sem : Sem) : Prop :=
  config.world sem = 0 ∧ ∃ next, config.code role = some (.call (.semWait sem) next)

/-- The parent stands at a `wait`. -/
def WaitsForChild (config : PtraceConfig) : Prop :=
  ∃ next, config.code .parent = some (.call .wait next)

/-- Some process can still post the semaphore. -/
def CanPost (config : PtraceConfig) (sem : Sem) : Prop :=
  ∃ trace target role done,
    Run system.step config (trace ++ [.call role (.semPost sem) done]) target

/-- The parent is blocked in `sem_wait(pwait)`, or the child is blocked in
`sem_wait(cwait)` while the parent waits for it, and nobody can ever post. -/
def Hangs (config : PtraceConfig) : Prop :=
  Blocked config .parent .pwait ∧ ¬CanPost config .pwait ∨
    Blocked config .child .cwait ∧ WaitsForChild config ∧ ¬CanPost config .cwait

/-- A failure that the rendezvous does not survive: of `PTRACE_TRACEME` in the
child, or of the `kill` or `PTRACE_ATTACH` before the parent's post. -/
@[simp]
def traceFailed : (op : Op) → Res op → Bool
  | .ptrace .traceme _ _ _, result => result.value ≠ 0
  | .ptrace .attach _ _ _, result => result.value ≠ 0
  | .kill _ _, result => result ≠ 0
  | _, _ => false

/-- The steps on which the rendezvous can rely. -/
def isTraced : PtraceEvent → Bool
  | .call _ op result => !traceFailed op result
  | .external _ => true

/-- The runs in which the child is traced. -/
def traced : Guard PtraceConfig PtraceEvent :=
  fun _ event => isTraced event

instance (config : PtraceConfig) (event : PtraceEvent) : Decidable (traced config event) :=
  inferInstanceAs (Decidable (isTraced event = true))

/-! ## The protocol of the two processes -/

/-- How far a process is in the rendezvous. -/
inductive Stage where
  | single
  | childFirst
  | childPosted
  | childResumed
  | parentFirst
  | parentOwing
  | parentPosted

namespace Stage

/-- The stage of the process that sees the given result of `fork`. -/
def afterFork (pid : Int) : Stage :=
  if pid = 0 then .childFirst else if pid = -1 then .single else .parentFirst

/-- The stage after a post. -/
@[simp]
def afterPost : Stage → Stage
  | .childFirst => .childPosted
  | .parentOwing => .parentPosted
  | stage => stage

/-- The stage after a wait. -/
@[simp]
def afterWait : Stage → Stage
  | .childPosted => .childResumed
  | .parentFirst => .parentOwing
  | stage => stage

/-- The process still has to post. -/
@[simp]
def pending : Stage → Bool
  | .childFirst | .parentFirst | .parentOwing => true
  | _ => false

end Stage

/-- The calls that leave the semaphores alone and do not wait. -/
@[simp]
def Op.quiet : Op → Bool
  | .mmap _ | .munmap _ | .kill _ _ | .ptrace _ _ _ _ | .getOrDoInst _ | .perror _
  | .printf _ _ => true
  | .semInit _ | .semPost _ | .semWait _ | .fork | .wait => false

/-- The calls of a process in each stage. -/
@[simp]
def allowed (op : Op) : Stage → Prop
  | .single => op.quiet ∨ op = .fork ∨ ∃ sem, op = .semInit sem
  | .childFirst => op.quiet ∨ op = .semPost .pwait
  | .childPosted => op.quiet ∨ op = .semWait .cwait
  | .childResumed => op.quiet
  | .parentFirst => op = .semWait .pwait
  | .parentOwing => op.quiet ∨ op = .semPost .cwait
  | .parentPosted => op.quiet ∨ op = .wait

/-- The stage after a call.  Nothing is said about the failures that the
rendezvous does not survive. -/
@[simp]
def stageAfter (stage : Stage) : (op : Op) → Res op → Option Stage
  | .fork, pid => some (.afterFork pid)
  | .semPost _, _ => some stage.afterPost
  | .semWait _, _ => some stage.afterWait
  | op, result => if traceFailed op result then none else some stage

/-- The rendezvous as a protocol. -/
def protocol : Protocol Stage Op Res :=
  ⟨fun stage op => allowed op stage, stageAfter⟩

@[simp]
theorem protocol_accepts (stage : Stage) (op : Op) :
    protocol.accepts stage op = allowed op stage :=
  rfl

@[simp]
theorem protocol_after (stage : Stage) (op : Op) (result : Res op) :
    protocol.after stage op result = stageAfter stage op result :=
  rfl

/-- A process ends when it does not owe a post. -/
def finished (stage : Stage) (_ : Ending) : Prop :=
  stage.pending = false

/-- Where `child_func` ends. -/
def childDone (stage : Stage) (_ : Int) : Prop :=
  stage = .childPosted ∨ stage = .childResumed

/-- Where `parent_func` ends. -/
def parentDone (stage : Stage) (_ : Int) : Prop :=
  stage = .parentPosted

theorem childFunc1_follows : protocol.Follows childDone (childFunc1 .cwait .pwait) .childFirst := by
  simp +contextual [childFunc1, childDone]

theorem childFunc17_follows :
    protocol.Follows childDone (childFunc17 .cwait .pwait) .childFirst := by
  simp +contextual [childFunc17, childDone]

theorem childFunc20_follows :
    protocol.Follows childDone (childFunc20 .cwait .pwait) .childFirst := by
  simp [childFunc20, childDone]

theorem parentFunc1_follows (cpid : Int) :
    protocol.Follows parentDone (parentFunc1 .pwait .cwait cpid) .parentFirst := by
  simp +contextual [parentFunc1, parentDone]

theorem parentFunc20_follows (cpid : Int) :
    protocol.Follows parentDone (parentFunc20 .pwait .cwait cpid) .parentFirst := by
  simp +contextual [parentFunc20, parentDone]

theorem continueChild_follows (cpid ret : Int) :
    protocol.Follows parentDone (continueChild cpid ret) .parentPosted := by
  simp [continueChild, parentDone]

theorem checkSigInfo_follows {cpid : Int} {readVal : CLong} {info : SigInfo}
    {next : Program Int} (follows : protocol.Follows parentDone next .parentPosted) :
    protocol.Follows parentDone (checkSigInfo cpid readVal info next) .parentPosted := by
  simp [checkSigInfo, continueChild_follows, follows]

theorem singleStepLoop_follows (cpid : Int) (i : Nat) (readVal : CLong) (remaining : Nat) :
    protocol.Follows parentDone (singleStepLoop cpid i readVal remaining) .parentPosted := by
  induction remaining generalizing i readVal with
  | zero => exact continueChild_follows cpid 0
  | succ remaining ih =>
      simp [singleStepLoop, continueChild_follows, checkSigInfo_follows, ih, parentDone]

theorem afterBreak_follows (cpid : Int) (readVal instVal : CLong) :
    protocol.Follows parentDone (afterBreak cpid readVal instVal) .parentPosted := by
  simp [afterBreak, continueChild_follows, singleStepLoop_follows, parentDone]

theorem afterStop_follows (addr : CLong) (cpid : Int) :
    protocol.Follows parentDone (afterStop addr cpid) .parentPosted := by
  simp [afterStop, continueChild_follows, afterBreak_follows, parentDone]

theorem parentFunc17_follows (addr : CLong) (cpid : Int) :
    protocol.Follows parentDone (parentFunc17 addr .pwait .cwait cpid) .parentFirst := by
  simp +contextual [parentFunc17, afterStop_follows, parentDone]

theorem childBranch_follows {childFunc : Sem → Sem → Program Int}
    (childFollows : protocol.Follows childDone (childFunc .cwait .pwait) .childFirst)
    (ret : CInt) :
    protocol.Follows finished (childBranch childFunc ret) .childFirst := by
  apply childFollows.bind
  intro stage _ done
  rcases done with rfl | rfl
  all_goals
    simp [finished]

theorem parentBranch_follows {parentFunc : Sem → Sem → Int → Program Int} {pid : Int}
    (parentFollows : protocol.Follows parentDone (parentFunc .pwait .cwait pid) .parentFirst)
    (ret : CInt) :
    protocol.Follows finished (parentBranch parentFunc ret pid) .parentFirst := by
  apply parentFollows.bind
  intro stage _ done
  subst done
  simp [finished]

theorem runFunc_follows {childFunc : Sem → Sem → Program Int}
    {parentFunc : Sem → Sem → Int → Program Int}
    (childFollows : protocol.Follows childDone (childFunc .cwait .pwait) .childFirst)
    (parentFollows : ∀ cpid,
      protocol.Follows parentDone (parentFunc .pwait .cwait cpid) .parentFirst) :
    protocol.Follows finished (runFunc childFunc parentFunc) .single := by
  have afterFork : ∀ (ret : CInt) (pid : Int), ¬pid = -1 →
      (pid = 0 → protocol.Follows finished (childBranch childFunc ret) (.afterFork pid)) ∧
      (¬pid = 0 → protocol.Follows finished (parentBranch parentFunc ret pid)
        (.afterFork pid)) := by
    intro ret pid forked
    constructor
    · intro inChild
      simpa [Stage.afterFork, inChild] using childBranch_follows childFollows ret
    · intro inParent
      simpa [Stage.afterFork, inParent, forked] using parentBranch_follows (parentFollows pid) ret
  have failed : Stage.afterFork (-1) = .single := rfl
  simp +contextual [runFunc, finished, failed, afterFork]

theorem run_follows (test : PtraceTest) : protocol.Follows finished test.run .single := by
  cases test with
  | ptrace1 => exact runFunc_follows childFunc1_follows parentFunc1_follows
  | ptrace17 addr => exact runFunc_follows childFunc17_follows (parentFunc17_follows addr)
  | ptrace20 => exact runFunc_follows childFunc20_follows parentFunc20_follows

/-! ## The semaphores between the processes -/

namespace Stage

/-- The posts a process has made. -/
def posted : Stage → Nat
  | .childPosted | .childResumed | .parentPosted => 1
  | _ => 0

/-- The waits a process has passed. -/
def woken : Stage → Nat
  | .childResumed | .parentOwing | .parentPosted => 1
  | _ => 0

/-- The process a stage belongs to. -/
def role : Stage → Option Role
  | .single => none
  | .childFirst | .childPosted | .childResumed => some .child
  | .parentFirst | .parentOwing | .parentPosted => some .parent

end Stage

/-- Each semaphore holds the posts of one process that the other has not
waited for yet. -/
def Settled (counts : Sem → Nat) (parent : Stage) : Option Stage → Prop
  | none => parent = .single ∧ counts .pwait = 0 ∧ counts .cwait = 0
  | some child =>
      parent.role = some .parent ∧ child.role = some .child ∧
        counts .pwait + parent.woken = child.posted ∧
        counts .cwait + child.woken = parent.posted

/-- What every traced run keeps. -/
def Invariant (config : PtraceConfig) : Prop :=
  ∃ parent child, protocol.Tracks finished (family parent child) config.code ∧
    Settled config.world parent child

section Step

variable {config : PtraceConfig} {op : Op} {result : Res op} {next : Res op → Program Ending}
  {counts : Sem → Nat}

theorem perform_quiet {role : Role} (quiet : op.quiet = true)
    (performed : perform config.world role op result = some counts) : counts = config.world := by
  cases op <;> first | contradiction | (cases performed; rfl)

theorem spawn_quiet (role : Role) (quiet : op.quiet = true) : spawn role op result next = none := by
  cases op <;> first | contradiction | rfl

theorem stageAfter_quiet {stage : Stage} (quiet : op.quiet = true)
    (survived : traceFailed op result = false) : stageAfter stage op result = some stage := by
  cases op <;>
    first | contradiction | simp only [stageAfter, survived, Bool.false_eq_true, if_false]

theorem advance_parent {parent following : Stage} {child : Option Stage}
    (tracks : protocol.Tracks finished (family parent child) config.code)
    (found : config.code .parent = some (.call op next))
    (after : stageAfter parent op result = some following)
    (single : spawn .parent op result next = none)
    (settled : Settled counts following child) :
    Invariant ⟨counts, system.resume config.code .parent op result next⟩ := by
  exact ⟨following, child, tracks_parent system tracks found after single, settled⟩

theorem advance_child {parent child following : Stage}
    (tracks : protocol.Tracks finished (family parent (some child)) config.code)
    (found : config.code .child = some (.call op next))
    (after : stageAfter child op result = some following)
    (single : spawn .child op result next = none)
    (settled : Settled counts parent (some following)) :
    Invariant ⟨counts, system.resume config.code .child op result next⟩ := by
  exact ⟨parent, some following, tracks_child system tracks found after single, settled⟩

/-- A step of the parent that touches no semaphore. -/
theorem parent_quiet {parent : Stage} {child : Option Stage}
    (tracks : protocol.Tracks finished (family parent child) config.code)
    (settled : Settled config.world parent child)
    (found : config.code .parent = some (.call op next))
    (survived : traceFailed op result = false) (quiet : op.quiet = true)
    (performed : perform config.world .parent op result = some counts) :
    Invariant ⟨counts, system.resume config.code .parent op result next⟩ := by
  rw [perform_quiet quiet performed]
  exact advance_parent tracks found (stageAfter_quiet quiet survived) (spawn_quiet _ quiet) settled

/-- A step of the child that touches no semaphore. -/
theorem child_quiet {parent child : Stage}
    (tracks : protocol.Tracks finished (family parent (some child)) config.code)
    (settled : Settled config.world parent (some child))
    (found : config.code .child = some (.call op next))
    (survived : traceFailed op result = false) (quiet : op.quiet = true)
    (performed : perform config.world .child op result = some counts) :
    Invariant ⟨counts, system.resume config.code .child op result next⟩ := by
  rw [perform_quiet quiet performed]
  exact advance_child tracks found (stageAfter_quiet quiet survived) (spawn_quiet _ quiet) settled

/-- A step of the parent after the fork. -/
theorem parent_step {parent child : Stage}
    (tracks : protocol.Tracks finished (family parent (some child)) config.code)
    (settled : Settled config.world parent (some child))
    (found : config.code .parent = some (.call op next))
    (survived : traceFailed op result = false)
    (performed : perform config.world .parent op result = some counts) :
    Invariant ⟨counts, system.resume config.code .parent op result next⟩ := by
  rcases tracks.call found with ⟨stage, stageEq, accepted, -⟩
  cases stageEq
  rcases settled with ⟨parentRole, childRole, pwaitCount, cwaitCount⟩
  have kept : Settled config.world parent (some child) :=
    ⟨parentRole, childRole, pwaitCount, cwaitCount⟩
  cases parent with
  | parentFirst =>
      cases accepted
      rcases (semWaitOn_eq_some_iff _ _ _).mp performed with ⟨positive, rfl⟩
      apply advance_parent tracks found rfl rfl
      refine ⟨rfl, childRole, ?_, ?_⟩
      · simp only [Function.update_self, Stage.afterWait, Stage.woken] at pwaitCount ⊢
        omega
      · exact cwaitCount
  | parentOwing =>
      rcases accepted with quiet | rfl
      · exact parent_quiet tracks kept found survived quiet performed
      · cases performed
        apply advance_parent tracks found rfl rfl
        refine ⟨rfl, childRole, ?_, ?_⟩
        · exact pwaitCount
        · simp only [semPostOn, Function.update_self, Stage.afterPost, Stage.posted] at cwaitCount ⊢
          omega
  | parentPosted =>
      rcases accepted with quiet | rfl
      · exact parent_quiet tracks kept found survived quiet performed
      · cases performed
        exact advance_parent tracks found rfl rfl kept
  | _ => contradiction

/-- A step of the child. -/
theorem child_step {parent child : Stage}
    (tracks : protocol.Tracks finished (family parent (some child)) config.code)
    (settled : Settled config.world parent (some child))
    (found : config.code .child = some (.call op next))
    (survived : traceFailed op result = false)
    (performed : perform config.world .child op result = some counts) :
    Invariant ⟨counts, system.resume config.code .child op result next⟩ := by
  rcases tracks.call found with ⟨stage, stageEq, accepted, -⟩
  cases stageEq
  rcases settled with ⟨parentRole, childRole, pwaitCount, cwaitCount⟩
  have kept : Settled config.world parent (some child) :=
    ⟨parentRole, childRole, pwaitCount, cwaitCount⟩
  cases child with
  | childFirst =>
      rcases accepted with quiet | rfl
      · exact child_quiet tracks kept found survived quiet performed
      · cases performed
        apply advance_child tracks found rfl rfl
        refine ⟨parentRole, rfl, ?_, ?_⟩
        · simp only [semPostOn, Function.update_self, Stage.afterPost, Stage.posted] at pwaitCount ⊢
          omega
        · exact cwaitCount
  | childPosted =>
      rcases accepted with quiet | rfl
      · exact child_quiet tracks kept found survived quiet performed
      · rcases (semWaitOn_eq_some_iff _ _ _).mp performed with ⟨positive, rfl⟩
        apply advance_child tracks found rfl rfl
        refine ⟨parentRole, rfl, ?_, ?_⟩
        · exact pwaitCount
        · simp only [Function.update_self, Stage.afterWait, Stage.woken] at cwaitCount ⊢
          omega
  | childResumed => exact child_quiet tracks kept found survived accepted performed
  | _ => contradiction

/-- The fork: it fails, or it leaves two processes that owe each other a
post. -/
theorem fork_step {pid : Int} {next : Int → Program Ending}
    (tracks : protocol.Tracks finished (family .single none) config.code)
    (settled : Settled config.world .single none)
    (found : config.code .parent = some (.call .fork next))
    (performed : perform config.world .parent .fork pid = some counts) :
    Invariant ⟨counts, system.resume config.code .parent .fork pid next⟩ := by
  have accepted : isForkResult pid = true ∧ config.world = counts := by
    simpa [perform] using performed
  rcases accepted with ⟨accepted, rfl⟩
  rcases (isForkResult_iff pid).mp accepted with rfl | started
  · exact advance_parent tracks found rfl rfl settled
  · rcases tracks.call found with ⟨stage, stageEq, -, follows⟩
    cases stageEq
    have parentAfter : stageAfter .single .fork pid = some .parentFirst := by
      have notChild : pid ≠ 0 := by omega
      have notFailed : pid ≠ -1 := by omega
      simp [Stage.afterFork, notChild, notFailed]
    have spawned : system.spawn .parent .fork pid next = some (.child, next (0 : Int)) :=
      if_pos started
    have both := tracks_fork system tracks found parentAfter spawned
      (follows (0 : Int) .childFirst rfl)
    exact ⟨.parentFirst, some .childFirst, both, rfl, rfl, settled.2.1, settled.2.2⟩

/-- A step of the only process before the fork. -/
theorem single_step
    (tracks : protocol.Tracks finished (family .single none) config.code)
    (settled : Settled config.world .single none)
    (found : config.code .parent = some (.call op next))
    (survived : traceFailed op result = false)
    (performed : perform config.world .parent op result = some counts) :
    Invariant ⟨counts, system.resume config.code .parent op result next⟩ := by
  rcases tracks.call found with ⟨stage, stageEq, accepted, -⟩
  cases stageEq
  rcases accepted with quiet | rfl | ⟨sem, rfl⟩
  · exact parent_quiet tracks settled found survived quiet performed
  · exact fork_step tracks settled found performed
  · cases performed
    apply advance_parent tracks found rfl rfl
    rcases settled with ⟨-, pwaitZero, cwaitZero⟩
    refine ⟨rfl, ?_, ?_⟩ <;> cases sem <;> split <;> simp [pwaitZero, cwaitZero]

theorem invariant_step {event : PtraceEvent} {target : PtraceConfig}
    (invariant : Invariant config) (guarded : traced config event)
    (step : system.step config event = some target) : Invariant target := by
  cases event with
  | external cause => exact cause.elim
  | call role op result =>
      rcases (System.step_call_eq_some_iff _ _ _ _ _ _).mp step with
        ⟨next, counts, found, performed, rfl⟩
      rcases invariant with ⟨parent, child, tracks, settled⟩
      have survived : traceFailed op result = false := by simpa [traced, isTraced] using guarded
      cases child with
      | none =>
          rcases settled with ⟨rfl, counted⟩
          cases role with
          | parent => exact single_step tracks ⟨rfl, counted⟩ found survived performed
          | child =>
              rcases tracks.call found with ⟨stage, stageEq, -⟩
              cases stageEq
      | some child =>
          cases role with
          | parent => exact parent_step tracks settled found survived performed
          | child => exact child_step tracks settled found survived performed

end Step

theorem start_invariant (test : PtraceTest) : Invariant (start test) :=
  ⟨.single, none, tracks_single (run_follows test), rfl, rfl, rfl⟩

/-! ## No hang -/

theorem perform_of_quiet (counts : Sem → Nat) (role : Role) {op : Op} (quiet : op.quiet = true)
    (result : Res op) : perform counts role op result = some counts := by
  cases op <;> first | contradiction | rfl

/-- Every call that touches no semaphore has a result the rendezvous
survives. -/
theorem exists_survived {op : Op} (quiet : op.quiet = true) :
    ∃ result, traceFailed op result = false := by
  cases op with
  | ptrace request pid addr data =>
      refine ⟨⟨0, 0, ⟨0, 0, 0, 0⟩⟩, ?_⟩
      cases request <;> rfl
  | kill pid signal => exact ⟨0, rfl⟩
  | mmap sem => exact ⟨0, rfl⟩
  | munmap sem => exact ⟨0, rfl⟩
  | getOrDoInst mode => exact ⟨0, rfl⟩
  | perror text => exact ⟨(), rfl⟩
  | printf format values => exact ⟨(), rfl⟩
  | _ => contradiction

/-- A child that has not posted yet gets to its post without any help. -/
theorem canPost_of_childFirst {code : Program Ending} {config : PtraceConfig}
    (found : config.code .child = some code)
    (follows : protocol.Follows finished code .childFirst) : CanPost config .pwait := by
  induction code generalizing config with
  | ret value => contradiction
  | call op next ih =>
      rcases follows with ⟨accepted, continues⟩
      rcases accepted with quiet | rfl
      · rcases exists_survived quiet with ⟨result, survived⟩
        let target : PtraceConfig :=
          ⟨config.world, system.resume config.code .child op result next⟩
        have step : system.step config (.call .child op result) = some target :=
          (System.step_call_eq_some_iff _ _ _ _ _ _).mpr
            ⟨next, _, found, perform_of_quiet _ .child quiet result, rfl⟩
        have resumed : target.code .child = some (next result) := by
          have single : system.spawn .child op result next = none := spawn_quiet .child quiet
          simp only [target, System.resume_self single, Function.update_self]
        rcases ih result resumed (continues result _ (stageAfter_quiet quiet survived)) with
          ⟨trace, target, role, done, run⟩
        exact ⟨_ :: trace, target, role, done, (GuardedRun.single trivial step).append run⟩
      · have step : system.step config (.call .child (.semPost .pwait) ()) =
            some ⟨semPostOn config.world .pwait,
              system.resume config.code .child (.semPost .pwait) () next⟩ :=
          (System.step_call_eq_some_iff _ _ _ _ _ _).mpr ⟨next, _, found, rfl, rfl⟩
        exact ⟨[], _, .child, (), GuardedRun.single trivial step⟩

/-- Only a parent at the start of `parent_func` waits on `pwait`. -/
theorem eq_parentFirst_of_allowed {stage : Stage} (accepted : allowed (.semWait .pwait) stage) :
    stage = .parentFirst := by
  cases stage <;> simp at accepted ⊢

/-- Only a child that has posted waits on `cwait`. -/
theorem eq_childPosted_of_allowed {stage : Stage} (accepted : allowed (.semWait .cwait) stage) :
    stage = .childPosted := by
  cases stage <;> simp at accepted ⊢

/-- Only a parent that has posted waits for the child. -/
theorem eq_parentPosted_of_allowed {stage : Stage} (accepted : allowed .wait stage) :
    stage = .parentPosted := by
  cases stage <;> simp at accepted ⊢

/-- While the parent waits on an empty `pwait`, the child can still post. -/
theorem canPost_of_blocked {parent : Stage} {child : Option Stage} {config : PtraceConfig}
    (tracks : protocol.Tracks finished (family parent child) config.code)
    (settled : Settled config.world parent child) (blocked : Blocked config .parent .pwait) :
    CanPost config .pwait := by
  rcases blocked with ⟨empty, next, found⟩
  rcases tracks.call found with ⟨stage, stageEq, accepted, -⟩
  cases stageEq
  cases eq_parentFirst_of_allowed accepted
  cases child with
  | none => cases settled.1
  | some child =>
      rcases settled with ⟨-, childRole, pwaitCount, -⟩
      have tracked := tracks .child
      cases child with
      | childFirst =>
          cases childFound : config.code .child with
          | none =>
              rw [childFound] at tracked
              cases tracked
          | some code =>
              rw [childFound] at tracked
              cases tracked with
              | some follows => exact canPost_of_childFirst childFound follows
      | childPosted => simp [empty, Stage.woken, Stage.posted] at pwaitCount
      | childResumed => simp [empty, Stage.woken, Stage.posted] at pwaitCount
      | _ => cases childRole

/-- A child that waits while the parent waits for it finds `cwait` posted. -/
theorem posted_of_waiting {parent : Stage} {child : Option Stage} {config : PtraceConfig}
    (tracks : protocol.Tracks finished (family parent child) config.code)
    (settled : Settled config.world parent child) (waiting : WaitsForChild config)
    {next : Unit → Program Ending}
    (found : config.code .child = some (.call (.semWait .cwait) next)) :
    config.world .cwait = 1 := by
  rcases waiting with ⟨parentNext, parentFound⟩
  rcases tracks.call parentFound with ⟨stage, stageEq, accepted, -⟩
  cases stageEq
  cases eq_parentPosted_of_allowed accepted
  rcases tracks.call found with ⟨stage, stageEq, accepted, -⟩
  cases stageEq
  cases eq_childPosted_of_allowed accepted
  exact settled.2.2.2

theorem Invariant.not_hangs {config : PtraceConfig} (invariant : Invariant config) :
    ¬Hangs config := by
  rcases invariant with ⟨parent, child, tracks, settled⟩
  rintro (⟨blocked, stuck⟩ | ⟨⟨empty, next, found⟩, waiting, -⟩)
  · exact stuck (canPost_of_blocked tracks settled blocked)
  · have posted := posted_of_waiting tracks settled waiting found
    omega

/-- No run of the test cases in which the child is traced reaches a hang. -/
theorem rendezvous_never_hangs (test : PtraceTest) (trace : List PtraceEvent)
    (config : PtraceConfig)
    (run : GuardedRun system.step traced (start test) trace config) : ¬Hangs config := by
  have invariant := run.preserves (start_invariant test)
    fun _ _ _ kept guarded step => invariant_step kept guarded step
  exact invariant.not_hangs

/-- A ptrace result with the given value. -/
def answer (value : CLong) : PtraceResult :=
  ⟨value, 0, ⟨0, 0, 0, 0⟩⟩

/-- The common start of a test case with child 5. -/
def forked : List PtraceEvent :=
  [.call .parent (.mmap .pwait) (4096 : Nat), .call .parent (.mmap .cwait) (8192 : Nat),
    .call .parent (.semInit .pwait) (0 : CInt), .call .parent (.semInit .cwait) (0 : CInt),
    .call .parent .fork (5 : Int)]

/-- Both processes of `ptrace#1` get past their waits. -/
def rendezvous : List PtraceEvent :=
  forked ++ [.call .child (.ptrace .traceme 0 0 0) (answer 0), .call .child (.semPost .pwait) (),
    .call .parent (.semWait .pwait) (), .call .parent (.kill 5 sigstop) (0 : CInt),
    .call .parent (.semPost .cwait) (), .call .child (.semWait .cwait) ()]

theorem rendezvous_never_hangs_ptrace1 : ∃ config,
    Run system.step (start .ptrace1) rendezvous config ∧ ¬Hangs config :=
  ⟨_, GuardedRun.of_execute rfl,
    rendezvous_never_hangs .ptrace1 rendezvous _ (GuardedRun.of_execute rfl)⟩

/-- `PTRACE_TRACEME` fails in `ptrace#1`; the child exits. -/
def untraced : List PtraceEvent :=
  forked ++ [.call .child (.ptrace .traceme 0 0 0) (answer (-1)),
    .call .child (.perror "ptrace(PTRACE_TRACEME)") (), .call .child (.munmap .cwait) (0 : CInt),
    .call .child (.munmap .pwait) (0 : CInt)]

/-- A parent blocked on a semaphore and a child that has exited are stuck. -/
theorem stuck_of_exited {config : PtraceConfig} {sem : Sem} {ending : Ending}
    (blocked : Blocked config .parent sem) (exited : config.code .child = some (.ret ending))
    (event : PtraceEvent) : system.step config event = none := by
  apply System.step_eq_none_of_refused
  intro role op next result found
  cases role with
  | parent =>
      rcases blocked with ⟨empty, blockedNext, blockedFound⟩
      cases blockedFound.symm.trans found
      exact semWaitOn_eq_none empty
  | child => cases exited.symm.trans found

/-- With a failed `PTRACE_TRACEME` the child exits without its post and the
parent waits for ever. -/
theorem untraced_child_hangs : ∃ trace config,
    Run system.step (start .ptrace1) trace config ∧ Hangs config := by
  refine ⟨untraced, _, GuardedRun.of_execute rfl, Or.inl ⟨⟨rfl, _, rfl⟩, ?_⟩⟩
  rintro ⟨trace, target, role, done, run⟩
  have ended := run.eq_nil_of_stuck (stuck_of_exited ⟨rfl, _, rfl⟩ rfl)
  simp at ended

end McKernelTest.Ptrace
