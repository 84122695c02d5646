import McKernelTest.SchedSetaffinity.WakeupInvariant

/-!
# The verdict of `sched_setaffinity#10`

What the run function returns is decided by what the system answers; the children and their
signals have no influence on it.  Which processes have ended when it returns depends on the
verdict: only `waitpid` makes sure of that.
-/

namespace McKernelTest.SchedSetaffinity.Wakeup

open Posix Process Transition

section Verdict

variable (env : Environment) (numOfCpus : Int)

/-- The verdict from the call of `sched_setaffinity` on. -/
def affinityVerdict (result : Int) : Option Failure :=
  if result = -1 then some .setaffinity else none

/-- The verdict from `CPU_ALLOC` on. -/
def allocVerdict : Option Failure :=
  if env.cpuAlloc then affinityVerdict env.setaffinity else some .cpuAlloc

/-- The verdict from the second `setpgid` on. -/
def setpgid2Verdict : Option Failure :=
  if env.setpgid env.fork2 = -1 then some .setpgid2 else allocVerdict env

/-- The verdict from the first `setpgid` on. -/
def setpgid1Verdict : Option Failure :=
  if env.setpgid env.fork1 = -1 then some .setpgid1 else setpgid2Verdict env

/-- The verdict from the second `fork` on. -/
def fork2Verdict : Option Failure :=
  if env.fork2 = -1 then some .fork2 else setpgid1Verdict env

/-- The verdict from the first `fork` on. -/
def fork1Verdict : Option Failure :=
  if env.fork1 = -1 then some .fork1 else fork2Verdict env

/-- The verdict from the call of `pipe` on. -/
def pipeVerdict : Option Failure :=
  if env.pipe ≠ -1 then fork1Verdict env else some .pipe

/-- The verdict of the test case. -/
def verdict : Option Failure :=
  if numOfCpus ≠ 0 then pipeVerdict env else some .numOfCpus

/-- What the run function is going to return. -/
def ParentPoint.verdict : ParentPoint → Option Failure
  | .sigaction | .pipe => pipeVerdict env
  | .fork1 => fork1Verdict env
  | .read _ | .closeRead _ _ | .closeWrite _ _ | .fork2 _ _ => fork2Verdict env
  | .release _ => some .fork2
  | .setpgid1 _ => setpgid1Verdict env
  | .setpgid2 _ => setpgid2Verdict env
  | .kill1 _ failure | .kill2 _ failure => some failure
  | .cpuAlloc _ => allocVerdict env
  | .loadCount _ | .pause _ | .clearCount _ | .setaffinity _ => affinityVerdict env.setaffinity
  | .cpuFree _ result => affinityVerdict result
  | .killGroup _ => some .setaffinity
  | .wake2 _ _ | .wake1 _ _ | .wait1 _ _ | .wait2 _ _ | .print _ => none
  | .returned failure => failure

theorem runFunc_verdict : (runFunc numOfCpus).verdict env = verdict env numOfCpus := by
  unfold runFunc verdict
  split <;> rfl

end Verdict

section Steps

variable {env : Environment} {numOfCpus : Int} {world after : World} {parent : ParentPoint}
  {children : ChildId → Option ChildPoint} {op : Op} {result : Res op}

/-- No call of the parent changes the verdict. -/
theorem Accounts.verdict_step {next : Res op → ParentPoint}
    (accounts : Accounts env world parent children)
    (isNode : parentNode numOfCpus parent = .call op next)
    (performed : performRunning env world .parent op result = some after) :
    (next result).verdict env = parent.verdict env := by
  have fits := accounts.fits
  cases parent with
  | pipe =>
      cases isNode
      obtain ⟨rfl, -⟩ := Option.ite_none_right_eq_some.mp performed
      exact apply_ite (ParentPoint.verdict env) _ _ _
  | fork1 =>
      cases isNode
      obtain ⟨rfl, -⟩ := Option.ite_none_right_eq_some.mp performed
      exact apply_ite (ParentPoint.verdict env) _ _ _
  | fork2 childPid1 cpuidChild1 =>
      cases isNode
      obtain ⟨rfl, -⟩ := Option.ite_none_right_eq_some.mp performed
      exact apply_ite (ParentPoint.verdict env) _ _ _
  | setpgid1 locals =>
      cases isNode
      obtain ⟨rfl, -⟩ := Option.ite_none_right_eq_some.mp performed
      rw [fits.1]
      exact apply_ite (ParentPoint.verdict env) _ _ _
  | setpgid2 locals =>
      cases isNode
      obtain ⟨rfl, -⟩ := Option.ite_none_right_eq_some.mp performed
      rw [fits.2]
      exact apply_ite (ParentPoint.verdict env) _ _ _
  | cpuAlloc locals =>
      cases isNode
      obtain ⟨rfl, -⟩ := Option.ite_none_right_eq_some.mp performed
      exact apply_ite (ParentPoint.verdict env) _ _ _
  | loadCount locals =>
      cases isNode
      beta_reduce
      split <;> rfl
  | setaffinity locals =>
      cases isNode
      obtain ⟨rfl, -⟩ := Option.ite_none_right_eq_some.mp performed
      rfl
  | cpuFree locals result =>
      cases isNode
      exact apply_ite (ParentPoint.verdict env) _ _ _
  | print affinity =>
      cases isNode
      have success : affinity ≠ -1 := fits
      beta_reduce
      rw [if_pos success]
      rfl
  | returned failure => cases isNode
  | _ =>
      cases isNode
      rfl

/-! ## Waiting for the children -/

/-- The child has been waited for. -/
def ParentPoint.waited : ParentPoint → ChildId → Bool
  | .wait2 _ _, .first | .print _, _ | .returned none, _ => true
  | _, _ => false

/-- The children that have been waited for have ended. -/
def Waited (parent : ParentPoint) (world : World) : Prop :=
  ∀ id, parent.waited id = true → (world.procs (.child id)).ended.isSome = true

/-- A call changes only how its own process has ended, unless it is a fork. -/
theorem ended_of_performRunning {proc other : Proc} (single : ∀ child, op ≠ .fork child)
    (different : other ≠ proc) (performed : performRunning env world proc op result = some after) :
    (after.procs other).ended = (world.procs other).ended := by
  cases op with
  | fork child => exact absurd rfl (single child)
  | sigaction =>
      cases performed
      rw [world.set_of_ne _ different]
  | clearCount =>
      cases performed
      rw [world.set_of_ne _ different]
  | exit =>
      cases performed
      rw [world.set_of_ne _ different]
  | kill pid signal =>
      cases performed
      simp only [World.kill]
      split <;> rfl
  | setpgid pid pgid =>
      obtain ⟨-, ⟨⟩⟩ := Option.ite_none_right_eq_some.mp performed
      split
      · rfl
      · simp only [World.setpgid]
        split <;> rfl
  | read =>
      simp only [performRunning] at performed
      split at performed
      · cases performed
      · obtain ⟨-, ⟨⟩⟩ := Option.ite_none_right_eq_some.mp performed
        rfl
  | pipe | getpid | getppid | loadCount | cpuAlloc | schedSetaffinity | waitpid =>
      obtain ⟨-, ⟨⟩⟩ := Option.ite_none_right_eq_some.mp performed
      rfl
  | getCpuId | writeRegisters | showExtendedRegisters | printf | write | close | cpuPause
  | cpuFree =>
      cases performed
      rfl

/-- `waitpid` of a child returns if the child has ended. -/
theorem Accounts.canWait_iff {id : ChildId} {pid : Int}
    (accounts : Accounts env world parent children) (isPid : pid = env.fork id)
    (forked : parent.progress.forked id = true) :
    world.canWait env pid = true ↔ (world.procs (.child id)).ended.isSome = true := by
  subst isPid
  have unique : ∀ other, env.fork other = env.fork id → other = id :=
    fun other => Environment.fork_injective (accounts.forked id forked)
  simp only [World.canWait, List.any_cons, List.any_nil, Bool.or_false, Bool.or_eq_true,
    Bool.and_eq_true, decide_eq_true_eq]
  constructor
  · rintro (⟨same, ended⟩ | ⟨same, ended⟩)
    · rwa [← unique _ same]
    · rwa [← unique _ same]
  · intro ended
    cases id with
    | first => exact Or.inl ⟨rfl, ended⟩
    | second => exact Or.inr ⟨rfl, ended⟩

theorem Waited.of_unwaited {parent : ParentPoint} {world : World}
    (unwaited : ∀ id, parent.waited id = false) : Waited parent world := by
  intro id isWaited
  rw [unwaited id] at isWaited
  cases isWaited

/-- A call of the parent. -/
theorem Accounts.waited_step {next : Res op → ParentPoint}
    (accounts : Accounts env world parent children) (waited : Waited parent world)
    (isNode : parentNode numOfCpus parent = .call op next)
    (performed : performRunning env world .parent op result = some after) :
    Waited (next result) after := by
  have fits := accounts.fits
  cases parent with
  | wait1 locals affinity =>
      cases isNode
      obtain ⟨found, ⟨⟩⟩ := Option.ite_none_right_eq_some.mp performed
      intro id isWaited
      cases id with
      | first => exact (accounts.canWait_iff fits.1.1 rfl).mp found
      | second => cases isWaited
  | wait2 locals affinity =>
      cases isNode
      obtain ⟨found, ⟨⟩⟩ := Option.ite_none_right_eq_some.mp performed
      intro id isWaited
      cases id with
      | first => exact waited .first rfl
      | second => exact (accounts.canWait_iff fits.1.2 rfl).mp found
  | print affinity =>
      cases isNode
      cases performed
      have success : affinity ≠ -1 := fits
      beta_reduce
      rw [if_pos success]
      exact fun id _ => waited id rfl
  | pipe | fork1 | fork2 | setpgid1 | setpgid2 | cpuAlloc | loadCount | cpuFree =>
      cases isNode
      beta_reduce
      split
      · exact Waited.of_unwaited fun _ => rfl
      · exact Waited.of_unwaited fun _ => rfl
  | returned failure => cases isNode
  | _ =>
      cases isNode
      exact Waited.of_unwaited fun _ => rfl

/-- A step that leaves the processes that have ended as they are. -/
theorem Waited.keep (waited : Waited parent world)
    (kept : ∀ proc, (world.procs proc).ended.isSome = true →
      (after.procs proc).ended.isSome = true) : Waited parent after :=
  fun id isWaited => kept (.child id) (waited id isWaited)

end Steps

end McKernelTest.SchedSetaffinity.Wakeup
