import McKernelTest.CpuProcLimits.Core

/-!
# The protocol of `cpu_proc_limits#0`

The parent's stage says which children exist, which answers it has read and
which write end of an answer pipe it still holds.  In the loop it holds at most
the one of the child it is starting; the write end of the last child stays open
when the loop is left.
-/

namespace McKernelTest.CpuProcLimits

open Posix Process

/-- How far a child is. -/
inductive Phase where
  | waiting
  | kicked
  | answered
  | leaving
  deriving DecidableEq

/-- How far a process is.  A parent in stage `parent lo hi write` has started
the children below `hi`, has read the answers below `lo`, and holds no write
end of an answer pipe but `write`. -/
inductive Stage where
  | parent (lo hi : Nat) (write : Option Nat)
  | piping (hi : Nat)
  | ready (hi : Nat)
  | lost
  | child (id : Nat) (phase : Phase)

/-- The calls that involve neither pipes nor processes. -/
@[simp]
def Op.quiet : Op → Bool
  | .getrlimit | .setrlimit _ | .calloc _ | .free | .sleep _ | .getpid | .printf _ _ => true
  | _ => false

/-- The descriptors a parent may close: those of answered children, and those
it has no use for. -/
def closable (lo : Nat) : Fd → Prop
  | ⟨.p2c i, .writeEnd⟩ | ⟨.c2p i, .readEnd⟩ => i < lo
  | ⟨.p2c _, .readEnd⟩ | ⟨.c2p _, .writeEnd⟩ => True

/-- The write end that remains after a close. -/
def release (write : Option Nat) : Fd → Option Nat
  | ⟨.c2p i, .writeEnd⟩ => if write = some i then none else write
  | _ => write

/-- The calls of a process in each stage; `last` is the last child. -/
@[simp]
def allowed (last : Nat) (op : Op) : Stage → Prop
  | .parent lo hi write =>
      match op with
      | .pipe name => name = .p2c hi ∧ lo = 0 ∧ write = none
      | .close fd => closable lo fd
      | .read fd _ => fd = c2pRead lo ∧ write = some last
      | .write fd _ => ∃ i, fd = p2cWrite i
      | op => op.quiet = true
  | .piping hi => op = .pipe (.c2p hi)
  | .ready hi => op = .fork hi
  | .lost =>
      match op with
      | .pipe _ | .close _ => True
      | op => op.quiet = true
  | .child id phase =>
      match op with
      | .close _ => True
      | .read fd count => phase = .waiting ∧ fd = p2cRead id ∧ 0 < count
      | .write fd data => phase = .kicked ∧ fd = c2pWrite id ∧ data ≠ []
      | .exit _ => phase = .answered ∨ phase = .leaving
      | op => op.quiet = true

/-- The stage after the `fork` of child `hi`. -/
def afterFork (hi : Nat) (pid : Int) : Stage :=
  if pid = 0 then .child hi .waiting else if pid < 0 then .lost else .parent 0 (hi + 1) (some hi)

/-- The stage after a call. -/
@[simp]
def stageAfter : Stage → (op : Op) → Res op → Stage
  | .parent _ hi _, .pipe _, result => if result = -1 then .lost else .piping hi
  | .parent lo hi write, .close fd, _ => .parent lo hi (release write fd)
  | .parent lo hi write, .read _ _, _ => .parent (lo + 1) hi write
  | .piping hi, .pipe _, result => if result = -1 then .lost else .ready hi
  | .ready hi, .fork _, pid => afterFork hi pid
  | .child id _, .read _ _, bytes => .child id (if bytes = [] then .leaving else .kicked)
  | .child id _, .write _ _, _ => .child id .answered
  | stage, _, _ => stage

/-- The test case as a protocol. -/
def protocol (last : Nat) : Protocol Stage Op Res :=
  ⟨fun stage op => allowed last op stage, fun stage op result => some (stageAfter stage op result)⟩

@[simp]
theorem protocol_accepts (last : Nat) (stage : Stage) (op : Op) :
    (protocol last).accepts stage op = allowed last op stage :=
  rfl

@[simp]
theorem protocol_after (last : Nat) (stage : Stage) (op : Op) (result : Res op) :
    (protocol last).after stage op result = some (stageAfter stage op result) :=
  rfl

/-- Nothing is asked of a process that has ended. -/
def finished (_ : Stage) (_ : Ending) : Prop :=
  True

section Follows

variable {last : Nat}

theorem childFn_follows (id : Nat) :
    (protocol last).Follows
      (fun stage _ => stage = .child id .answered ∨ stage = .child id .leaving)
      (childFn id) (.child id .waiting) := by
  simp +contextual [childFn, Code.perform, answerBytes_ne_nil, pipeBufSize]

theorem childBranch_follows (id : Nat) :
    (protocol last).Follows finished (childBranch id) (.child id .waiting) := by
  simp only [childBranch, Code.perform_bind, Protocol.follows_call, protocol_accepts,
    protocol_after, allowed, stageAfter, true_and, Option.some.injEq, forall_eq', forall_const]
  apply (childFn_follows id).bind
  intro stage _ done
  rcases done with rfl | rfl
  all_goals
    simp [finished]

theorem closeKept_follows (i remaining : Nat) :
    (protocol last).Follows (fun stage _ => stage = .lost) (closeKept i remaining) .lost := by
  induction remaining generalizing i with
  | zero => exact rfl
  | succ remaining ih => simp [closeKept, ih]

theorem kick_follows (beyond : Nat → UInt8) (i remaining lo hi : Nat) (write : Option Nat) :
    (protocol last).Follows (fun stage _ => stage = .parent lo hi write)
      (kick beyond i remaining) (.parent lo hi write) := by
  induction remaining generalizing i with
  | zero => exact rfl
  | succ remaining ih => simp [kick, ih]

theorem collect_follows (i remaining hi : Nat) :
    (protocol last).Follows (fun stage _ => ∃ lo, stage = .parent lo hi (some last))
      (collect i remaining) (.parent i hi (some last)) := by
  induction remaining generalizing i with
  | zero => exact ⟨i, rfl⟩
  | succ remaining ih =>
      simp [collect, closable, release, p2cWrite, c2pRead, ih]

theorem afterForks_follows (beyond : Nat → UInt8) (procNum : Nat) :
    (protocol last).Follows finished (afterForks beyond procNum)
      (.parent 0 procNum (some last)) := by
  refine ⟨rfl, fun pid following after => ?_⟩
  cases after
  apply (kick_follows beyond 0 procNum 0 procNum (some last)).bind
  rintro stage _ rfl
  refine ⟨rfl, fun printed following after => ?_⟩
  cases after
  apply (collect_follows 0 procNum procNum).bind
  rintro stage _ ⟨lo, rfl⟩
  simp [finished]

theorem pipeFailed_follows (forks : Nat) (p2cRet c2pRet : Int) :
    (protocol last).Follows finished (pipeFailed forks p2cRet c2pRet) .lost := by
  apply (closeKept_follows 0 forks).bind
  rintro stage _ rfl
  simp [finished]

theorem forkFailed_follows (forks : Nat) (message : String) :
    (protocol last).Follows finished
      (closeKept 0 forks >>= fun _ => free >>= fun _ => pure (.returned (some message))) .lost := by
  apply (closeKept_follows 0 forks).bind
  rintro stage _ rfl
  simp [finished]

theorem forkStep_follows {forks : Nat} {next : Program Ending}
    (follows : (protocol last).Follows finished next (.parent 0 (forks + 1) (some forks))) :
    (protocol last).Follows finished (forkStep forks next) (.parent 0 forks none) := by
  have afterPipes : ∀ pid : Int, (protocol last).Follows finished
      (if pid ≠ 0 then
        if pid < 0 then
          closeKept 0 (forks + 1) >>= fun _ => free >>= fun _ =>
            pure (.returned (some "fork() Failed."))
        else next
      else childBranch forks) (afterFork forks pid) := by
    intro pid
    unfold afterFork
    by_cases inChild : pid = 0
    · rw [if_neg (not_not.mpr inChild), if_pos inChild]
      exact childBranch_follows forks
    · rw [if_pos inChild, if_neg inChild]
      split
      · exact forkFailed_follows (forks + 1) _
      · exact follows
  simp only [forkStep, Code.perform_bind]
  refine ⟨⟨rfl, rfl, rfl⟩, fun p2cRet following after => ?_⟩
  cases after
  by_cases p2cFailed : p2cRet = -1
  · simp [p2cFailed, pipeFailed_follows]
  · simp only [stageAfter, p2cFailed, if_false, false_or]
    refine ⟨rfl, fun c2pRet following after => ?_⟩
    cases after
    by_cases c2pFailed : c2pRet = -1
    · simp [c2pFailed, pipeFailed_follows]
    · simp only [stageAfter, c2pFailed, if_false]
      refine ⟨rfl, fun pid following after => ?_⟩
      cases after
      exact afterPipes pid

theorem forkone_follows (beyond : Nat → UInt8) (forks remaining : Nat) :
    (protocol (forks + remaining)).Follows finished (forkone beyond forks remaining)
      (.parent 0 forks none) := by
  induction remaining generalizing forks with
  | zero => exact forkStep_follows (afterForks_follows beyond (forks + 1))
  | succ remaining ih =>
      apply forkStep_follows
      have rest := ih (forks + 1)
      rw [Nat.add_right_comm, Nat.add_assoc] at rest
      simpa [closable, release, p2cRead, c2pWrite] using rest

theorem runFunc_follows (beyond : Nat → UInt8) (procNum cpuNum : Int) :
    (protocol (procNum.toNat - 1)).Follows finished (runFunc beyond procNum cpuNum)
      (.parent 0 0 none) := by
  have rest := forkone_follows beyond 0 (procNum.toNat - 1)
  rw [Nat.zero_add] at rest
  simp [runFunc, finished, rest]

end Follows

end McKernelTest.CpuProcLimits
