import McKernelTest.Tls.Invariant

/-!
# Runs of `tls#1`

The threads keep to their protocol and the semaphores keep their accounts along every
run.  No thread begins to work before the parent has waited for all of them.
-/

namespace McKernelTest.Tls

open Posix Process Transition

/-- The stages of all threads. -/
def stagesOf (parent : ParentStage) (children : Nat → Option ChildStage) : Thread → Option Stage
  | .parent => some (.parent parent)
  | .child num => (children num).map (.child num)

/-- What holds in every reachable state. -/
def Invariant (env : Environment) (childCount : Nat) (trace : List TlsEvent)
    (config : TlsConfig) : Prop :=
  ∃ parent children,
    (protocol childCount).Tracks (finished childCount) (stagesOf parent children) config.code ∧
      Accounts env childCount trace config.world.sems parent children ∧
      ∀ num, starting num ∈ trace ↔ num < parent.started

section Step

variable {env : Environment} {childCount num : Nat} {trace : List TlsEvent}
  {parent next : ParentStage} {children : Nat → Option ChildStage} {world after : World}

theorem stagesOf_update_parent :
    Function.update (stagesOf parent children) .parent (some (.parent next)) =
      stagesOf next children := by
  funext thread
  cases thread with
  | parent => exact Function.update_self _ _ _
  | child num => exact Function.update_of_ne (by simp) _ _

theorem stagesOf_update_child (stage : ChildStage) :
    Function.update (stagesOf parent children) (.child num) (some (.child num stage)) =
      stagesOf parent (Function.update children num (some stage)) := by
  funext thread
  cases thread with
  | parent => exact Function.update_of_ne (by simp) _ _
  | child other =>
      by_cases same : other = num
      · subst same
        simp [stagesOf]
      · simp [stagesOf, same]

theorem sems_of_quiet {thread : Thread} {op : Op} {result : Res op} (quiet : op.quiet = true)
    (performed : perform env world thread op result = some after) : after.sems = world.sems := by
  cases op with
  | pthreadJoin other =>
      rcases Option.ite_none_right_eq_some.mp performed with ⟨-, ⟨⟩⟩
      rfl
  | loadNotls =>
      rcases Option.ite_none_right_eq_some.mp performed with ⟨-, ⟨⟩⟩
      rfl
  | loadChildTls other =>
      rcases Option.ite_none_right_eq_some.mp performed with ⟨-, ⟨⟩⟩
      rfl
  | semDestroy | free | printf | incTls | storeNotls | storeChildTls =>
      cases performed
      rfl
  | _ => simp at quiet

theorem sems_of_wait {thread : Thread} {sem : Sem} {done : Unit}
    (performed : perform env world thread (.semWait sem) done = some after) :
    0 < world.sems sem ∧ after.sems = Function.update world.sems sem (world.sems sem - 1) := by
  rcases Option.map_eq_some_iff.mp performed with ⟨sems, waited, rfl⟩
  exact (semWaitOn_eq_some_iff _ _ _).mp waited

theorem parentAfter_of_quiet {op : Op} {result : Res op} {i : Nat} (quiet : op.quiet = true) :
    parentAfter childCount (.starting i) op result = .starting i := by
  cases op with
  | semPost => simp at quiet
  | _ => rfl

theorem started_creatingFrom (childCount i : Nat) : (creatingFrom childCount i).started = 0 := by
  unfold creatingFrom
  split <;> rfl

/-- The parent's step, if it does not create a thread. -/
theorem Accounts.parent_step {op : Op} {result : Res op}
    (accounts : Accounts env childCount trace world.sems parent children)
    (accepted : allowedParent childCount op parent) (single : ∀ other, op ≠ .pthreadCreate other)
    (performed : perform env world .parent op result = some after) :
    Accounts env childCount trace after.sems (parentAfter childCount parent op result)
      children := by
  cases parent with
  | setup =>
      cases accepted
      rcases Option.ite_none_right_eq_some.mp performed with ⟨isResult, ⟨⟩⟩
      cases result with
      | true =>
          obtain ⟨fits, created, waited, started⟩ :=
            creatingFrom_spec isResult.symm (Nat.zero_le childCount)
          exact accounts.parent_quiet fits created waited started
      | false => exact accounts.parent_quiet isResult.symm rfl rfl rfl
  | creating i =>
      rcases accepted with rfl | rfl | rfl
      · cases performed
        rw [accounts.init (Or.inl rfl)]
        exact accounts
      · cases performed
        rw [accounts.init (Or.inr rfl)]
        exact accounts
      · exact absurd rfl (single i)
  | syncing i =>
      rcases accepted with ⟨-, rfl⟩ | ⟨rfl, rfl⟩
      · obtain ⟨positive, sems⟩ := sems_of_wait performed
        rw [sems]
        exact accounts.wait positive
      · cases performed
        exact accounts.parent_quiet accounts.fits rfl rfl rfl
  | starting i =>
      rcases accepted with ⟨-, rfl⟩ | ⟨rfl, quiet⟩
      · cases performed
        exact accounts.post
      · rw [sems_of_quiet quiet performed, parentAfter_of_quiet quiet]
        exact accounts
  | left => exact accepted.elim

/-- A child's step. -/
theorem Accounts.child_step {op : Op} {result : Res op} {stage : ChildStage}
    (accounts : Accounts env childCount trace world.sems parent children)
    (current : children num = some stage) (accepted : allowedChild num op stage)
    (performed : perform env world (.child num) op result = some after) :
    Accounts env childCount (trace ++ [.call (.child num) op result]) after.sems parent
      (Function.update children num (some (childAfter stage op))) := by
  cases stage with
  | fresh =>
      cases accepted
      cases performed
      exact accounts.child_post current
  | posted =>
      rcases accepted with ⟨format, values, rfl⟩ | rfl
      · cases performed
        exact (accounts.child_quiet current rfl rfl).extend _
      · obtain ⟨positive, sems⟩ := sems_of_wait performed
        rw [sems]
        exact (accounts.child_enter current positive).extend _
  | running =>
      rcases accepted with quiet | rfl
      · have same : childAfter .running op = .running := by
          cases op with
          | threadReturn => simp at quiet
          | _ => rfl
        rw [sems_of_quiet quiet performed, same]
        exact (accounts.child_quiet current rfl rfl).extend _
      · cases performed
        have returned : Accounts env childCount trace world.sems parent
            (Function.update children num (some .returned)) :=
          accounts.child_quiet current rfl rfl
        exact returned.extend _
  | returned => exact accepted.elim

theorem starting_eq_iff {op : Op} {result : Res op} :
    starting num = .call .parent op result ↔ op = .semPost (.start num) := by
  constructor
  · rintro ⟨⟩
    rfl
  · rintro rfl
    rfl

/-- The parent starts a child by its post and in no other way. -/
theorem started_parentAfter {op : Op} {result : Res op}
    (accepted : allowedParent childCount op parent) :
    num < (parentAfter childCount parent op result).started ↔
      num < parent.started ∨ op = .semPost (.start num) := by
  cases parent with
  | setup =>
      cases accepted
      cases result with
      | true =>
          change num < (creatingFrom childCount 0).started ↔ _
          rw [started_creatingFrom]
          simp [ParentStage.started]
      | false => simp [ParentStage.started]
  | creating i =>
      rcases accepted with rfl | rfl | rfl
      · simp [ParentStage.started]
      · simp [ParentStage.started]
      · change num < (creatingFrom childCount (i + 1)).started ↔ _
        rw [started_creatingFrom]
        simp [ParentStage.started]
  | syncing i =>
      rcases accepted with ⟨-, rfl⟩ | ⟨-, rfl⟩ <;> simp [ParentStage.started]
  | starting i =>
      rcases accepted with ⟨-, rfl⟩ | ⟨rfl, quiet⟩
      · change num < i + 1 ↔ num < i ∨ Op.semPost (.start i) = .semPost (.start num)
        rw [Nat.lt_succ_iff_lt_or_eq, Op.semPost.injEq, Sem.start.injEq, eq_comm (a := num)]
      · rw [parentAfter_of_quiet quiet]
        have other : op ≠ .semPost (.start num) := by
          rintro rfl
          simp at quiet
        simp [other]
  | left => exact accepted.elim

theorem spawn_eq_none (thread : Thread) {op : Op} (result : Res op)
    (rest : Res op → Program (Option String)) (single : ∀ other, op ≠ .pthreadCreate other) :
    spawn thread op result rest = none := by
  cases op with
  | pthreadCreate other => exact absurd rfl (single other)
  | _ => rfl

theorem single_of_allowedChild {op : Op} {stage : ChildStage}
    (accepted : allowedChild num op stage) :
    ∀ other, op ≠ .pthreadCreate other := by
  rintro other rfl
  cases stage <;> simp at accepted

/-- What `pthread_create` does to the stages: the parent goes on, and a thread that
has been created is at its beginning. -/
theorem tracks_create {code : Thread → Option (Program (Option String))} {i : Nat} {result : Int}
    {rest : Int → Program (Option String)}
    (tracks : (protocol childCount).Tracks (finished childCount)
      (stagesOf (.creating i) children) code)
    (found : code .parent = some (.call (.pthreadCreate i) rest)) :
    (protocol childCount).Tracks (finished childCount)
      (stagesOf (creatingFrom childCount (i + 1)) (afterCreate children i result))
      ((system env).resume code .parent (.pthreadCreate i) result rest) := by
  unfold afterCreate
  split
  · rename_i created
    have spawned : (system env).spawn .parent (.pthreadCreate i) result rest =
        some (.child i, func i) := if_pos created
    rw [← stagesOf_update_child, ← stagesOf_update_parent]
    exact tracks.resume_spawn found rfl rfl spawned (func_follows childCount i)
  · rename_i failed
    have single : (system env).spawn .parent (.pthreadCreate i) result rest = none :=
      if_neg failed
    rw [← stagesOf_update_parent]
    exact tracks.resume (system env) found rfl rfl single

end Step

section Runs

variable {env : Environment} {childCount : Nat} {trace : List TlsEvent} {config target : TlsConfig}

theorem Invariant.step {event : TlsEvent} (invariant : Invariant env childCount trace config)
    (stepped : (system env).step config event = some target) :
    Invariant env childCount (trace ++ [event]) target := by
  rcases invariant with ⟨parent, children, tracks, accounts, started⟩
  cases event with
  | external cause => exact cause.elim
  | call thread op result =>
      rcases (System.step_call_eq_some_iff _ _ _ _ _ _).mp stepped with
        ⟨rest, world, found, performed, rfl⟩
      rcases tracks.call found with ⟨stage, current, accepted, -⟩
      cases thread with
      | parent =>
          cases current
          have startedAfter : ∀ num, starting num ∈ trace ++ [.call .parent op result] ↔
              num < (parentAfter childCount parent op result).started := by
            intro num
            rw [List.mem_append, List.mem_singleton, starting_eq_iff, started num]
            exact (started_parentAfter accepted).symm
          by_cases creates : ∃ other, op = .pthreadCreate other
          · rcases creates with ⟨i, rfl⟩
            cases parent with
            | creating other =>
                have same : i = other := by simpa using accepted
                subst same
                rcases Option.ite_none_right_eq_some.mp performed with ⟨isResult, ⟨⟩⟩
                subst isResult
                exact ⟨_, _, tracks_create tracks found, accounts.create.extend _, startedAfter⟩
            | _ => simp at accepted
          · have single := not_exists.mp creates
            refine ⟨parentAfter childCount parent op result, children, ?_, ?_, startedAfter⟩
            · rw [← stagesOf_update_parent]
              exact tracks.resume (system env) found rfl rfl
                (spawn_eq_none .parent result rest single)
            · exact (accounts.parent_step accepted single performed).extend _
      | child num =>
          rcases Option.map_eq_some_iff.mp current with ⟨stage, isStage, rfl⟩
          refine ⟨parent, Function.update children num (some (childAfter stage op)), ?_, ?_, ?_⟩
          · rw [← stagesOf_update_child]
            exact tracks.resume (system env) found current rfl
              (spawn_eq_none (.child num) result rest (single_of_allowedChild accepted))
          · exact accounts.child_step isStage accepted performed
          · intro other
            rw [List.mem_append, List.mem_singleton, ← started other]
            simp [starting]

/-- The state in which the run function is entered. -/
theorem Invariant.initial (positive : 0 < childCount) :
    Invariant env childCount [] (start childCount) := by
  refine ⟨.setup, fun _ => none, ?_, ?_, ?_⟩
  · intro thread
    cases thread with
    | parent =>
        have isProgram : runFunc childCount = runChildren childCount := by
          simp [runFunc, positive]
        rw [start, isProgram]
        exact Option.Rel.some (runChildren_follows childCount)
    | child num => exact Option.Rel.none
  · refine ⟨trivial, fun num => ⟨?_, rfl, rfl, ?_⟩⟩
    · simp [ParentStage.created]
    · simp
  · simp [ParentStage.started]

theorem Invariant.of_run (positive : 0 < childCount)
    (run : Run (system env).step (start childCount) trace config) :
    Invariant env childCount trace config := by
  apply run.invariant (Invariant.initial positive)
  exact fun _ _ _ _ invariant _ stepped => invariant.step stepped

end Runs

end McKernelTest.Tls
