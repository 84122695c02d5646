import McKernelTest.CpuProcLimits.Invariant

/-!
# The steps of `cpu_proc_limits#0`

Each call of the parent and of a child keeps the invariant, and so does the
death of a child.
-/

namespace McKernelTest.CpuProcLimits

open Posix Process Transition

theorem isOpen_iff (world : World) (fd : Fd) :
    world.isOpen fd = true ↔ ∃ pid, (pid, fd) ∈ world.opens := by
  simp [World.isOpen]

section Step

variable {last : Nat} {trace : List LimitsEvent} {config : LimitsConfig} {op : Op}
  {result : Res op} {next : Res op → Program Ending} {world : World} {stage : Stage}
  {phases : Nat → Option Phase}

theorem advance_parent
    (tracks : (protocol last).Tracks finished (stagesOf stage phases) config.code)
    (found : config.code .parent = some (.call op next))
    (single : spawn .parent op result next = none)
    (isParent : (stageAfter stage op result).IsParent)
    (descriptors : Descriptors world (stageAfter stage op result))
    (children : Children trace world (stageAfter stage op result) phases) :
    Invariant last trace ⟨world, system.resume config.code .parent op result next⟩ := by
  have resumed := tracks.resume system found rfl rfl single
  rw [stagesOf_update_parent] at resumed
  exact ⟨_, phases, isParent, resumed, descriptors, children⟩

theorem advance_child {id : Nat} {phase new : Phase}
    (tracks : (protocol last).Tracks finished (stagesOf stage phases) config.code)
    (found : config.code (.child id) = some (.call op next))
    (current : phases id = some phase)
    (single : spawn (.child id) op result next = none)
    (after : stageAfter (.child id phase) op result = .child id new)
    (isParent : stage.IsParent) (descriptors : Descriptors world stage)
    (children : Children trace world stage (Function.update phases id (some new))) :
    Invariant last trace ⟨world, system.resume config.code (.child id) op result next⟩ := by
  have state : stagesOf stage phases (.child id) = some (.child id phase) := by
    simp [stagesOf, current]
  have resumed := tracks.resume system found state (congrArg some after) single
  rw [stagesOf_update_child] at resumed
  exact ⟨stage, _, isParent, resumed, descriptors, children⟩

theorem performAlive_of_perform {pid : Pid}
    (performed : perform config.world pid op result = some world) :
    config.world.alive pid = true ∧ performAlive config.world pid op result = some world := by
  unfold perform at performed
  split at performed
  · rename_i living
    exact ⟨living, performed⟩
  · contradiction

theorem quiet_step {pid : Pid} (stage : Stage) (next : Res op → Program Ending)
    (quiet : op.quiet = true)
    (performed : performAlive config.world pid op result = some world) :
    world = config.world ∧ stageAfter stage op result = stage ∧
      spawn pid op result next = none ∧ ∀ i, isAnswer i (.call pid op result) = false := by
  cases op
  all_goals
    first
    | contradiction
    | (cases performed; cases stage <;> cases pid <;> exact ⟨rfl, rfl, rfl, fun _ => rfl⟩)

/-- A call whose failure makes the parent give up. -/
theorem parent_lost
    (tracks : (protocol last).Tracks finished (stagesOf stage phases) config.code)
    (descriptors : Descriptors config.world stage)
    (children : Children trace config.world stage phases)
    (found : config.code .parent = some (.call op next))
    (single : spawn .parent op result next = none)
    (after : stageAfter stage op result = .lost)
    (noAnswer : ∀ i, isAnswer i (.call .parent op result) = false) :
    Invariant last (trace ++ [.call .parent op result])
      ⟨config.world, system.resume config.code .parent op result next⟩ := by
  apply advance_parent tracks found single
  · rw [after]
    exact trivial
  · rw [after]
    exact descriptors.lose
  · rw [after]
    exact children.lose noAnswer

/-- A call of the parent that involves neither pipes nor processes. -/
theorem parent_quiet (isParent : stage.IsParent)
    (tracks : (protocol last).Tracks finished (stagesOf stage phases) config.code)
    (descriptors : Descriptors config.world stage)
    (children : Children trace config.world stage phases)
    (found : config.code .parent = some (.call op next)) (quiet : op.quiet = true)
    (performed : performAlive config.world .parent op result = some world) :
    Invariant last (trace ++ [.call .parent op result])
      ⟨world, system.resume config.code .parent op result next⟩ := by
  rcases quiet_step stage next quiet performed with
    ⟨rfl, unchanged, single, noAnswer⟩
  apply advance_parent tracks found single
  · rw [unchanged]
    exact isParent
  · rw [unchanged]
    exact descriptors
  · rw [unchanged]
    exact children.idle noAnswer rfl fun _ => rfl

/-- A `pipe` of the parent: it fails and the parent gives up, or the two ends
are open and the stage changes to `following`. -/
theorem parent_pipe {name : PipeId} {ret : Int} {next : Int → Program Ending}
    (following : Stage) (isParent : following.IsParent)
    (after : stageAfter stage (.pipe name) ret = if ret = -1 then .lost else following)
    (tracks : (protocol last).Tracks finished (stagesOf stage phases) config.code)
    (descriptors : Descriptors config.world stage)
    (children : Children trace config.world stage phases)
    (found : config.code .parent = some (.call (.pipe name) next))
    (living : config.world.alive .parent = true)
    (performed : performAlive config.world .parent (.pipe name) ret = some world)
    (kick : ∀ i, following.KeepsKick i → stage.KeepsKick i ∨ name = .p2c i)
    (answer : ∀ i, following.KeepsAnswer i → stage.KeepsAnswer i ∨ name = .c2p i)
    (writes : ∀ i, stage.MayWrite i ∨ name = .c2p i → following.MayWrite i)
    (started : ∀ i, stage.Started i → following.Started i)
    (past : ∀ i, stage.Past i → following.Past i) :
    Invariant last (trace ++ [.call .parent (.pipe name) ret])
      ⟨world, system.resume config.code .parent (.pipe name) ret next⟩ := by
  simp only [performAlive, pipeOn] at performed
  split at performed
  · rename_i made
    cases performed
    have notFailed : ret ≠ -1 := by omega
    rw [if_neg notFailed] at after
    apply advance_parent tracks found rfl
    · rw [after]
      exact isParent
    · rw [after]
      exact descriptors.pipe name living kick answer writes
    · rw [after]
      exact children.advance (fun _ => rfl) started (fun i => Or.imp_right (past i))
        (fun _ => rfl) fun _ nonempty => Or.inl nonempty
  · split at performed
    · rename_i failed
      cases performed
      rw [if_pos failed] at after
      exact parent_lost tracks descriptors children found rfl after fun _ => rfl
    · contradiction

/-- A `close` of the parent. -/
theorem parent_close {lo hi : Nat} {write : Option Nat} {fd : Fd} {done : Unit}
    {next : Unit → Program Ending} (closes : closable lo fd)
    (tracks : (protocol last).Tracks finished (stagesOf (.parent lo hi write) phases) config.code)
    (descriptors : Descriptors config.world (.parent lo hi write))
    (children : Children trace config.world (.parent lo hi write) phases)
    (found : config.code .parent = some (.call (.close fd) next))
    (performed : performAlive config.world .parent (.close fd) done = some world) :
    Invariant last (trace ++ [.call .parent (.close fd) done])
      ⟨world, system.resume config.code .parent (.close fd) done next⟩ := by
  cases performed
  apply advance_parent tracks found rfl
  · exact trivial
  · apply descriptors.close
    · intro i keeps
      refine ⟨keeps, ?_⟩
      rintro ⟨⟩
      exact Nat.not_lt.mpr keeps.1 closes
    · intro i keeps
      refine ⟨keeps, ?_⟩
      rintro ⟨⟩
      exact Nat.not_lt.mpr keeps.1 closes
    · intro i writes other
      change write = some i at writes
      change release write fd = some i
      subst writes
      unfold release
      split
      · rename_i id
        rw [if_neg]
        rintro ⟨⟩
        exact other rfl
      · rfl
  · exact children.advance (fun _ => rfl) (fun _ started => started) (fun _ past => past)
      (fun _ => rfl) fun _ nonempty => Or.inl nonempty

/-- The read of the next answer. -/
theorem parent_read {lo hi count : Nat} {write : Option Nat} {bytes : List UInt8}
    {next : List UInt8 → Program Ending}
    (tracks : (protocol last).Tracks finished (stagesOf (.parent lo hi write) phases) config.code)
    (descriptors : Descriptors config.world (.parent lo hi write))
    (children : Children trace config.world (.parent lo hi write) phases)
    (found : config.code .parent = some (.call (.read (c2pRead lo) count) next))
    (performed : performAlive config.world .parent (.read (c2pRead lo) count) bytes = some world) :
    Invariant last (trace ++ [.call .parent (.read (c2pRead lo) count) bytes])
      ⟨world, system.resume config.code .parent (.read (c2pRead lo) count) bytes next⟩ := by
  have queued : ∃ queue, world = { config.world with queue := queue } ∧
      ∀ i, i ≠ lo → queue (.c2p i) = config.world.queue (.c2p i) := by
    simp only [performAlive, readOn] at performed
    split at performed
    · rw [Option.ite_none_right_eq_some] at performed
      cases performed.2
      exact ⟨_, rfl, fun _ _ => rfl⟩
    · rcases Option.map_eq_some_iff.mp performed with ⟨rest, -, rfl⟩
      refine ⟨_, rfl, fun i other => Function.update_of_ne ?_ _ _⟩
      simpa [c2pRead] using other
  rcases queued with ⟨queue, rfl, others⟩
  apply advance_parent tracks found rfl
  · exact trivial
  · apply Descriptors.queue
    exact descriptors.weaken (fun i keeps => ⟨Nat.le_of_succ_le keeps.1, keeps.2⟩)
      (fun i keeps => ⟨Nat.le_of_succ_le keeps.1, keeps.2⟩) fun _ writes => writes
  · refine children.advance (fun _ => rfl) (fun _ started => started) ?_ (fun _ => rfl) ?_
    · intro i past
      exact past.imp_right Nat.lt_succ_of_lt
    · intro i nonempty
      by_cases same : i = lo
      · rw [same]
        exact Or.inr (Or.inr (Nat.lt_succ_self lo))
      · left
        change queue (.c2p i) ≠ []
        rw [others i same]
        exact nonempty

/-- A kick: without a reader it kills the parent. -/
theorem parent_write {lo hi i : Nat} {write : Option Nat} {data : List UInt8} {done : Unit}
    {next : Unit → Program Ending}
    (tracks : (protocol last).Tracks finished (stagesOf (.parent lo hi write) phases) config.code)
    (descriptors : Descriptors config.world (.parent lo hi write))
    (children : Children trace config.world (.parent lo hi write) phases)
    (found : config.code .parent = some (.call (.write (p2cWrite i) data) next))
    (performed : performAlive config.world .parent (.write (p2cWrite i) data) done = some world) :
    Invariant last (trace ++ [.call .parent (.write (p2cWrite i) data) done])
      ⟨world, system.resume config.code .parent (.write (p2cWrite i) data) done next⟩ := by
  cases performed
  unfold writeOn
  split
  · apply advance_parent tracks found rfl
    · exact trivial
    · exact descriptors.queue _
    · exact children.idle (fun _ => rfl) rfl fun _ => rfl
  · apply advance_parent tracks found rfl
    · exact trivial
    · exact descriptors.die .parent
    · exact children.advance (fun _ => rfl) (fun _ started => started)
        (fun _ _ => Or.inl (by simp [World.die])) (fun _ => rfl) fun _ nonempty => Or.inl nonempty

/-- The fork: it fails and the parent gives up, or the next child starts. -/
theorem parent_fork {hi : Nat} {pid : Int} {next : Int → Program Ending}
    (tracks : (protocol last).Tracks finished (stagesOf (.ready hi) phases) config.code)
    (descriptors : Descriptors config.world (.ready hi))
    (children : Children trace config.world (.ready hi) phases)
    (found : config.code .parent = some (.call (.fork hi) next))
    (living : config.world.alive .parent = true)
    (performed : performAlive config.world .parent (.fork hi) pid = some world) :
    Invariant last (trace ++ [.call .parent (.fork hi) pid])
      ⟨world, system.resume config.code .parent (.fork hi) pid next⟩ := by
  simp only [performAlive, forkOn] at performed
  split at performed
  · rename_i started
    cases performed
    rcases tracks.call found with ⟨current, state, -, follows⟩
    cases state
    have parentAfter : stageAfter (.ready hi) (.fork hi) pid = .parent 0 (hi + 1) (some hi) := by
      have notChild : pid ≠ 0 := by omega
      have notFailed : ¬pid < 0 := by omega
      simp [stageAfter, afterFork, notChild, notFailed]
    have spawned : system.spawn .parent (.fork hi) pid next = some (.child hi, next (0 : Int)) :=
      if_pos started
    have both := tracks.resume_spawn found rfl (congrArg some parentAfter) spawned
      (follows (0 : Int) (.child hi .waiting) rfl)
    rw [stagesOf_update_parent, stagesOf_update_child] at both
    exact ⟨.parent 0 (hi + 1) (some hi), _, trivial, both, descriptors.birth living,
      children.birth⟩
  · split at performed
    · rename_i failed
      cases performed
      have single : spawn .parent (.fork hi) pid next = none := by
        simp [spawn, forkChild, failed]
      have after : stageAfter (.ready hi) (.fork hi) pid = .lost := by
        simp [stageAfter, afterFork, failed]
      exact parent_lost tracks descriptors children found single after fun _ => rfl
    · contradiction

/-- A `close` of a parent that gives up. -/
theorem lost_close {fd : Fd} {done : Unit} {next : Unit → Program Ending}
    (tracks : (protocol last).Tracks finished (stagesOf .lost phases) config.code)
    (descriptors : Descriptors config.world .lost)
    (children : Children trace config.world .lost phases)
    (found : config.code .parent = some (.call (.close fd) next))
    (performed : performAlive config.world .parent (.close fd) done = some world) :
    Invariant last (trace ++ [.call .parent (.close fd) done])
      ⟨world, system.resume config.code .parent (.close fd) done next⟩ := by
  cases performed
  apply advance_parent tracks found rfl
  · exact trivial
  · exact descriptors.close .parent fd (fun _ keeps => keeps.elim) (fun _ keeps => keeps.elim)
      fun _ _ _ => trivial
  · exact children.idle (fun _ => rfl) rfl fun _ => rfl

/-- A step of the parent. -/
theorem parent_step (isParent : stage.IsParent)
    (tracks : (protocol last).Tracks finished (stagesOf stage phases) config.code)
    (descriptors : Descriptors config.world stage)
    (children : Children trace config.world stage phases)
    (found : config.code .parent = some (.call op next))
    (living : config.world.alive .parent = true)
    (performed : performAlive config.world .parent op result = some world) :
    Invariant last (trace ++ [.call .parent op result])
      ⟨world, system.resume config.code .parent op result next⟩ := by
  rcases tracks.call found with ⟨current, state, accepted, -⟩
  cases state
  cases stage with
  | parent lo hi write =>
      cases op with
      | pipe name =>
          rcases accepted with ⟨rfl, rfl, rfl⟩
          apply parent_pipe (.piping hi) trivial rfl tracks descriptors children found living
            performed
          · intro i keeps
            rcases Nat.lt_or_eq_of_le keeps with below | same
            · exact Or.inl ⟨Nat.zero_le i, below⟩
            · exact Or.inr (congrArg PipeId.p2c same.symm)
          · exact fun i keeps => Or.inl ⟨Nat.zero_le i, keeps⟩
          · rintro i (held | made)
            · cases held
            · cases made
          · exact fun _ started => started
          · exact fun i past => absurd past (Nat.not_lt_zero i)
      | close fd => exact parent_close accepted tracks descriptors children found performed
      | read fd count =>
          rcases accepted with ⟨rfl, -⟩
          exact parent_read tracks descriptors children found performed
      | write fd data =>
          rcases accepted with ⟨i, rfl⟩
          exact parent_write tracks descriptors children found performed
      | _ => exact parent_quiet isParent tracks descriptors children found accepted performed
  | piping hi =>
      cases accepted
      apply parent_pipe (.ready hi) trivial rfl tracks descriptors children found living performed
      · exact fun _ keeps => Or.inl keeps
      · intro i keeps
        rcases Nat.lt_or_eq_of_le keeps with below | same
        · exact Or.inl below
        · exact Or.inr (congrArg PipeId.c2p same.symm)
      · rintro i (held | made)
        · exact held.elim
        · cases made
          exact rfl
      · exact fun _ started => started
      · exact fun _ past => past
  | ready hi =>
      cases accepted
      exact parent_fork tracks descriptors children found living performed
  | lost =>
      cases op with
      | pipe name =>
          have after : stageAfter .lost (.pipe name) result =
              if result = -1 then .lost else .lost := by
            simp [stageAfter]
          exact parent_pipe .lost trivial after tracks descriptors children found living performed
            (fun _ keeps => keeps.elim) (fun _ keeps => keeps.elim) (fun _ _ => trivial)
            (fun _ started => started) fun _ past => past
      | close fd => exact lost_close tracks descriptors children found performed
      | _ => exact parent_quiet isParent tracks descriptors children found accepted performed
  | child id phase => exact isParent.elim

/-- While child `id` exists, a living parent that is not past it keeps both
pipes open. -/
theorem past_of_closed {id : Nat} {phase : Phase} (descriptors : Descriptors config.world stage)
    (children : Children trace config.world stage phases) (current : phases id = some phase)
    (closed : config.world.isOpen (p2cWrite id) = false ∨
      config.world.isOpen (c2pRead id) = false) :
    ParentPast config.world stage id := by
  by_cases living : config.world.alive .parent = true
  · rcases Stage.keeps_or_past (children.started id (by simp [current])) with keeps | past
    · rcases closed with closed | closed
      · have opened := (isOpen_iff _ _).mpr ⟨_, descriptors.kick living id keeps.1⟩
        rw [opened] at closed
        contradiction
      · have opened := (isOpen_iff _ _).mpr ⟨_, descriptors.answer living id keeps.2⟩
        rw [opened] at closed
        contradiction
    · exact Or.inr past
  · exact Or.inl (by simpa using living)

/-- A step of child `id` that leaves its phase as it is. -/
theorem child_idle {id : Nat} {phase : Phase} (isParent : stage.IsParent)
    (tracks : (protocol last).Tracks finished (stagesOf stage phases) config.code)
    (children : Children trace config.world stage phases)
    (found : config.code (.child id) = some (.call op next)) (current : phases id = some phase)
    (single : spawn (.child id) op result next = none)
    (after : stageAfter (.child id phase) op result = .child id phase)
    (noAnswer : ∀ i, isAnswer i (.call (.child id) op result) = false)
    (descriptors : Descriptors world stage) (sameAlive : world.alive = config.world.alive)
    (sameQueue : world.queue = config.world.queue) :
    Invariant last (trace ++ [.call (.child id) op result])
      ⟨world, system.resume config.code (.child id) op result next⟩ := by
  apply advance_child tracks found current single after isParent descriptors
  rw [← current, Function.update_eq_self]
  exact children.idle noAnswer sameAlive fun i => congrFun sameQueue _

/-- The child gets its kick, or sees that nobody can kick it. -/
theorem child_read {id count : Nat} {bytes : List UInt8} {next : List UInt8 → Program Ending}
    (isParent : stage.IsParent)
    (tracks : (protocol last).Tracks finished (stagesOf stage phases) config.code)
    (descriptors : Descriptors config.world stage)
    (children : Children trace config.world stage phases)
    (found : config.code (.child id) = some (.call (.read (p2cRead id) count) next))
    (current : phases id = some .waiting) (positive : 0 < count)
    (living : config.world.alive (.child id) = true)
    (performed :
      performAlive config.world (.child id) (.read (p2cRead id) count) bytes = some world) :
    Invariant last (trace ++ [.call (.child id) (.read (p2cRead id) count) bytes])
      ⟨world, system.resume config.code (.child id) (.read (p2cRead id) count) bytes next⟩ := by
  simp only [performAlive, readOn] at performed
  split at performed
  · rename_i empty
    rw [Option.ite_none_right_eq_some] at performed
    rcases performed with ⟨⟨rfl, closed⟩, same⟩
    cases same
    apply advance_child tracks found current rfl rfl isParent descriptors
    refine children.setPhase current rfl (fun _ _ => rfl) (fun _ _ => rfl) ?_ ?_ ?_ ?_ ?_
    · exact fun _ => past_of_closed descriptors children current (Or.inl closed)
    · exact fun impossible => by cases impossible
    · exact fun _ => Or.inr rfl
    · exact fun _ impossible => by cases impossible
    · exact fun impossible => by cases impossible
  · rename_i nonempty
    rcases Option.map_eq_some_iff.mp performed with ⟨rest, read, rfl⟩
    have received : bytes ≠ [] := by
      rcases (readQueue_eq_some_iff _ _ _ _).mp read with ⟨-, rfl, -⟩
      simpa [List.take_eq_nil_iff, Nat.pos_iff_ne_zero.mp positive] using nonempty
    have after : stageAfter (.child id .waiting) (.read (p2cRead id) count) bytes =
        .child id .kicked := by
      simp [stageAfter, received]
    apply advance_child tracks found current rfl after isParent (descriptors.queue _)
    refine children.setPhase current rfl (fun _ _ => rfl) (fun _ _ => rfl) ?_ ?_ ?_ ?_ ?_
    · exact fun impossible => by cases impossible
    · exact fun impossible => by cases impossible
    · intro dead
      rw [living] at dead
      contradiction
    · exact fun _ impossible => by cases impossible
    · exact fun impossible => by cases impossible

/-- The child's answer: without a reader it kills the child. -/
theorem child_write {id : Nat} {data : List UInt8} {done : Unit} {next : Unit → Program Ending}
    (isParent : stage.IsParent)
    (tracks : (protocol last).Tracks finished (stagesOf stage phases) config.code)
    (descriptors : Descriptors config.world stage)
    (children : Children trace config.world stage phases)
    (found : config.code (.child id) = some (.call (.write (c2pWrite id) data) next))
    (current : phases id = some .kicked) (nonempty : data ≠ [])
    (performed :
      performAlive config.world (.child id) (.write (c2pWrite id) data) done = some world) :
    Invariant last (trace ++ [.call (.child id) (.write (c2pWrite id) data) done])
      ⟨world, system.resume config.code (.child id) (.write (c2pWrite id) data) done next⟩ := by
  cases performed
  unfold writeOn
  split
  · apply advance_child tracks found current rfl rfl isParent (descriptors.queue _)
    refine children.setPhase current rfl (fun _ _ => rfl) ?_ ?_ ?_ ?_ ?_ ?_
    · intro i other
      exact Function.update_of_ne (by simpa [c2pWrite] using other) _ _
    · exact fun impossible => by cases impossible
    · intro _
      left
      simp [c2pWrite, nonempty]
    · exact fun _ => Or.inl rfl
    · intro i answer
      exact ⟨by simpa [isAnswer, eq_comm] using answer, rfl⟩
    · exact fun _ => rfl
  · rename_i closed
    have gone : config.world.isOpen (c2pRead id) = false := by
      simpa [c2pWrite, c2pRead] using closed
    have past := past_of_closed descriptors children current (Or.inr gone)
    apply advance_child tracks found current rfl rfl isParent (descriptors.die _)
    apply children.setPhase current (by simp [World.die])
    · intro i other
      simp [World.die, other]
    · exact fun _ _ => rfl
    · exact fun impossible => by cases impossible
    · intro _
      right
      simpa [ParentPast, World.die] using past
    · exact fun _ => Or.inl rfl
    · intro i answer
      exact ⟨by simpa [isAnswer, eq_comm] using answer, rfl⟩
    · exact fun _ => rfl

/-- The child exits. -/
theorem child_exit {id : Nat} {phase : Phase} {status : Int} {done : Unit}
    {next : Unit → Program Ending} (isParent : stage.IsParent)
    (tracks : (protocol last).Tracks finished (stagesOf stage phases) config.code)
    (descriptors : Descriptors config.world stage)
    (children : Children trace config.world stage phases)
    (found : config.code (.child id) = some (.call (.exit status) next))
    (current : phases id = some phase) (ended : phase = .answered ∨ phase = .leaving)
    (performed : performAlive config.world (.child id) (.exit status) done = some world) :
    Invariant last (trace ++ [.call (.child id) (.exit status) done])
      ⟨world, system.resume config.code (.child id) (.exit status) done next⟩ := by
  cases performed
  have samePast : ∀ i, ParentPast config.world stage i →
      ParentPast (config.world.die (.child id)) stage i := by
    intro i past
    simpa [ParentPast, World.die] using past
  apply advance_child tracks found current rfl rfl isParent (descriptors.die _)
  apply children.setPhase current (by simp [World.die])
  · intro i other
    simp [World.die, other]
  · exact fun _ _ => rfl
  · intro leaves
    exact samePast id (children.leaving id (leaves ▸ current))
  · intro answers
    exact (children.answered id (answers ▸ current)).imp_right (samePast id)
  · exact fun _ => ended
  · exact fun _ impossible => by cases impossible
  · exact fun same => same

/-- A step of a child. -/
theorem child_step {id : Nat} (isParent : stage.IsParent)
    (tracks : (protocol last).Tracks finished (stagesOf stage phases) config.code)
    (descriptors : Descriptors config.world stage)
    (children : Children trace config.world stage phases)
    (found : config.code (.child id) = some (.call op next))
    (living : config.world.alive (.child id) = true)
    (performed : performAlive config.world (.child id) op result = some world) :
    Invariant last (trace ++ [.call (.child id) op result])
      ⟨world, system.resume config.code (.child id) op result next⟩ := by
  rcases tracks.call found with ⟨state, stateEq, accepted, -⟩
  rcases Option.map_eq_some_iff.mp stateEq with ⟨phase, current, rfl⟩
  have idle : op.quiet = true → Invariant last (trace ++ [.call (.child id) op result])
      ⟨world, system.resume config.code (.child id) op result next⟩ := by
    intro quiet
    rcases quiet_step (.child id phase) next quiet performed with ⟨rfl, after, single, noAnswer⟩
    exact child_idle isParent tracks children found current single after noAnswer descriptors
      rfl rfl
  cases op with
  | close fd =>
      cases performed
      exact child_idle isParent tracks children found current rfl rfl (fun _ => rfl)
        (descriptors.close_child id fd) rfl rfl
  | read fd count =>
      rcases accepted with ⟨rfl, rfl, positive⟩
      exact child_read isParent tracks descriptors children found current positive living performed
  | write fd data =>
      rcases accepted with ⟨rfl, rfl, nonempty⟩
      exact child_write isParent tracks descriptors children found current nonempty performed
  | exit status =>
      exact child_exit isParent tracks descriptors children found current accepted performed
  | _ => exact idle accepted

theorem invariant_step {event : LimitsEvent} {target : LimitsConfig}
    (invariant : Invariant last trace config) (step : system.step config event = some target) :
    Invariant last (trace ++ [event]) target := by
  rcases invariant with ⟨stage, phases, isParent, tracks, descriptors, children⟩
  cases event with
  | external id =>
      rcases (System.step_external_eq_some_iff _ _ _ _).mp step with ⟨world, killed, rfl⟩
      have dead : config.world.die (.child id) = world := by
        have alive : config.world.alive (.child id) = true := by
          by_contra dead
          simp [system, kill, dead] at killed
        simpa [system, kill, alive] using killed
      subst dead
      exact ⟨stage, phases, isParent, tracks, descriptors.die _, children.kill⟩
  | call pid op result =>
      rcases (System.step_call_eq_some_iff _ _ _ _ _ _).mp step with
        ⟨next, world, found, performed, rfl⟩
      rcases performAlive_of_perform performed with ⟨living, performed⟩
      cases pid with
      | parent => exact parent_step isParent tracks descriptors children found living performed
      | child id => exact child_step isParent tracks descriptors children found living performed

end Step

theorem start_invariant (beyond : Nat → UInt8) (procNum cpuNum : Int) :
    Invariant (procNum.toNat - 1) [] (start beyond procNum cpuNum) := by
  refine ⟨.parent 0 0 none, fun _ => none, trivial, ?_, ?_, ?_⟩
  · intro pid
    cases pid with
    | parent => exact Option.Rel.some (runFunc_follows beyond procNum cpuNum)
    | child id => exact Option.Rel.none
  · constructor
    · exact fun _ i keeps => absurd keeps.2 (Nat.not_lt_zero i)
    · exact fun _ i keeps => absurd keeps.2 (Nat.not_lt_zero i)
    · exact fun i held => by cases held
    · exact fun id i held => by cases held
    · exact fun pid fd held => by cases held
  · constructor
    · exact fun i present => absurd rfl present
    · exact fun i found => by cases found
    · exact fun i found => by cases found
    · exact fun i phase found => by cases found
    · exact fun i _ event found => by cases found

end McKernelTest.CpuProcLimits
