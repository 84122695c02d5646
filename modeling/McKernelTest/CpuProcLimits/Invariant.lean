import McKernelTest.CpuProcLimits.Protocol

/-!
# What every run of `cpu_proc_limits#0` keeps

The parent's stage decides which descriptors it holds and which children can
exist.  A child holds the write end of no answer pipe but its own, and a child
that is gone has answered, has found its kick pipe closed, or was killed in
silence.
-/

namespace McKernelTest.CpuProcLimits

open Posix Process Transition

/-- Child `i` writes its answer. -/
def isAnswer (i : Nat) : LimitsEvent → Bool
  | .call (.child id) (.write _ _) _ => id = i
  | _ => false

/-- Child `i` has not answered. -/
def Silent (i : Nat) (trace : List LimitsEvent) : Prop :=
  ∀ event ∈ trace, isAnswer i event = false

/-- Child `i` is killed at some point, and has not answered before. -/
def KilledSilent (i : Nat) (trace : List LimitsEvent) : Prop :=
  ∃ before after, trace = before ++ .external i :: after ∧ Silent i before

/-! ## What the stages say about the processes -/

namespace Stage

/-- The stage of a parent. -/
def IsParent : Stage → Prop
  | .child _ _ => False
  | _ => True

/-- The parent can still kick child `i`. -/
def KeepsKick : Stage → Nat → Prop
  | .parent lo hi _, i => lo ≤ i ∧ i < hi
  | .piping hi, i | .ready hi, i => i ≤ hi
  | _, _ => False

/-- The parent can still read the answer of child `i`. -/
def KeepsAnswer : Stage → Nat → Prop
  | .parent lo hi _, i => lo ≤ i ∧ i < hi
  | .piping hi, i => i < hi
  | .ready hi, i => i ≤ hi
  | _, _ => False

/-- The parent may hold the write end of child `i`'s answer pipe. -/
def MayWrite : Stage → Nat → Prop
  | .parent _ _ write, i => write = some i
  | .piping _, _ => False
  | .ready hi, i => i = hi
  | _, _ => True

/-- The parent will not read the answer of child `i` any more. -/
def Past : Stage → Nat → Prop
  | .parent lo _ _, i => i < lo
  | .piping _, _ | .ready _, _ => False
  | _, _ => True

/-- Child `i` may exist. -/
def Started : Stage → Nat → Prop
  | .parent _ hi _, i | .piping hi, i | .ready hi, i => i < hi
  | _, _ => True

theorem keeps_or_past {stage : Stage} {i : Nat} (started : stage.Started i) :
    (stage.KeepsKick i ∧ stage.KeepsAnswer i) ∨ stage.Past i := by
  cases stage with
  | parent lo hi write =>
      simp only [Started, KeepsKick, KeepsAnswer, Past] at started ⊢
      omega
  | piping hi => exact Or.inl ⟨Nat.le_of_lt started, started⟩
  | ready hi => exact Or.inl ⟨Nat.le_of_lt started, Nat.le_of_lt started⟩
  | lost => exact Or.inr trivial
  | child => exact Or.inr trivial

end Stage

/-- Whose descriptors are open. -/
structure Descriptors (world : World) (stage : Stage) : Prop where
  kick : world.alive .parent = true → ∀ i, stage.KeepsKick i →
    (.parent, p2cWrite i) ∈ world.opens
  answer : world.alive .parent = true → ∀ i, stage.KeepsAnswer i →
    (.parent, c2pRead i) ∈ world.opens
  parentWrites : ∀ i, (.parent, c2pWrite i) ∈ world.opens → stage.MayWrite i
  childWrites : ∀ id i, (.child id, c2pWrite i) ∈ world.opens → i = id
  living : ∀ pid fd, (pid, fd) ∈ world.opens → world.alive pid = true

/-- The parent is dead or will not read the answer of child `i` any more. -/
def ParentPast (world : World) (stage : Stage) (i : Nat) : Prop :=
  world.alive .parent = false ∨ stage.Past i

/-- What has become of the children. -/
structure Children (trace : List LimitsEvent) (world : World) (stage : Stage)
    (phases : Nat → Option Phase) : Prop where
  started : ∀ i, phases i ≠ none → stage.Started i
  leaving : ∀ i, phases i = some .leaving → ParentPast world stage i
  answered : ∀ i, phases i = some .answered →
    world.queue (.c2p i) ≠ [] ∨ ParentPast world stage i
  killed : ∀ i phase, phases i = some phase → world.alive (.child i) = false →
    KilledSilent i trace ∨ phase = .answered ∨ phase = .leaving
  silent : ∀ i, phases i ≠ some .answered → Silent i trace

/-- The stages of all processes. -/
def stagesOf (stage : Stage) (phases : Nat → Option Phase) : Pid → Option Stage
  | .parent => some stage
  | .child id => (phases id).map (.child id)

/-- What every run keeps. -/
def Invariant (last : Nat) (trace : List LimitsEvent) (config : LimitsConfig) : Prop :=
  ∃ stage phases, stage.IsParent ∧
    (protocol last).Tracks finished (stagesOf stage phases) config.code ∧
    Descriptors config.world stage ∧ Children trace config.world stage phases

/-! ## Histories -/

theorem Silent.snoc {i : Nat} {trace : List LimitsEvent} {event : LimitsEvent}
    (silent : Silent i trace) (quiet : isAnswer i event = false) : Silent i (trace ++ [event]) := by
  intro other found
  rcases List.mem_append.mp found with earlier | now
  · exact silent other earlier
  · rw [List.mem_singleton.mp now]
    exact quiet

theorem KilledSilent.snoc {i : Nat} {trace : List LimitsEvent} (event : LimitsEvent)
    (killed : KilledSilent i trace) : KilledSilent i (trace ++ [event]) := by
  rcases killed with ⟨before, after, rfl, silent⟩
  exact ⟨before, after ++ [event], by simp, silent⟩

theorem KilledSilent.now {i : Nat} {trace : List LimitsEvent} (silent : Silent i trace) :
    KilledSilent i (trace ++ [.external i]) :=
  ⟨trace, [], rfl, silent⟩

theorem stagesOf_update_parent (stage following : Stage) (phases : Nat → Option Phase) :
    Function.update (stagesOf stage phases) .parent (some following) =
      stagesOf following phases := by
  funext pid
  cases pid <;> rfl

theorem stagesOf_update_child (stage : Stage) (phases : Nat → Option Phase) (id : Nat)
    (phase : Phase) :
    Function.update (stagesOf stage phases) (.child id) (some (.child id phase)) =
      stagesOf stage (Function.update phases id (some phase)) := by
  funext pid
  cases pid with
  | parent => rfl
  | child other =>
      by_cases same : other = id
      · subst same
        simp [stagesOf]
      · have different : Pid.child other ≠ .child id := by simpa using same
        simp [stagesOf, Function.update_of_ne different, Function.update_of_ne same]

/-! ## Descriptors -/

section Descriptors

variable {world : World} {stage following : Stage}

/-- The descriptors stay as they are, and the stage asks for no more. -/
theorem Descriptors.weaken (descriptors : Descriptors world stage)
    (kick : ∀ i, following.KeepsKick i → stage.KeepsKick i)
    (answer : ∀ i, following.KeepsAnswer i → stage.KeepsAnswer i)
    (writes : ∀ i, stage.MayWrite i → following.MayWrite i) : Descriptors world following where
  kick := fun living i keeps => descriptors.kick living i (kick i keeps)
  answer := fun living i keeps => descriptors.answer living i (answer i keeps)
  parentWrites := fun i held => writes i (descriptors.parentWrites i held)
  childWrites := descriptors.childWrites
  living := descriptors.living

theorem Descriptors.lose (descriptors : Descriptors world stage) : Descriptors world .lost :=
  descriptors.weaken (fun _ keeps => keeps.elim) (fun _ keeps => keeps.elim) fun _ _ => trivial

theorem Descriptors.queue (descriptors : Descriptors world stage)
    (queue : PipeId → List UInt8) : Descriptors { world with queue := queue } stage :=
  ⟨descriptors.kick, descriptors.answer, descriptors.parentWrites, descriptors.childWrites,
    descriptors.living⟩

theorem Descriptors.die (descriptors : Descriptors world stage) (pid : Pid) :
    Descriptors (world.die pid) stage := by
  have alive_of : ∀ other, (world.die pid).alive other = true →
      world.alive other = true ∧ other ≠ pid := by
    intro other living
    by_cases same : other = pid
    · subst same
      simp [World.die] at living
    · simp only [World.die, Function.update_of_ne same] at living
      exact ⟨living, same⟩
  have mem_iff : ∀ other fd, (other, fd) ∈ (world.die pid).opens ↔
      (other, fd) ∈ world.opens ∧ other ≠ pid := by
    intro other fd
    simp [World.die]
  constructor
  · intro living i keeps
    have survives := alive_of .parent living
    exact (mem_iff _ _).mpr ⟨descriptors.kick survives.1 i keeps, survives.2⟩
  · intro living i keeps
    have survives := alive_of .parent living
    exact (mem_iff _ _).mpr ⟨descriptors.answer survives.1 i keeps, survives.2⟩
  · intro i held
    exact descriptors.parentWrites i ((mem_iff _ _).mp held).1
  · intro id i held
    exact descriptors.childWrites id i ((mem_iff _ _).mp held).1
  · intro other fd held
    have survives := (mem_iff _ _).mp held
    simp only [World.die, Function.update_of_ne survives.2]
    exact descriptors.living other fd survives.1

theorem Descriptors.close (descriptors : Descriptors world stage) (pid : Pid) (fd : Fd)
    (kick : ∀ i, following.KeepsKick i →
      stage.KeepsKick i ∧ (Pid.parent, p2cWrite i) ≠ (pid, fd))
    (answer : ∀ i, following.KeepsAnswer i →
      stage.KeepsAnswer i ∧ (Pid.parent, c2pRead i) ≠ (pid, fd))
    (writes : ∀ i, stage.MayWrite i → (Pid.parent, c2pWrite i) ≠ (pid, fd) →
      following.MayWrite i) :
    Descriptors { world with opens := world.opens.filter fun entry => entry ≠ (pid, fd) }
      following := by
  have mem_iff : ∀ entry, entry ∈ world.opens.filter (fun entry => entry ≠ (pid, fd)) ↔
      entry ∈ world.opens ∧ entry ≠ (pid, fd) := by
    simp [List.mem_filter]
  constructor
  · intro living i keeps
    exact (mem_iff _).mpr ⟨descriptors.kick living i (kick i keeps).1, (kick i keeps).2⟩
  · intro living i keeps
    exact (mem_iff _).mpr ⟨descriptors.answer living i (answer i keeps).1, (answer i keeps).2⟩
  · intro i held
    rcases (mem_iff _).mp held with ⟨before, other⟩
    exact writes i (descriptors.parentWrites i before) other
  · intro id i held
    exact descriptors.childWrites id i ((mem_iff _).mp held).1
  · intro other kept held
    exact descriptors.living other kept ((mem_iff _).mp held).1

theorem Descriptors.close_child (descriptors : Descriptors world stage) (id : Nat) (fd : Fd) :
    Descriptors { world with opens := world.opens.filter fun entry => entry ≠ (.child id, fd) }
      stage :=
  descriptors.close (.child id) fd (fun _ keeps => ⟨keeps, by simp⟩)
    (fun _ keeps => ⟨keeps, by simp⟩) fun _ writes _ => writes

theorem Descriptors.pipe (descriptors : Descriptors world stage) (name : PipeId)
    (living : world.alive .parent = true)
    (kick : ∀ i, following.KeepsKick i → stage.KeepsKick i ∨ name = .p2c i)
    (answer : ∀ i, following.KeepsAnswer i → stage.KeepsAnswer i ∨ name = .c2p i)
    (writes : ∀ i, stage.MayWrite i ∨ name = .c2p i → following.MayWrite i) :
    Descriptors
      { world with
        opens := (.parent, ⟨name, .readEnd⟩) :: (.parent, ⟨name, .writeEnd⟩) :: world.opens }
      following := by
  constructor
  · intro _ i keeps
    rcases kick i keeps with before | rfl
    · exact List.mem_cons_of_mem _ (List.mem_cons_of_mem _ (descriptors.kick living i before))
    · exact List.mem_cons_of_mem _ List.mem_cons_self
  · intro _ i keeps
    rcases answer i keeps with before | rfl
    · exact List.mem_cons_of_mem _ (List.mem_cons_of_mem _ (descriptors.answer living i before))
    · exact List.mem_cons_self
  · intro i held
    simp only [List.mem_cons, Prod.mk.injEq, true_and, c2pWrite, Fd.mk.injEq, reduceCtorEq,
      and_false, and_true, false_or] at held
    rcases held with made | before
    · exact writes i (Or.inr made.symm)
    · exact writes i (Or.inl (descriptors.parentWrites i before))
  · intro id i held
    simp only [List.mem_cons, Prod.mk.injEq, reduceCtorEq, false_and, false_or] at held
    exact descriptors.childWrites id i held
  · intro pid fd held
    simp only [List.mem_cons, Prod.mk.injEq] at held
    rcases held with ⟨rfl, -⟩ | ⟨rfl, -⟩ | before
    · exact living
    · exact living
    · exact descriptors.living pid fd before

theorem Descriptors.birth {hi : Nat} (descriptors : Descriptors world (.ready hi))
    (living : world.alive .parent = true) :
    Descriptors (world.birth .parent (.child hi)) (.parent 0 (hi + 1) (some hi)) := by
  have mem_iff : ∀ pid fd, (pid, fd) ∈ (world.birth .parent (.child hi)).opens ↔
      (pid, fd) ∈ world.opens ∨ pid = .child hi ∧ (.parent, fd) ∈ world.opens := by
    intro pid fd
    simp only [World.birth, List.mem_append, List.mem_map, List.mem_filter, Prod.exists,
      Prod.mk.injEq]
    aesop
  constructor
  · intro _ i keeps
    exact (mem_iff _ _).mpr (Or.inl (descriptors.kick living i (Nat.le_of_lt_succ keeps.2)))
  · intro _ i keeps
    exact (mem_iff _ _).mpr (Or.inl (descriptors.answer living i (Nat.le_of_lt_succ keeps.2)))
  · intro i held
    rcases (mem_iff _ _).mp held with before | ⟨impossible, -⟩
    · have same : i = hi := descriptors.parentWrites i before
      rw [same]
      exact rfl
    · cases impossible
  · intro id i held
    rcases (mem_iff _ _).mp held with before | ⟨same, copied⟩
    · exact descriptors.childWrites id i before
    · cases same
      exact descriptors.parentWrites i copied
  · intro pid fd held
    by_cases born : pid = .child hi
    · subst born
      simp [World.birth]
    · rcases (mem_iff _ _).mp held with before | ⟨same, -⟩
      · simp only [World.birth, Function.update_of_ne born]
        exact descriptors.living pid fd before
      · exact absurd same born

end Descriptors

/-! ## Children -/

section Children

variable {trace : List LimitsEvent} {world target : World} {stage following : Stage}
  {phases : Nat → Option Phase} {event : LimitsEvent}

/-- A step that neither kills nor starts a child and is no answer. -/
theorem Children.advance (children : Children trace world stage phases)
    (noAnswer : ∀ i, isAnswer i event = false)
    (started : ∀ i, stage.Started i → following.Started i)
    (past : ∀ i, ParentPast world stage i → ParentPast target following i)
    (childAlive : ∀ i, target.alive (.child i) = world.alive (.child i))
    (queue : ∀ i, world.queue (.c2p i) ≠ [] →
      target.queue (.c2p i) ≠ [] ∨ ParentPast target following i) :
    Children (trace ++ [event]) target following phases where
  started := fun i exists_ => started i (children.started i exists_)
  leaving := fun i leaves => past i (children.leaving i leaves)
  answered := fun i answers => (children.answered i answers).elim (queue i) fun before =>
    Or.inr (past i before)
  killed := fun i phase current dead =>
    (children.killed i phase current (childAlive i ▸ dead)).imp_left fun killed => killed.snoc event
  silent := fun i unanswered => (children.silent i unanswered).snoc (noAnswer i)

/-- A step that changes neither the stages nor the answers. -/
theorem Children.idle (children : Children trace world stage phases)
    (noAnswer : ∀ i, isAnswer i event = false) (alive : target.alive = world.alive)
    (queue : ∀ i, target.queue (.c2p i) = world.queue (.c2p i)) :
    Children (trace ++ [event]) target stage phases := by
  apply children.advance noAnswer (fun _ started => started)
  · intro i past
    rwa [ParentPast, alive]
  · exact fun i => congrFun alive _
  · intro i nonempty
    rw [queue i]
    exact Or.inl nonempty

/-- The parent gives up. -/
theorem Children.lose (children : Children trace world stage phases)
    (noAnswer : ∀ i, isAnswer i event = false) : Children (trace ++ [event]) world .lost phases :=
  children.advance noAnswer (fun _ _ => trivial) (fun _ _ => Or.inr trivial) (fun _ => rfl)
    fun _ nonempty => Or.inl nonempty

/-- A step of child `id`. -/
theorem Children.setPhase {id : Nat} {phase new : Phase}
    (children : Children trace world stage phases) (current : phases id = some phase)
    (parentAlive : target.alive .parent = world.alive .parent)
    (othersAlive : ∀ i, i ≠ id → target.alive (.child i) = world.alive (.child i))
    (queue : ∀ i, i ≠ id → target.queue (.c2p i) = world.queue (.c2p i))
    (leaves : new = .leaving → ParentPast target stage id)
    (answers : new = .answered → target.queue (.c2p id) ≠ [] ∨ ParentPast target stage id)
    (dies : target.alive (.child id) = false → new = .answered ∨ new = .leaving)
    (answerEvent : ∀ i, isAnswer i event = true → i = id ∧ new = .answered)
    (kept : phase = .answered → new = .answered) :
    Children (trace ++ [event]) target stage (Function.update phases id (some new)) := by
  have past : ∀ i, ParentPast world stage i → ParentPast target stage i := by
    intro i before
    rwa [ParentPast, parentAlive]
  constructor
  · intro i present
    rw [Ne, update_eq_none_iff current] at present
    exact children.started i present
  · intro i found
    rcases update_eq_some_iff.mp found with ⟨rfl, now⟩ | ⟨-, before⟩
    · exact leaves now
    · exact past i (children.leaving i before)
  · intro i found
    rcases update_eq_some_iff.mp found with ⟨rfl, now⟩ | ⟨different, before⟩
    · exact answers now
    · rw [queue i different]
      exact (children.answered i before).imp_right (past i)
  · intro i other found dead
    rcases update_eq_some_iff.mp found with ⟨rfl, rfl⟩ | ⟨different, before⟩
    · exact Or.inr (dies dead)
    · rw [othersAlive i different] at dead
      exact (children.killed i other before dead).imp_left fun killed => killed.snoc event
  · intro i unanswered
    have noAnswer : isAnswer i event = false := by
      by_contra answer
      rcases answerEvent i (by simpa using answer) with ⟨rfl, rfl⟩
      exact unanswered (Function.update_self ..)
    apply (children.silent i _).snoc noAnswer
    intro answered
    apply unanswered
    rw [update_eq_some_iff]
    by_cases same : i = id
    · subst same
      exact Or.inl ⟨rfl, kept (Option.some.inj (current.symm.trans answered))⟩
    · exact Or.inr ⟨same, answered⟩

/-- The death of a child that has not answered is one that the parent may
have to wait for. -/
theorem Children.kill {id : Nat} (children : Children trace world stage phases) :
    Children (trace ++ [.external id]) (world.die (.child id)) stage phases := by
  have parentAlive : (world.die (.child id)).alive .parent = world.alive .parent := by
    simp [World.die]
  have past : ∀ i, ParentPast world stage i → ParentPast (world.die (.child id)) stage i := by
    intro i before
    rwa [ParentPast, parentAlive]
  constructor
  · exact children.started
  · exact fun i found => past i (children.leaving i found)
  · exact fun i found => (children.answered i found).imp_right (past i)
  · intro i phase current dead
    by_cases same : i = id
    · subst same
      by_cases answered : phase = .answered
      · exact Or.inr (Or.inl answered)
      · refine Or.inl (KilledSilent.now (children.silent i ?_))
        rw [current]
        simpa using answered
    · have alive : (world.die (.child id)).alive (.child i) = world.alive (.child i) := by
        simp [World.die, same]
      exact (children.killed i phase current (alive ▸ dead)).imp_left fun killed => killed.snoc _
  · exact fun i unanswered => (children.silent i unanswered).snoc rfl

/-- A new child waits for its kick. -/
theorem Children.birth {hi : Nat} {pid : Int} (children : Children trace world (.ready hi) phases) :
    Children (trace ++ [.call .parent (.fork hi) pid]) (world.birth .parent (.child hi))
      (.parent 0 (hi + 1) (some hi)) (Function.update phases hi (some .waiting)) := by
  have unborn : phases hi = none := by
    by_contra born
    exact Nat.lt_irrefl hi (children.started hi born)
  have parentAlive : (world.birth .parent (.child hi)).alive .parent = world.alive .parent := by
    simp [World.birth]
  have past : ∀ i, ParentPast world (.ready hi) i →
      ParentPast (world.birth .parent (.child hi)) (.parent 0 (hi + 1) (some hi)) i := by
    rintro i (dead | impossible)
    · exact Or.inl (parentAlive ▸ dead)
    · exact impossible.elim
  have old : ∀ i phase, Function.update phases hi (some .waiting) i = some phase →
      phase ≠ .waiting → phases i = some phase := by
    intro i phase found notWaiting
    rcases update_eq_some_iff.mp found with ⟨-, waiting⟩ | ⟨-, before⟩
    · exact absurd waiting.symm notWaiting
    · exact before
  constructor
  · intro i present
    by_cases same : i = hi
    · rw [same]
      exact Nat.lt_succ_self hi
    · rw [Function.update_of_ne same] at present
      exact Nat.lt_succ_of_lt (children.started i present)
  · exact fun i found => past i (children.leaving i (old i _ found (by decide)))
  · exact fun i found => (children.answered i (old i _ found (by decide))).imp_right (past i)
  · intro i phase found dead
    rcases update_eq_some_iff.mp found with ⟨rfl, -⟩ | ⟨different, before⟩
    · simp [World.birth] at dead
    · have alive : (world.birth .parent (.child hi)).alive (.child i) =
          world.alive (.child i) := by
        simp [World.birth, different]
      exact (children.killed i phase before (alive ▸ dead)).imp_left fun killed => killed.snoc _
  · intro i unanswered
    apply (children.silent i _).snoc rfl
    by_cases same : i = hi
    · rw [same, unborn]
      exact nofun
    · rwa [Function.update_of_ne same] at unanswered

end Children

end McKernelTest.CpuProcLimits
