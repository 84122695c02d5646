import McKernelTest.Transition.Core
import Mathlib.Logic.Function.Basic

/-!
# Interleaved processes

Sequential code is a tree: it has returned, or it is about to perform an
operation and continues according to the result.  Processes run such code
against a shared world.  The world decides which results an operation may
have; an operation without a possible result blocks its process.

An operation may also start a process, as `fork` and `pthread_create` do, and
the world may change on its own, as when a process is killed.
-/

namespace McKernelTest.Process

open Transition

/-- Sequential code over operations `Op` with results `Res`, returning `A`. -/
inductive Code (Op : Type) (Res : Op → Type) (A : Type) where
  | ret (value : A)
  | call (op : Op) (next : Res op → Code Op Res A)

namespace Code

variable {Op : Type} {Res : Op → Type} {A B : Type}

/-- Sequential composition. -/
def bind : Code Op Res A → (A → Code Op Res B) → Code Op Res B
  | .ret value, rest => rest value
  | .call op next, rest => .call op fun result => (next result).bind rest

instance : Monad (Code Op Res) where
  pure := .ret
  bind := bind

/-- The code that performs one operation and returns its result. -/
def perform (op : Op) : Code Op Res (Res op) :=
  .call op .ret

@[simp]
theorem pure_eq (value : A) : (pure value : Code Op Res A) = .ret value :=
  rfl

@[simp]
theorem ret_bind (value : A) (rest : A → Code Op Res B) :
    (Code.ret value >>= rest) = rest value :=
  rfl

@[simp]
theorem call_bind (op : Op) (next : Res op → Code Op Res A) (rest : A → Code Op Res B) :
    (Code.call op next >>= rest) = .call op fun result => next result >>= rest :=
  rfl

@[simp]
theorem perform_bind (op : Op) (rest : Res op → Code Op Res B) :
    (perform op >>= rest) = .call op rest :=
  rfl

theorem bind_assoc {C : Type} (code : Code Op Res A) (middle : A → Code Op Res B)
    (rest : B → Code Op Res C) :
    (code >>= middle >>= rest) = (code >>= fun value => middle value >>= rest) := by
  induction code with
  | ret value => rfl
  | call op next ih => exact congrArg (Code.call op) (funext ih)

end Code

section Tables

variable {ι α : Type} [DecidableEq ι] {table : ι → Option α} {index other : ι} {old new found : α}

/-- Where an entry of a table comes from after one entry has been set. -/
theorem update_eq_some_iff :
    Function.update table index (some new) other = some found ↔
      other = index ∧ new = found ∨ other ≠ index ∧ table other = some found := by
  by_cases same : other = index
  · subst same
    simp
  · simp [same]

/-- Setting an entry that exists leaves the missing entries missing. -/
theorem update_eq_none_iff (current : table index = some old) :
    Function.update table index (some new) other = none ↔ table other = none := by
  by_cases same : other = index
  · subst same
    simp [current]
  · rw [Function.update_of_ne same]

/-- Setting an entry does not matter to values that it neither had nor gets. -/
theorem update_eq_some_iff_of_ne (current : table index ≠ some found) (different : new ≠ found) :
    Function.update table index (some new) other = some found ↔ table other = some found := by
  rw [update_eq_some_iff]
  constructor
  · rintro (⟨-, same⟩ | ⟨-, before⟩)
    · exact absurd same different
    · exact before
  · intro before
    refine Or.inr ⟨?_, before⟩
    rintro rfl
    exact current before

end Tables

/-- The shared world that processes `Pid` act on.  `perform` is undefined on
results the operation cannot have now; `spawn` names the process an operation
starts and its code; `external` is what happens without any process. -/
structure System (Pid Op : Type) (Res : Op → Type) (A X W : Type) where
  perform : W → Pid → (op : Op) → Res op → Option W
  spawn : Pid → (op : Op) → Res op → (Res op → Code Op Res A) → Option (Pid × Code Op Res A)
  external : W → X → Option W

/-- The world and the code every process has still to run. -/
structure Config (Pid Op : Type) (Res : Op → Type) (A W : Type) where
  world : W
  code : Pid → Option (Code Op Res A)

/-- A step of one process, with the operation and its result, or a step of the
environment. -/
inductive Event (Pid Op : Type) (Res : Op → Type) (X : Type) where
  | call (pid : Pid) (op : Op) (result : Res op)
  | external (cause : X)

namespace System

variable {Pid Op : Type} {Res : Op → Type} {A X W : Type}

/-- The code of all processes after `pid` got `result` from `op`. -/
def resume [DecidableEq Pid] (system : System Pid Op Res A X W)
    (code : Pid → Option (Code Op Res A)) (pid : Pid) (op : Op) (result : Res op)
    (next : Res op → Code Op Res A) : Pid → Option (Code Op Res A) :=
  let resumed := Function.update code pid (some (next result))
  match system.spawn pid op result next with
  | none => resumed
  | some (started, start) => Function.update resumed started (some start)

variable [DecidableEq Pid] [DecidableEq Op]

/-- One step of the whole system. -/
def step (system : System Pid Op Res A X W) :
    Step (Config Pid Op Res A W) (Event Pid Op Res X)
  | config, .external cause =>
      (system.external config.world cause).map fun world => { config with world := world }
  | config, .call pid op result =>
      match config.code pid with
      | some (.call current next) =>
          if same : current = op then
            (system.perform config.world pid op result).map fun world =>
              ⟨world, system.resume config.code pid op result (same ▸ next)⟩
          else
            none
      | _ => none

/-- What a step of a process can be. -/
theorem step_call_eq_some_iff (system : System Pid Op Res A X W)
    (config target : Config Pid Op Res A W) (pid : Pid) (op : Op) (result : Res op) :
    system.step config (.call pid op result) = some target ↔
      ∃ next world, config.code pid = some (.call op next) ∧
        system.perform config.world pid op result = some world ∧
        target = ⟨world, system.resume config.code pid op result next⟩ := by
  simp only [step]
  constructor
  · intro stepped
    split at stepped
    · rename_i current next found
      split at stepped
      · rename_i same
        subst same
        obtain ⟨world, performed, rfl⟩ := Option.map_eq_some_iff.mp stepped
        exact ⟨next, world, found, performed, rfl⟩
      · contradiction
    · contradiction
  · rintro ⟨next, world, found, performed, rfl⟩
    simp [found, performed]

/-- A run goes on with a call that is possible. -/
theorem run_call {system : System Pid Op Res A X W} {guard : Guard _ _}
    {source config : Config Pid Op Res A W} {trace : List (Event Pid Op Res X)} {world : W}
    (run : GuardedRun system.step guard source trace config) (pid : Pid) (op : Op) (result : Res op)
    {next : Res op → Code Op Res A} (allowed : guard config (.call pid op result))
    (found : config.code pid = some (.call op next))
    (performed : system.perform config.world pid op result = some world) :
    GuardedRun system.step guard source (trace ++ [.call pid op result])
      ⟨world, system.resume config.code pid op result next⟩ :=
  run.snoc allowed ((step_call_eq_some_iff _ _ _ _ _ _).mpr ⟨next, world, found, performed, rfl⟩)

/-- What a step of the environment can be. -/
theorem step_external_eq_some_iff (system : System Pid Op Res A X W)
    (config target : Config Pid Op Res A W) (cause : X) :
    system.step config (.external cause) = some target ↔
      ∃ world, system.external config.world cause = some world ∧
        target = ⟨world, config.code⟩ := by
  simp only [step, Option.map_eq_some_iff]
  constructor
  · rintro ⟨world, changed, rfl⟩
    exact ⟨world, changed, rfl⟩
  · rintro ⟨world, changed, rfl⟩
    exact ⟨world, changed, rfl⟩

/-- Nothing moves if every process that has something to do is refused. -/
theorem step_eq_none_of_refused {system : System Pid Op Res A Empty W}
    {config : Config Pid Op Res A W}
    (refused : ∀ pid op next result, config.code pid = some (.call op next) →
      system.perform config.world pid op result = none)
    (event : Event Pid Op Res Empty) : system.step config event = none := by
  cases event with
  | external cause => exact cause.elim
  | call pid op result =>
      by_contra possible
      rcases Option.ne_none_iff_exists'.mp possible with ⟨target, stepped⟩
      rcases (step_call_eq_some_iff _ _ _ _ _ _).mp stepped with ⟨next, world, found, performed, -⟩
      rw [refused pid op next result found] at performed
      cases performed

omit [DecidableEq Op] in
theorem resume_self {system : System Pid Op Res A X W} {code : Pid → Option (Code Op Res A)}
    {pid : Pid} {op : Op} {result : Res op} {next : Res op → Code Op Res A}
    (single : system.spawn pid op result next = none) :
    system.resume code pid op result next = Function.update code pid (some (next result)) := by
  simp [resume, single]

end System

end McKernelTest.Process
