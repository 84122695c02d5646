import McKernelTest.Process.Core

/-!
# Threads as flow graphs

Code with loops that end only when another thread does something is not a tree.
Here a thread is at a point of its program; the point says which operation comes
next and where the thread goes on for each result.  A point carries the local
variables that are still needed, and every thread has points of its own type.

As with trees, the world decides which results an operation may have, and an
operation may start a thread.
-/

namespace McKernelTest.Flow

open Process Transition

/-- What comes at a point: an operation, or the end of the thread. -/
inductive Node (P Op : Type) (Res : Op → Type) where
  | call (op : Op) (next : Res op → P)
  | stop

/-- The programs of the threads and the world they act on.  `perform` is undefined on results
that the operation cannot have now, `spawn` names the thread that an operation starts and its
first point, and `external` is what happens without any thread. -/
structure System (Tid : Type) (P : Tid → Type) (Op : Type) (Res : Op → Type) (X W : Type) where
  node : (tid : Tid) → P tid → Node (P tid) Op Res
  perform : W → Tid → (op : Op) → Res op → Option W
  spawn : Tid → (op : Op) → Res op → Option ((tid : Tid) × P tid)
  external : W → X → Option W

/-- The world and the point of every thread that has been started. -/
structure Config (Tid : Type) (P : Tid → Type) (W : Type) where
  world : W
  point : (tid : Tid) → Option (P tid)

namespace System

variable {Tid : Type} {P : Tid → Type} {Op : Type} {Res : Op → Type} {X W : Type}
  [DecidableEq Tid]

/-- The points of all threads after one of them has gone on to `reached`. -/
def resume (system : System Tid P Op Res X W) (point : (tid : Tid) → Option (P tid)) (tid : Tid)
    (op : Op) (result : Res op) (reached : P tid) : (tid : Tid) → Option (P tid) :=
  let resumed := Function.update point tid (some reached)
  match system.spawn tid op result with
  | none => resumed
  | some ⟨started, start⟩ => Function.update resumed started (some start)

/-- A thread that starts no other only moves itself. -/
theorem resume_self {system : System Tid P Op Res X W} {point : (tid : Tid) → Option (P tid)}
    {tid : Tid} {op : Op} {result : Res op} {reached : P tid}
    (single : system.spawn tid op result = none) :
    system.resume point tid op result reached = Function.update point tid (some reached) := by
  simp [resume, single]

/-- A thread that starts another moves itself and puts the other at its start. -/
theorem resume_spawn {system : System Tid P Op Res X W} {point : (tid : Tid) → Option (P tid)}
    {tid started : Tid} {op : Op} {result : Res op} {reached : P tid} {start : P started}
    (spawned : system.spawn tid op result = some ⟨started, start⟩) :
    system.resume point tid op result reached =
      Function.update (Function.update point tid (some reached)) started (some start) := by
  simp [resume, spawned]

/-- A thread does not start itself again. -/
theorem resume_same {system : System Tid P Op Res X W} {point : (tid : Tid) → Option (P tid)}
    {tid : Tid} {op : Op} {result : Res op} {reached : P tid}
    (others : ∀ started, system.spawn tid op result = some started → started.1 ≠ tid) :
    system.resume point tid op result reached tid = some reached := by
  cases spawned : system.spawn tid op result with
  | none => rw [resume_self spawned, Function.update_self]
  | some started =>
      rw [resume_spawn spawned, Function.update_of_ne (others started spawned).symm,
        Function.update_self]

variable [DecidableEq Op]

/-- One step of the whole system. -/
def step (system : System Tid P Op Res X W) : Step (Config Tid P W) (Event Tid Op Res X)
  | config, .external cause =>
      (system.external config.world cause).map fun world => { config with world := world }
  | config, .call tid op result =>
      match (config.point tid).map (system.node tid) with
      | some (.call current next) =>
          if same : current = op then
            (system.perform config.world tid op result).map fun world =>
              ⟨world, system.resume config.point tid op result (next (same ▸ result))⟩
          else
            none
      | _ => none

/-- What a step of a thread can be. -/
theorem step_call_eq_some_iff (system : System Tid P Op Res X W) (config target : Config Tid P W)
    (tid : Tid) (op : Op) (result : Res op) :
    system.step config (.call tid op result) = some target ↔
      ∃ point next world, config.point tid = some point ∧ system.node tid point = .call op next ∧
        system.perform config.world tid op result = some world ∧
        target = ⟨world, system.resume config.point tid op result (next result)⟩ := by
  simp only [step]
  constructor
  · intro stepped
    split at stepped
    · rename_i current next found
      rcases Option.map_eq_some_iff.mp found with ⟨point, isPoint, isNode⟩
      split at stepped
      · rename_i same
        subst same
        obtain ⟨world, performed, rfl⟩ := Option.map_eq_some_iff.mp stepped
        exact ⟨point, next, world, isPoint, isNode, performed, rfl⟩
      · contradiction
    · contradiction
  · rintro ⟨point, next, world, isPoint, isNode, performed, rfl⟩
    simp [isPoint, isNode, performed]

/-- What a step of the environment can be. -/
theorem step_external_eq_some_iff (system : System Tid P Op Res X W)
    (config target : Config Tid P W) (cause : X) :
    system.step config (.external cause) = some target ↔
      ∃ world, system.external config.world cause = some world ∧
        target = ⟨world, config.point⟩ := by
  simp only [step, Option.map_eq_some_iff]
  constructor
  · rintro ⟨world, changed, rfl⟩
    exact ⟨world, changed, rfl⟩
  · rintro ⟨world, changed, rfl⟩
    exact ⟨world, changed, rfl⟩

/-- A call that is possible is a step. -/
theorem step_call {system : System Tid P Op Res X W} {config : Config Tid P W} (tid : Tid)
    (op : Op) (result : Res op) {point : P tid} {next : Res op → P tid} {world : W}
    (isPoint : config.point tid = some point) (isNode : system.node tid point = .call op next)
    (performed : system.perform config.world tid op result = some world) :
    system.step config (.call tid op result) =
      some ⟨world, system.resume config.point tid op result (next result)⟩ :=
  (step_call_eq_some_iff _ _ _ _ _ _).mpr
    ⟨point, next, world, isPoint, isNode, performed, rfl⟩

end System

end McKernelTest.Flow
