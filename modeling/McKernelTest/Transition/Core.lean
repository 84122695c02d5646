import Mathlib.Data.List.Basic
import Mathlib.Data.List.Induction

/-!
# Scheduled partial transitions

A concurrent program is driven from outside: a scheduler picks who moves, and
the environment picks what an operation returns.  Both choices are one action.
A transition is a partial function of the state and the action, and a run is a
finite list of actions that are all defined.

Runs are guarded.  The guard is a condition on the state before a step and on
the action taken there, so that the runs which avoid a particular behaviour
can be named without changing the transition itself.
-/

namespace McKernelTest.Transition

universe u v

/-- A partial transition driven by actions.  An action that the current state
cannot perform has no successor. -/
abbrev Step (σ : Type u) (α : Type v) := σ → α → Option σ

/-- A condition on the steps a run may take. -/
abbrev Guard (σ : Type u) (α : Type v) := σ → α → Prop

/-- The guard that admits every step. -/
def anyStep {σ : Type u} {α : Type v} : Guard σ α :=
  fun _ _ => True

instance {σ : Type u} {α : Type v} (state : σ) (action : α) :
    Decidable (anyStep state action) :=
  isTrue trivial

/-- Execute a whole schedule.  One undefined or refused step makes the result
undefined. -/
def execute {σ : Type u} {α : Type v} (next : Step σ α) (guard : Guard σ α)
    [∀ state action, Decidable (guard state action)] : σ → List α → Option σ
  | state, [] => some state
  | state, action :: rest =>
      if guard state action then
        (next state action).bind fun state => execute next guard state rest
      else
        none

/-- `GuardedRun next guard source trace target` holds when the actions of
`trace`, in order, lead from `source` to `target` and every one of them meets
the guard in the state where it is taken. -/
inductive GuardedRun {σ : Type u} {α : Type v} (next : Step σ α) (guard : Guard σ α)
    (source : σ) : List α → σ → Prop
  | nil : GuardedRun next guard source [] source
  | snoc {trace : List α} {middle target : σ} {action : α} :
      GuardedRun next guard source trace middle →
      guard middle action →
      next middle action = some target →
      GuardedRun next guard source (trace ++ [action]) target

/-- A run without any condition on its steps. -/
abbrev Run {σ : Type u} {α : Type v} (next : Step σ α) (source : σ) :
    List α → σ → Prop :=
  GuardedRun next anyStep source

variable {σ : Type u} {α : Type v} {next : Step σ α} {guard : Guard σ α}

/-- Forgetting the guard leaves a run. -/
theorem GuardedRun.run {source target : σ} {trace : List α}
    (guarded : GuardedRun next guard source trace target) :
    Run next source trace target := by
  induction guarded with
  | nil => exact GuardedRun.nil
  | snoc _ _ step ih => exact GuardedRun.snoc ih trivial step

/-- Runs compose. -/
theorem GuardedRun.append {source middle target : σ} {first second : List α}
    (before : GuardedRun next guard source first middle)
    (after : GuardedRun next guard middle second target) :
    GuardedRun next guard source (first ++ second) target := by
  induction after with
  | nil => simpa using before
  | snoc _ allowed step ih =>
      rw [← List.append_assoc]
      exact GuardedRun.snoc ih allowed step

/-- A single step is a run. -/
theorem GuardedRun.single {source target : σ} {action : α} (allowed : guard source action)
    (step : next source action = some target) :
    GuardedRun next guard source [action] target := by
  have start : GuardedRun next guard source [] source := GuardedRun.nil
  simpa using start.snoc allowed step

/-- The last step of a run. -/
theorem GuardedRun.last {source target : σ} {trace : List α} {action : α}
    (guarded : GuardedRun next guard source (trace ++ [action]) target) :
    ∃ middle, GuardedRun next guard source trace middle ∧ guard middle action ∧
      next middle action = some target := by
  generalize whole : trace ++ [action] = all at guarded
  cases guarded with
  | nil => simp at whole
  | snoc before allowed step =>
      obtain ⟨rfl, isAction⟩ := List.append_inj' whole rfl
      cases isAction
      exact ⟨_, before, allowed, step⟩

/-- A run of two schedules in sequence passes through a state between them. -/
theorem GuardedRun.split {source target : σ} {first second : List α}
    (guarded : GuardedRun next guard source (first ++ second) target) :
    ∃ middle, GuardedRun next guard source first middle ∧
      GuardedRun next guard middle second target := by
  induction second using List.reverseRecOn generalizing target with
  | nil =>
      rw [List.append_nil] at guarded
      exact ⟨target, guarded, GuardedRun.nil⟩
  | append_singleton second action ih =>
      rw [← List.append_assoc] at guarded
      obtain ⟨before, reached, allowed, step⟩ := guarded.last
      obtain ⟨middle, begins, ends⟩ := ih reached
      exact ⟨middle, begins, ends.snoc allowed step⟩

/-- A schedule that executes gives a run. -/
theorem GuardedRun.of_execute [∀ state action, Decidable (guard state action)]
    {source target : σ} {trace : List α}
    (executed : execute next guard source trace = some target) :
    GuardedRun next guard source trace target := by
  induction trace generalizing source with
  | nil =>
      cases executed
      exact GuardedRun.nil
  | cons action rest ih =>
      rcases Option.ite_none_right_eq_some.mp executed with ⟨allowed, executed⟩
      rcases Option.bind_eq_some_iff.mp executed with ⟨middle, first, remaining⟩
      exact (GuardedRun.single allowed first).append (ih remaining)

/-- The invariant rule.  A relation between the actions taken so far and the
state reached holds along every guarded run if it holds at the start and every
guarded step keeps it. -/
theorem GuardedRun.invariant {source target : σ} {trace : List α}
    {Inv : List α → σ → Prop}
    (guarded : GuardedRun next guard source trace target)
    (initial : Inv [] source)
    (preserved : ∀ trace middle action target, Inv trace middle → guard middle action →
      next middle action = some target → Inv (trace ++ [action]) target) :
    Inv trace target := by
  induction guarded with
  | nil => exact initial
  | snoc _ allowed step ih => exact preserved _ _ _ _ ih allowed step

/-- The invariant rule for a property of the state alone. -/
theorem GuardedRun.preserves {source target : σ} {trace : List α} {Inv : σ → Prop}
    (guarded : GuardedRun next guard source trace target) (initial : Inv source)
    (preserved : ∀ middle action target, Inv middle → guard middle action →
      next middle action = some target → Inv target) :
    Inv target := by
  induction guarded with
  | nil => exact initial
  | snoc _ allowed step ih => exact preserved _ _ _ ih allowed step

/-- A state without any step is the end of its runs. -/
theorem GuardedRun.eq_nil_of_stuck {source target : σ} {trace : List α}
    (guarded : GuardedRun next guard source trace target)
    (stuck : ∀ action, next source action = none) : trace = [] ∧ target = source := by
  induction guarded with
  | nil => exact ⟨rfl, rfl⟩
  | snoc _ _ step ih =>
      rw [ih.2, stuck] at step
      contradiction

end McKernelTest.Transition
