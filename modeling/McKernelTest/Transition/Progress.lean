import McKernelTest.Transition.Core

/-!
# Progress

Threads that wait in a loop can run for ever, so what they achieve is stated as
possibility: whatever has happened, there is a way to go on to the goal.  It is
enough that outside the goal some step brings it nearer.
-/

namespace McKernelTest.Transition

universe u v

variable {σ : Type u} {α : Type v} {next : Step σ α} {guard : Guard σ α}

/-- The progress rule.  The invariant says how far the goal is away at most; if every state
outside the goal has a step that brings it nearer, the goal can be reached. -/
theorem exists_run_of_rank {Inv : ℕ → σ → Prop} {Goal : σ → Prop}
    (progress : ∀ height state, Inv height state → ¬Goal state → ∃ action target lower,
      guard state action ∧ next state action = some target ∧ Inv lower target ∧ lower < height)
    {height : ℕ} {source : σ} (initial : Inv height source) :
    ∃ trace target lower, GuardedRun next guard source trace target ∧ Inv lower target ∧
      Goal target := by
  induction height using Nat.strongRecOn generalizing source with
  | ind height ih =>
      by_cases reached : Goal source
      · exact ⟨[], source, height, GuardedRun.nil, initial, reached⟩
      · rcases progress height source initial reached with
          ⟨action, middle, lower, allowed, step, kept, less⟩
        rcases ih lower less kept with ⟨trace, target, final, run, goal⟩
        exact ⟨action :: trace, target, final, (GuardedRun.single allowed step).append run, goal⟩

end McKernelTest.Transition
