import Mathlib.Init

/-!
# Sequential code with state and failures

`Returns code state value after` says that the code, started in `state`, returns
`value` without a failure and leaves `after` behind.  The rules below follow the
structure of the code.
-/

namespace McKernelTest.Process

variable {E S A B : Type} {code : ExceptT E (StateM S) A} {rest : A → ExceptT E (StateM S) B}
  {state middle after : S} {value : A} {result : B}

/-- The code returns without a failure. -/
def Returns (code : ExceptT E (StateM S) A) (state : S) (value : A) (after : S) : Prop :=
  code.run state = (.ok value, after)

theorem Returns.pure : Returns (pure value : ExceptT E (StateM S) A) state value state :=
  rfl

theorem Returns.get : Returns (MonadState.get : ExceptT E (StateM S) S) state state state :=
  rfl

theorem Returns.set :
    Returns (MonadStateOf.set after : ExceptT E (StateM S) PUnit) state ⟨⟩ after :=
  rfl

theorem returns_modify (change : S → S) :
    Returns (modify change : ExceptT E (StateM S) PUnit) state ⟨⟩ (change state) :=
  rfl

/-- Code returns in one way only. -/
theorem Returns.iff {other : A} (returns : Returns code state value middle) :
    Returns code state other after ↔ value = other ∧ middle = after := by
  rw [Returns, returns]
  constructor
  · intro same
    cases same
    exact ⟨rfl, rfl⟩
  · rintro ⟨rfl, rfl⟩
    rfl

/-- The second part runs only if the first one returns. -/
theorem run_bind (code : ExceptT E (StateM S) A) (rest : A → ExceptT E (StateM S) B) (state : S) :
    (code >>= rest).run state =
      (match code.run state with
        | (.ok value, middle) => (rest value).run middle
        | (.error failure, middle) => (.error failure, middle)) := by
  change (match code.run state with
    | (outcome, middle) => ExceptT.bindCont rest outcome middle) = _
  rcases code.run state with ⟨outcome, middle⟩
  cases outcome <;> rfl

/-- Code in sequence. -/
theorem Returns.bind (first : Returns code state value middle)
    (second : Returns (rest value) middle result after) :
    Returns (code >>= rest) state result after := by
  rw [Returns, run_bind, first]
  exact second

/-- Code that returns does so in all its parts. -/
theorem returns_bind_iff :
    Returns (code >>= rest) state result after ↔
      ∃ value middle, Returns code state value middle ∧
        Returns (rest value) middle result after := by
  constructor
  · intro returns
    rw [Returns, run_bind] at returns
    rcases found : code.run state with ⟨value | failure, middle⟩
    · rw [found] at returns
      cases returns
    · rw [found] at returns
      exact ⟨_, middle, found, returns⟩
  · rintro ⟨value, middle, first, second⟩
    exact first.bind second

end McKernelTest.Process
