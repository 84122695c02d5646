import McKernelTest.Process.Core

/-!
# Protocols of sequential code

A protocol is an automaton over the operations of a program.  It says which
operations are allowed in a state and how a result changes the state.  A result
without a successor state is one the protocol makes no statement about.

`Follows` is the precondition calculus of a protocol: code follows it from a
state when every operation the code can reach is allowed there and every value
it can return satisfies the final condition.  It is defined by recursion on the
code, so a program is checked once, without any scheduling.
-/

namespace McKernelTest.Process

/-- An automaton over operations and their results. -/
structure Protocol (S Op : Type) (Res : Op → Type) where
  accepts : S → Op → Prop
  after : S → (op : Op) → Res op → Option S

namespace Protocol

variable {S Op : Type} {Res : Op → Type} {A B : Type} {protocol : Protocol S Op Res}

/-- The code keeps to the protocol from the given state on. -/
def Follows (protocol : Protocol S Op Res) (final : S → A → Prop) :
    Code Op Res A → S → Prop
  | .ret value, state => final state value
  | .call op next, state =>
      protocol.accepts state op ∧
        ∀ result following, protocol.after state op result = some following →
          protocol.Follows final (next result) following

@[simp]
theorem follows_ret (final : S → A → Prop) (value : A) (state : S) :
    protocol.Follows final (.ret value) state ↔ final state value :=
  Iff.rfl

theorem follows_call (final : S → A → Prop) (op : Op) (next : Res op → Code Op Res A)
    (state : S) :
    protocol.Follows final (.call op next) state ↔
      protocol.accepts state op ∧
        ∀ result following, protocol.after state op result = some following →
          protocol.Follows final (next result) following :=
  Iff.rfl

/-- The rule for a call in the form in which `simp` computes with it: it does
not enter the rest of the code before the state after the call is known. -/
@[simp]
theorem follows_call_match (final : S → A → Prop) (op : Op) (next : Res op → Code Op Res A)
    (state : S) :
    protocol.Follows final (.call op next) state ↔
      protocol.accepts state op ∧
        ∀ result, match protocol.after state op result with
          | none => True
          | some following => protocol.Follows final (next result) following := by
  rw [follows_call]
  apply and_congr_right
  intro _
  apply forall_congr'
  intro result
  cases protocol.after state op result with
  | none => simp
  | some following => simp

@[simp]
theorem follows_ite (final : S → A → Prop) (condition : Prop) [Decidable condition]
    (code other : Code Op Res A) (state : S) :
    protocol.Follows final (if condition then code else other) state ↔
      (condition → protocol.Follows final code state) ∧
        (¬condition → protocol.Follows final other state) := by
  split <;> simp [*]

/-- A result that is excluded by a condition. -/
@[simp]
theorem match_excluded (condition : Prop) [Decidable condition] (state : S) (P : S → Prop) :
    (match (if condition then none else some state : Option S) with
      | none => True
      | some following => P following) ↔ (¬condition → P state) := by
  split <;> simp_all

/-- A result that only a condition admits. -/
@[simp]
theorem match_admitted (condition : Prop) [Decidable condition] (state : S) (P : S → Prop) :
    (match (if condition then some state else none : Option S) with
      | none => True
      | some following => P following) ↔ (condition → P state) := by
  split <;> simp_all

/-- A weaker final condition. -/
theorem Follows.mono {weak strong : S → A → Prop} {code : Code Op Res A} {state : S}
    (follows : protocol.Follows strong code state)
    (weaker : ∀ state value, strong state value → weak state value) :
    protocol.Follows weak code state := by
  induction code generalizing state with
  | ret value => exact weaker state value follows
  | call op next ih =>
      exact ⟨follows.1, fun result following after => ih result (follows.2 result following after)⟩

/-- Code in sequence: what the first part ends with, the rest starts from. -/
theorem Follows.bind {final : S → B → Prop} {middle : S → A → Prop} {code : Code Op Res A}
    {rest : A → Code Op Res B} {state : S} (first : protocol.Follows middle code state)
    (second : ∀ state value, middle state value → protocol.Follows final (rest value) state) :
    protocol.Follows final (code >>= rest) state := by
  induction code generalizing state with
  | ret value => exact second state value first
  | call op next ih =>
      exact ⟨first.1, fun result following after => ih result (first.2 result following after)⟩

/-- Every process with a state follows the protocol from there. -/
def Tracks {Pid : Type} (protocol : Protocol S Op Res) (final : S → A → Prop)
    (states : Pid → Option S) (code : Pid → Option (Code Op Res A)) : Prop :=
  ∀ pid, Option.Rel (fun state code => protocol.Follows final code state) (states pid) (code pid)

section Tracks

variable {Pid : Type} {final : S → A → Prop} {states : Pid → Option S}
  {code : Pid → Option (Code Op Res A)}

/-- A process that is about to perform an operation is allowed to. -/
theorem Tracks.call {pid : Pid} {op : Op} {next : Res op → Code Op Res A}
    (tracks : protocol.Tracks final states code) (running : code pid = some (.call op next)) :
    ∃ state, states pid = some state ∧ protocol.Follows final (.call op next) state := by
  have related := tracks pid
  rw [running] at related
  generalize states pid = state at related ⊢
  cases related with
  | some follows => exact ⟨_, rfl, follows⟩

/-- Running or starting one process keeps track of the others. -/
theorem Tracks.update [DecidableEq Pid] {state : S} {start : Code Op Res A}
    (tracks : protocol.Tracks final states code) (pid : Pid)
    (follows : protocol.Follows final start state) :
    protocol.Tracks final (Function.update states pid (some state))
      (Function.update code pid (some start)) := by
  intro other
  by_cases same : other = pid
  · subst same
    rw [Function.update_self, Function.update_self]
    exact Option.Rel.some follows
  · rw [Function.update_of_ne same, Function.update_of_ne same]
    exact tracks other

variable [DecidableEq Pid] {X W : Type} {system : System Pid Op Res A X W} {pid : Pid} {op : Op}
  {next : Res op → Code Op Res A} {result : Res op} {state following : S}

/-- A process that starts no other takes its step in the protocol. -/
theorem Tracks.resume (tracks : protocol.Tracks final states code)
    (system : System Pid Op Res A X W) (found : code pid = some (.call op next))
    (current : states pid = some state)
    (after : protocol.after state op result = some following)
    (single : system.spawn pid op result next = none) :
    protocol.Tracks final (Function.update states pid (some following))
      (system.resume code pid op result next) := by
  rcases tracks.call found with ⟨_, same, -, follows⟩
  cases current.symm.trans same
  rw [System.resume_self single]
  exact tracks.update pid (follows result following after)

/-- A process that starts another one takes its step, and the new process
starts wherever its code follows the protocol from. -/
theorem Tracks.resume_spawn {started : Pid} {start : Code Op Res A} {first : S}
    (tracks : protocol.Tracks final states code)
    (found : code pid = some (.call op next)) (current : states pid = some state)
    (after : protocol.after state op result = some following)
    (spawned : system.spawn pid op result next = some (started, start))
    (startFollows : protocol.Follows final start first) :
    protocol.Tracks final
      (Function.update (Function.update states pid (some following)) started (some first))
      (system.resume code pid op result next) := by
  rcases tracks.call found with ⟨_, same, -, follows⟩
  cases current.symm.trans same
  simp only [System.resume, spawned]
  exact (tracks.update pid (follows result following after)).update started startFollows

end Tracks

end Protocol

end McKernelTest.Process
