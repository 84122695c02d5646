import McKernelTest.Process.Protocol

/-!
# A parent and a child

Many test cases fork once.  Both processes run the code that follows the call;
the child sees the result 0, the parent a positive process id, and a failed
call returns -1 and starts nothing.
-/

namespace McKernelTest.Posix

open Process

/-- The two processes around one `fork`. -/
inductive Role where
  | parent
  | child
  deriving DecidableEq, Repr

/-- The results of `fork` in the calling process. -/
def isForkResult (pid : Int) : Bool :=
  pid = -1 || 0 < pid

theorem isForkResult_iff (pid : Int) : isForkResult pid = true ↔ pid = -1 ∨ 0 < pid := by
  simp [isForkResult]

/-- The process that a `fork` with the given result starts. -/
def forkChild {Op : Type} {Res : Op → Type} {A : Type} (pid : Int)
    (next : Int → Code Op Res A) : Option (Role × Code Op Res A) :=
  if 0 < pid then some (.child, next 0) else none

/-- A value for the parent and one for the child, if there is one. -/
def family {S : Type} (parent : S) (child : Option S) : Role → Option S
  | .parent => some parent
  | .child => child

theorem update_family_parent {S : Type} (parent following : S) (child : Option S) :
    Function.update (family parent child) .parent (some following) = family following child := by
  funext role
  cases role <;> rfl

theorem update_family_child {S : Type} (parent following : S) (child : Option S) :
    Function.update (family parent child) .child (some following) =
      family parent (some following) := by
  funext role
  cases role <;> rfl

section Tracks

variable {S Op : Type} {Res : Op → Type} {A X W : Type} {protocol : Protocol S Op Res}
  {final : S → A → Prop} {parent following : S} {child : Option S}
  {code : Role → Option (Code Op Res A)} {op : Op} {result : Res op}
  {next : Res op → Code Op Res A}

/-- The only process follows the protocol. -/
theorem tracks_single {start : Code Op Res A} (follows : protocol.Follows final start parent) :
    protocol.Tracks final (family parent none) (family start none) := by
  intro role
  cases role with
  | parent => exact Option.Rel.some follows
  | child => exact Option.Rel.none

/-- A step of the parent that starts no process. -/
theorem tracks_parent (system : System Role Op Res A X W)
    (tracks : protocol.Tracks final (family parent child) code)
    (found : code .parent = some (.call op next))
    (after : protocol.after parent op result = some following)
    (single : system.spawn .parent op result next = none) :
    protocol.Tracks final (family following child)
      (system.resume code .parent op result next) := by
  rw [← update_family_parent parent]
  exact tracks.resume system found rfl after single

/-- A step of the child that starts no process. -/
theorem tracks_child {state : S} (system : System Role Op Res A X W)
    (tracks : protocol.Tracks final (family parent (some state)) code)
    (found : code .child = some (.call op next))
    (after : protocol.after state op result = some following)
    (single : system.spawn .child op result next = none) :
    protocol.Tracks final (family parent (some following))
      (system.resume code .child op result next) := by
  rw [← update_family_child parent following (some state)]
  exact tracks.resume system found rfl after single

/-- The step of the parent that starts the child. -/
theorem tracks_fork {start : Code Op Res A} {state : S} (system : System Role Op Res A X W)
    (tracks : protocol.Tracks final (family parent none) code)
    (found : code .parent = some (.call op next))
    (after : protocol.after parent op result = some following)
    (spawned : system.spawn .parent op result next = some (.child, start))
    (follows : protocol.Follows final start state) :
    protocol.Tracks final (family following (some state))
      (system.resume code .parent op result next) := by
  rw [← update_family_child following state none, ← update_family_parent parent]
  exact tracks.resume_spawn found rfl after spawned follows

end Tracks

end McKernelTest.Posix
