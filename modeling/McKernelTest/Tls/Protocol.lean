import McKernelTest.Process.Protocol
import McKernelTest.Tls.Core

/-!
# The protocol of `tls#1`

The parent goes through its children three times: to create them, to wait for them
and to start them.  A child posts, waits and works.  Each stage says which calls a
thread makes there.
-/

namespace McKernelTest.Tls

open Posix Process

/-- How far the parent is: the number is that of the child it is about to create,
to wait for or to start. -/
inductive ParentStage where
  | setup
  | creating (i : Nat)
  | syncing (i : Nat)
  | starting (i : Nat)
  | left

/-- How far a child is. -/
inductive ChildStage where
  | fresh
  | posted
  | running
  | returned
  deriving DecidableEq

/-- The stage of a thread. -/
inductive Stage where
  | parent (stage : ParentStage)
  | child (num : Nat) (stage : ChildStage)

/-- The stage before child `i`, or before the first wait if there is no such child. -/
def creatingFrom (childCount i : Nat) : ParentStage :=
  if i < childCount then .creating i else .syncing 0

/-- The calls that neither touch a semaphore nor start or end a thread. -/
@[simp]
def Op.quiet : Op → Bool
  | .printf _ _ | .incTls | .loadNotls | .storeNotls _ | .storeChildTls _ | .loadChildTls _
  | .semDestroy _ | .pthreadJoin _ | .free => true
  | .calloc _ | .semInit _ | .semPost _ | .semWait _ | .pthreadCreate _ | .fflush
  | .threadReturn => false

/-- The calls of the parent in each stage. -/
@[simp]
def allowedParent (childCount : Nat) (op : Op) : ParentStage → Prop
  | .setup => op = .calloc childCount
  | .creating i =>
      op = .semInit (.sync i) ∨ op = .semInit (.start i) ∨ op = .pthreadCreate i
  | .syncing i => i < childCount ∧ op = .semWait (.sync i) ∨ i = childCount ∧ op = .fflush
  | .starting i => i < childCount ∧ op = .semPost (.start i) ∨ i = childCount ∧ op.quiet
  | .left => False

/-- The calls of a child in each stage. -/
@[simp]
def allowedChild (num : Nat) (op : Op) : ChildStage → Prop
  | .fresh => op = .semPost (.sync num)
  | .posted => (∃ format values, op = .printf format values) ∨ op = .semWait (.start num)
  | .running => op.quiet ∨ op = .threadReturn
  | .returned => False

/-- The parent's stage after a call. -/
@[simp]
def parentAfter (childCount : Nat) : ParentStage → (op : Op) → Res op → ParentStage
  | .setup, .calloc _, children => if children then creatingFrom childCount 0 else .left
  | .creating i, .pthreadCreate _, _ => creatingFrom childCount (i + 1)
  | .syncing i, .semWait _, _ => .syncing (i + 1)
  | .syncing _, .fflush, _ => .starting 0
  | .starting i, .semPost _, _ => .starting (i + 1)
  | stage, _, _ => stage

/-- A child's stage after a call. -/
@[simp]
def childAfter : ChildStage → Op → ChildStage
  | .fresh, .semPost _ => .posted
  | .posted, .semWait _ => .running
  | .running, .threadReturn => .returned
  | stage, _ => stage

/-- The calls of a thread in each stage. -/
@[simp]
def allowed (childCount : Nat) (op : Op) : Stage → Prop
  | .parent stage => allowedParent childCount op stage
  | .child num stage => allowedChild num op stage

/-- The stage after a call. -/
@[simp]
def stageAfter (childCount : Nat) : Stage → (op : Op) → Res op → Stage
  | .parent stage, op, result => .parent (parentAfter childCount stage op result)
  | .child num stage, op, _ => .child num (childAfter stage op)

/-- The test case as a protocol. -/
def protocol (childCount : Nat) : Protocol Stage Op Res :=
  ⟨fun stage op => allowed childCount op stage,
    fun stage op result => some (stageAfter childCount stage op result)⟩

@[simp]
theorem protocol_accepts (childCount : Nat) (stage : Stage) (op : Op) :
    (protocol childCount).accepts stage op = allowed childCount op stage :=
  rfl

@[simp]
theorem protocol_after (childCount : Nat) (stage : Stage) (op : Op) (result : Res op) :
    (protocol childCount).after stage op result = some (stageAfter childCount stage op result) :=
  rfl

/-- The parent ends after its last round or without memory, a child at its return. -/
def finished (childCount : Nat) (stage : Stage) (_ : Option String) : Prop :=
  stage = .parent (.starting childCount) ∨ stage = .parent .left ∨
    ∃ num, stage = .child num .returned

section Follows

variable (childCount : Nat)

theorem increments_follows (num remaining : Nat) :
    (protocol childCount).Follows (fun stage _ => stage = .child num .running)
      (increments remaining) (.child num .running) := by
  induction remaining with
  | zero => exact rfl
  | succ remaining ih => simp [increments, ih]

theorem func_follows (num : Nat) :
    (protocol childCount).Follows (finished childCount) (func num) (.child num .fresh) := by
  have working : (protocol childCount).Follows (finished childCount) (report num)
      (.child num .running) := by
    simp [report, finished]
  have loop := (increments_follows childCount num incCount).bind
    fun stage _ same => same ▸ working
  simpa [func] using loop

theorem createChildren_follows (i remaining : Nat) (total : i + remaining = childCount) :
    (protocol childCount).Follows (fun stage _ => stage = .parent (.syncing 0))
      (createChildren i remaining) (.parent (creatingFrom childCount i)) := by
  induction remaining generalizing i with
  | zero =>
      have last : ¬i < childCount := by omega
      simp [createChildren, creatingFrom, last]
  | succ remaining ih =>
      have known : i < childCount := by omega
      have rest := ih (i + 1) (by omega)
      rw [creatingFrom, if_pos known]
      simp [createChildren, rest]

theorem syncChildren_follows (i remaining : Nat) (total : i + remaining = childCount) :
    (protocol childCount).Follows (fun stage _ => stage = .parent (.syncing childCount))
      (syncChildren i remaining) (.parent (.syncing i)) := by
  induction remaining generalizing i with
  | zero => simpa [syncChildren] using total
  | succ remaining ih =>
      have known : i < childCount := by omega
      have rest := ih (i + 1) (by omega)
      simp [syncChildren, known, rest]

theorem startChildren_follows (i remaining : Nat) (total : i + remaining = childCount) :
    (protocol childCount).Follows (fun stage _ => stage = .parent (.starting childCount))
      (startChildren i remaining) (.parent (.starting i)) := by
  induction remaining generalizing i with
  | zero => simpa [startChildren] using total
  | succ remaining ih =>
      have known : i < childCount := by omega
      have rest := ih (i + 1) (by omega)
      simp [startChildren, known, rest]

theorem destroyChildren_follows (i remaining : Nat) :
    (protocol childCount).Follows (fun stage _ => stage = .parent (.starting childCount))
      (destroyChildren i remaining) (.parent (.starting childCount)) := by
  induction remaining generalizing i with
  | zero => exact rfl
  | succ remaining ih => simp [destroyChildren, ih (i + 1)]

theorem checkChildren_follows (i remaining : Nat) :
    (protocol childCount).Follows (finished childCount) (checkChildren i remaining)
      (.parent (.starting childCount)) := by
  induction remaining generalizing i with
  | zero => simp [checkChildren, finished]
  | succ remaining ih => simp [checkChildren, finished, ih (i + 1)]

theorem runChildren_follows :
    (protocol childCount).Follows (finished childCount) (runChildren childCount)
      (.parent .setup) := by
  have started := (startChildren_follows childCount 0 childCount (Nat.zero_add _)).bind
    fun stage _ same => same ▸ (destroyChildren_follows childCount 0 childCount).bind
      fun stage _ same => same ▸ checkChildren_follows childCount 0 childCount
  have synced := (syncChildren_follows childCount 0 childCount (Nat.zero_add _)).bind
    fun stage _ same => same ▸ show (protocol childCount).Follows (finished childCount) (do
      fflush
      startChildren 0 childCount
      destroyChildren 0 childCount
      checkChildren 0 childCount) (.parent (.syncing childCount)) by simpa using started
  have created := (createChildren_follows childCount 0 childCount (Nat.zero_add _)).bind
    fun stage _ same => same ▸ synced
  simpa +contextual [runChildren, finished] using created

end Follows

end McKernelTest.Tls
