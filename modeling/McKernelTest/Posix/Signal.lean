import Mathlib.Logic.Function.Basic

/-!
# Signals between processes

A process has a disposition for every signal.  A handler that was installed with
`SA_RESETHAND` is gone after it has run once, and a signal without a handler ends the
process.  `kill` addresses a process by its id, or all processes of a group.
-/

namespace McKernelTest.Posix

/-- What a process does on a signal. -/
inductive Disposition (H : Type) where
  | default
  | handler (function : H) (resetHand : Bool)
  deriving DecidableEq, Repr

/-- The disposition after the signal has been handled. -/
def Disposition.next {H : Type} : Disposition H → Disposition H
  | .handler _ true => .default
  | disposition => disposition

section Kill

variable {P : Type} (pidOf : P → Int) (group : P → Option Int)

/-- `kill` with the first argument `pid`, called in the group `own`, addresses a process. -/
def Addresses (own : Option Int) (pid : Int) (process : P) : Prop :=
  if 0 < pid then pidOf process = pid
  else if pid = 0 then group process = own
  else if pid = -1 then True
  else group process = some (-pid)

instance (own : Option Int) (pid : Int) (process : P) :
    Decidable (Addresses pidOf group own pid process) := by
  unfold Addresses
  infer_instance

theorem addresses_pid {own : Option Int} {pid : Int} (positive : 0 < pid) (process : P) :
    Addresses pidOf group own pid process ↔ pidOf process = pid := by
  rw [Addresses, if_pos positive]

theorem addresses_group {own : Option Int} {pgid : Int} (large : 1 < pgid) (process : P) :
    Addresses pidOf group own (-pgid) process ↔ group process = some pgid := by
  rw [Addresses, if_neg (by omega), if_neg (by omega), if_neg (by omega), Int.neg_neg]

end Kill

end McKernelTest.Posix
