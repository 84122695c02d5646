import Mathlib.Logic.Function.Basic

/-!
# Counting semaphores

A semaphore is a counter.  `sem_post` increments it; `sem_wait` waits for a
positive counter and decrements it.
-/

namespace McKernelTest.Posix

variable {Sem : Type} [DecidableEq Sem]

/-- `sem_post`. -/
def semPostOn (counts : Sem → Nat) (sem : Sem) : Sem → Nat :=
  Function.update counts sem (counts sem + 1)

/-- `sem_wait`, undefined while the counter is 0. -/
def semWaitOn (counts : Sem → Nat) (sem : Sem) : Option (Sem → Nat) :=
  if counts sem = 0 then none else some (Function.update counts sem (counts sem - 1))

theorem semWaitOn_eq_some_iff (counts after : Sem → Nat) (sem : Sem) :
    semWaitOn counts sem = some after ↔
      0 < counts sem ∧ after = Function.update counts sem (counts sem - 1) := by
  unfold semWaitOn
  split
  · rename_i zero
    simp [zero]
  · rename_i positive
    simp only [Option.some.injEq, Nat.pos_of_ne_zero positive, true_and]
    exact eq_comm

theorem semWaitOn_eq_none {counts : Sem → Nat} {sem : Sem} (empty : counts sem = 0) :
    semWaitOn counts sem = none :=
  if_pos empty

end McKernelTest.Posix
