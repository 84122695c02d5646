import Mathlib.Algebra.BigOperators.Group.Finset.Basic
import Mathlib.Algebra.Order.BigOperators.Group.Finset

/-!
# The rank of a family of threads

A family has a member for each number, or none where the thread has not been
started.  Its rank is the sum of those of its members; a member that is still
to be started counts as one at its start.
-/

namespace McKernelTest.Flow

variable {P : Type} {fresh count : ℕ} {rank : P → ℕ} {family after : ℕ → Option P}

/-- The rank of the members below a number. -/
def familyRank (fresh : ℕ) (rank : P → ℕ) (count : ℕ) (family : ℕ → Option P) : ℕ :=
  ∑ num ∈ Finset.range count, (family num).elim fresh rank

/-- Starting a thread does not change the rank. -/
theorem familyRank_congr
    (same : ∀ num, (after num).elim fresh rank = (family num).elim fresh rank) :
    familyRank fresh rank count after = familyRank fresh rank count family :=
  Finset.sum_congr rfl fun num _ => same num

/-- A thread that goes on lowers the rank. -/
theorem familyRank_update_lt {num : ℕ} {point next : P} (inside : num < count)
    (current : family num = some point) (lower : rank next < rank point) :
    familyRank fresh rank count (Function.update family num (some next)) <
      familyRank fresh rank count family := by
  apply Finset.sum_lt_sum
  · intro other _
    by_cases same : other = num
    · subst same
      rw [Function.update_self, current]
      exact Nat.le_of_lt lower
    · rw [Function.update_of_ne same]
  · refine ⟨num, Finset.mem_range.mpr inside, ?_⟩
    rw [Function.update_self, current]
    exact lower

end McKernelTest.Flow
