import Mathlib.Algebra.BigOperators.Intervals

/-!
# Splitting a range into consecutive pieces

A monotone sequence of cuts that begins at 0 splits the range below its last cut: piece
`k` has the indices from cut `k` up to cut `k + 1`.  The even split of a range puts the
cuts at `k * total / parts`, and the lengths of its pieces differ by at most one.
-/

namespace McKernelTest.Pieces

section Cuts

variable {cut : Nat → Nat}

/-- Every index lies in one piece. -/
theorem existsUnique_piece (monotone : Monotone cut) (start : cut 0 = 0) {parts i : Nat}
    (below : i < cut parts) : ∃! k, k < parts ∧ cut k ≤ i ∧ i < cut (k + 1) := by
  have found : ∃ k, k < parts ∧ cut k ≤ i ∧ i < cut (k + 1) := by
    induction parts with
    | zero => omega
    | succ parts ih =>
        by_cases earlier : i < cut parts
        · rcases ih earlier with ⟨k, isPart, inside⟩
          exact ⟨k, Nat.lt_succ_of_lt isPart, inside⟩
        · exact ⟨parts, Nat.lt_succ_self parts, Nat.le_of_not_lt earlier, below⟩
  rcases found with ⟨k, isPart, least, most⟩
  refine ⟨k, ⟨isPart, least, most⟩, ?_⟩
  rintro other ⟨-, otherLeast, otherMost⟩
  -- Two pieces are separated by the cut between them.
  rcases Nat.lt_trichotomy other k with before | same | after
  · have between : cut (other + 1) ≤ cut k := monotone before
    omega
  · exact same
  · have between : cut (k + 1) ≤ cut other := monotone after
    omega

/-- A sum over the pieces is the sum over the range. -/
theorem sum_pieces {M : Type} [AddCommMonoid M] (monotone : Monotone cut) (start : cut 0 = 0)
    (f : Nat → M) (parts : Nat) :
    ∑ k ∈ Finset.range parts, ∑ i ∈ Finset.Ico (cut k) (cut (k + 1)), f i =
      ∑ i ∈ Finset.range (cut parts), f i := by
  induction parts with
  | zero => rw [start, Finset.sum_range_zero, Finset.sum_range_zero]
  | succ parts ih =>
      rw [Finset.sum_range_succ, ih]
      exact Finset.sum_range_add_sum_Ico f (monotone (Nat.le_succ parts))

end Cuts

/-! ## The even split -/

/-- The cuts of the even split. -/
def evenCut (total parts k : Nat) : Nat :=
  k * total / parts

section Even

variable {total parts : Nat}

theorem evenCut_zero : evenCut total parts 0 = 0 := by
  rw [evenCut, Nat.zero_mul, Nat.zero_div]

theorem evenCut_parts (positive : 0 < parts) : evenCut total parts parts = total :=
  Nat.mul_div_cancel_left total positive

theorem evenCut_monotone : Monotone (evenCut total parts) :=
  fun _ _ least => Nat.div_le_div_right (Nat.mul_le_mul_right total least)

/-- A piece of the even split has the length of the quotient, or one more. -/
theorem evenCut_length (positive : 0 < parts) (k : Nat) :
    evenCut total parts k + total / parts ≤ evenCut total parts (k + 1) ∧
      evenCut total parts (k + 1) ≤ evenCut total parts k + total / parts + 1 := by
  have sum : evenCut total parts (k + 1) = evenCut total parts k + total / parts +
      if parts ≤ k * total % parts + total % parts then 1 else 0 := by
    rw [evenCut, Nat.succ_mul, Nat.add_div positive, evenCut]
  rw [sum]
  split <;> omega

end Even

end McKernelTest.Pieces
