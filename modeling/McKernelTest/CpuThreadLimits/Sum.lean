import McKernelTest.CpuThreadLimits.Split
import Mathlib.Algebra.BigOperators.Ring.Finset
import Mathlib.Algebra.Field.Basic

/-!
# What `cpu_thread_limits#1` prints

In exact arithmetic the number of threads does not matter: the sums of the threads add
up to the midpoint rule with `numdiv` steps.
-/

namespace McKernelTest.CpuThreadLimits

open Pieces Process

variable {K : Type} [Field K]

/-- Exact arithmetic in the place of `double`. -/
def exactDouble (K : Type) [Field K] : Double K where
  ofLong i := i
  zero := 0
  half := 1 / 2
  one := 1
  four := 4
  add := (· + ·)
  mul := (· * ·)
  div := (· / ·)

/-- The width of a step. -/
def stepWidth (K : Type) [Field K] : K :=
  1 / (numdiv : K)

/-- The value of the integrand in the middle of step `i`. -/
def height (K : Type) [Field K] (i : Int) : K :=
  let x := ((i : K) + 1 / 2) * stepWidth K
  4 / (1 + x * x)

/-- The midpoint rule. -/
def midpointSum (K : Type) [Field K] : K :=
  (∑ i ∈ Finset.range numdiv.toNat, height K i) * stepWidth K

theorem sumFrom_exact (i : Int) (remaining : Nat) (sum : K) :
    sumFrom (exactDouble K) (stepWidth K) i remaining sum =
      sum + ∑ k ∈ Finset.range remaining, height K (i + k) := by
  induction remaining generalizing i sum with
  | zero => rw [sumFrom, Finset.sum_range_zero, add_zero]
  | succ remaining ih =>
      have shifted : ∀ k : Nat, i + 1 + k = i + (k + 1 : Nat) := by
        intro k
        omega
      simp only [sumFrom, ih, Finset.sum_range_succ', shifted]
      rw [add_comm (Finset.sum ..), ← add_assoc, Int.natCast_zero, Int.add_zero]
      rfl

/-- The sum of a thread. -/
theorem psumOf_exact {ith parts : Nat} (small : ith + 1 < 2 ^ 31) :
    psumOf (exactDouble K) (piargsOf parts ith) =
      (∑ i ∈ Finset.Ico (evenCut numdiv.toNat parts ith) (evenCut numdiv.toNat parts (ith + 1)),
        height K i) * stepWidth K := by
  have width : (exactDouble K).div (exactDouble K).one ((exactDouble K).ofLong numdiv) =
      stepWidth K := rfl
  have length : ((evenCut numdiv.toNat parts (ith + 1) : Int) -
      evenCut numdiv.toNat parts ith).toNat =
        evenCut numdiv.toNat parts (ith + 1) - evenCut numdiv.toNat parts ith := by
    omega
  rw [psumOf, width, piargsOf_istart (by omega), piargsOf_iend small, length, sumFrom_exact,
    Finset.sum_Ico_eq_sum_range]
  simp only [Int.natCast_add]
  exact congrArg (· * stepWidth K) (zero_add _)

/-- The sums of the threads add up to the midpoint rule. -/
theorem sum_psumOf {parts : Nat} (positive : 0 < parts) (small : parts < 2 ^ 31) :
    ∑ ith ∈ Finset.range parts, psumOf (exactDouble K) (piargsOf parts ith) = midpointSum K := by
  have sums : ∀ ith ∈ Finset.range parts, psumOf (exactDouble K) (piargsOf parts ith) =
      (∑ i ∈ Finset.Ico (evenCut numdiv.toNat parts ith) (evenCut numdiv.toNat parts (ith + 1)),
        height K i) * stepWidth K := by
    intro ith member
    have known := Finset.mem_range.mp member
    exact psumOf_exact (by omega)
  rw [Finset.sum_congr rfl sums, ← Finset.sum_mul, sum_pieces evenCut_monotone evenCut_zero,
    evenCut_parts positive, midpointSum]

/-! ## The run function -/

section Traces

variable {calls : List (Call (Op K) Res)} {parts : Nat}

/-- The threads have left their sums. -/
def LoadsPsums (parts : Nat) (calls : List (Call (Op K) Res)) : Prop :=
  ∀ (ith : Nat) psum, ⟨.loadPsum ith, psum⟩ ∈ calls →
    psum = psumOf (exactDouble K) (piargsOf parts ith)

theorem joinThreads_sum {ith remaining : Nat} {pi result : K} (loads : LoadsPsums parts calls)
    (performs : (joinThreads (exactDouble K) ith remaining pi).Performs calls result) :
    result = pi + ∑ k ∈ Finset.range remaining,
      psumOf (exactDouble K) (piargsOf parts (ith + k : Nat)) := by
  induction remaining generalizing ith pi calls with
  | zero => rw [Finset.sum_range_zero, add_zero, performs.2]
  | succ remaining ih =>
      simp only [joinThreads, Code.perform_bind, Code.performs_call] at performs
      rcases performs with ⟨_, _, rfl, psum, rest, rfl, performs⟩
      have isSum := loads ith psum (by simp)
      have later := ih (fun k other member => loads k other (by simp [member])) performs
      have shifted : ∀ k, ith + 1 + k = ith + (k + 1) := by
        intro k
        omega
      simp only [shifted] at later
      rw [later, Finset.sum_range_succ', add_comm (Finset.sum ..), ← add_assoc, Nat.add_zero,
        ← isSum]
      rfl

theorem afterCreate_prints (positive : 0 < parts) (small : parts < 2 ^ 31) {irets : List Int}
    (loads : LoadsPsums parts calls)
    (performs : (afterCreate (exactDouble K) parts irets).Performs calls none) :
    ⟨.printfDouble "PI = %16.14f\n" (midpointSum K), ()⟩ ∈ calls := by
  rw [afterCreate, Code.performs_bind] at performs
  rcases performs with ⟨checks, rest, found, rfl, -, performs⟩
  cases found with
  | some message => cases performs.2
  | none =>
      simp only [Code.perform_bind, Code.performs_call, Code.performs_bind] at performs
      rcases performs with ⟨_, _, rfl, _, _, rfl, joins, _, pi, rfl, joining, _, _, rfl, -⟩
      have joinLoads : LoadsPsums parts joins :=
        fun ith psum member => loads ith psum (by simp [member])
      have total := joinThreads_sum joinLoads joining
      simp only [Nat.zero_add, Int.toNat_natCast] at total
      rw [sum_psumOf positive small] at total
      have isSum : pi = midpointSum K := total.trans (zero_add _)
      simp [isSum]

/-- A run that succeeds prints the midpoint rule, whatever the number of threads. -/
theorem runFunc_prints {threadNum cpuNum : Int} (positive : 0 < threadNum)
    (small : threadNum < 2 ^ 31) (loads : LoadsPsums threadNum.toNat calls)
    (performs : (runFunc (exactDouble K) threadNum cpuNum).Performs calls none) :
    ⟨.printfDouble "PI = %16.14f\n" (midpointSum K), ()⟩ ∈ calls := by
  obtain ⟨parts, rfl⟩ := Int.eq_ofNat_of_zero_le (Int.le_of_lt positive)
  rcases runFunc_parts performs with ⟨-, fails⟩ |
    ⟨first, creates, rest, irets, rfl, -, -, finishing⟩
  · exact absurd rfl fails
  · have restLoads : LoadsPsums parts rest :=
      fun ith psum member => loads ith psum (by simp [member])
    have prints := afterCreate_prints (by omega) (by omega) restLoads finishing
    simp [prints]

end Traces

end McKernelTest.CpuThreadLimits
