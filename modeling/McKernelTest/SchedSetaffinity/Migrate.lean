import McKernelTest.Machine.Word
import McKernelTest.Posix.CpuSet
import McKernelTest.Text.Numeral
import Mathlib.Order.Bounds.Basic

/-!
# The CPU to which a child is moved

`sched_setaffinity#8` and `fpregs#5` look for a CPU below the last one that is neither
the parent's nor the child's, by a function that calls itself.  `sched_setaffinity#9`
has the search written out.
-/

namespace McKernelTest.SchedSetaffinity

open Machine Posix

/-! ## The search -/

/-- `get_migrate_target_cpuid`.  Every call returns through the result type; the amount of
fuel bounds the depth of the calls. -/
def migrateTarget {R : Type} (toResult : Int → R) (ofResult : R → Int) (parent child : Int) :
    Nat → Int → Option R
  | 0, _ => none
  | fuel + 1, target => do
      let target ←
        if child = target then
          (migrateTarget toResult ofResult parent child fuel (target - 1)).map ofResult
        else
          some target
      let target ←
        if 0 ≤ target ∧ parent = target then
          (migrateTarget toResult ofResult parent child fuel (target - 1)).map ofResult
        else
          some target
      return toResult target

/-- `get_migrate_target_cpuid` of `sched_setaffinity#8`, which returns an `int`. -/
def getMigrateTargetCpuid (parent child target : Int) (fuel : Nat) : Option Int :=
  migrateTarget id id parent child fuel target

/-- `get_migrate_target_cpuid` of `fpregs#5`, which returns an `unsigned int`. -/
def getMigrateTargetCpuidUnsigned (parent child target : Int) (fuel : Nat) : Option Nat :=
  migrateTarget toUint (fun result => toInt result) parent child fuel target

/-- The search as `sched_setaffinity#9` has it. -/
def inlineTarget (parentCpu childCpu numCpus : Int) : Int :=
  let migrateCpu := numCpus - 1
  if migrateCpu = childCpu then
    let migrateCpu := migrateCpu - 1
    if migrateCpu = parentCpu then migrateCpu - 1 else migrateCpu
  else
    migrateCpu

/-! ## The CPU set for the child -/

/-- `CPU_ALLOC`, `CPU_ZERO_S` and `CPU_SET_S` of one CPU. -/
def cpusetOf (migrateCpu numCpus : Int) : CpuSet :=
  let size := CpuSet.allocSize (toUlong numCpus)
  CpuSet.set (toUlong migrateCpu) size (CpuSet.zero size)

/-- The message of the assertion after the search. -/
def badTarget : String :=
  "Bad target to migrate child process."

/-- The set that the parent of `sched_setaffinity#8` hands to `sched_setaffinity`. -/
def cpusetChild (parentCpu childCpu numCpus : Int) (fuel : Nat) :
    Option (Except String CpuSet) := do
  let migrateCpu ← getMigrateTargetCpuid parentCpu childCpu (numCpus - 1) fuel
  return if 0 ≤ migrateCpu then .ok (cpusetOf migrateCpu numCpus) else .error badTarget

/-- The set that the parent of `fpregs#5` hands to `sched_setaffinity`.  The CPUs are
unsigned, and so is the number that the assertion compares with 0. -/
def cpusetChildUnsigned (parentCpu childCpu : Nat) (numCpus : Int) (fuel : Nat) :
    Option (Except String CpuSet) := do
  let migrateCpu ←
    getMigrateTargetCpuidUnsigned (toInt parentCpu) (toInt childCpu) (numCpus - 1) fuel
  return if 0 ≤ migrateCpu then .ok (cpusetOf migrateCpu numCpus) else .error badTarget

/-- The set that the parent of `sched_setaffinity#9` hands to `sched_setaffinity`. -/
def cpusetChildInline (parentCpu childCpu numCpus : Int) : CpuSet :=
  cpusetOf (inlineTarget parentCpu childCpu numCpus) numCpus

/-! ## The greatest candidate -/

/-- The code returns the value, however much fuel it has beyond some amount. -/
def Yields {A : Type} (code : Nat → Option A) (value : A) : Prop :=
  ∃ enough, ∀ fuel, enough ≤ fuel → code fuel = some value

theorem Yields.unique {A : Type} {code : Nat → Option A} {value other : A}
    (yields : Yields code value) (also : Yields code other) : value = other := by
  rcases yields with ⟨enough, returns⟩
  rcases also with ⟨enough', returns'⟩
  have same := (returns (max enough enough') (le_max_left ..)).symm.trans
    (returns' (max enough enough') (le_max_right ..))
  exact Option.some.inj same

theorem Yields.map {A B : Type} {code : Nat → Option A} {value : A} (yields : Yields code value)
    (next : A → B) : Yields (fun fuel => return next (← code fuel)) (next value) := by
  rcases yields with ⟨enough, returns⟩
  refine ⟨enough, fun fuel atLeast => ?_⟩
  simp [returns fuel atLeast]

section Greatest

variable {allowed : Int → Prop} {target r : Int}

theorem isGreatest_of_allowed (here : allowed target) :
    IsGreatest {r | r ≤ target ∧ allowed r} target :=
  ⟨⟨le_refl target, here⟩, fun _ candidate => candidate.1⟩

/-- A target that is not allowed can be left out. -/
theorem isGreatest_of_pred (forbidden : ¬allowed target)
    (greatest : IsGreatest {r | r ≤ target - 1 ∧ allowed r} r) :
    IsGreatest {r | r ≤ target ∧ allowed r} r := by
  refine ⟨⟨by have := greatest.1.1; omega, greatest.1.2⟩, fun other candidate => ?_⟩
  have differ : other ≠ target := by
    rintro rfl
    exact forbidden candidate.2
  have below := candidate.1
  exact greatest.2 ⟨by omega, candidate.2⟩

end Greatest

/-- The CPUs that the search may return; it does not look at the parent's once the target
is negative. -/
def Allowed (parent child r : Int) : Prop :=
  r ≠ child ∧ (r < 0 ∨ r ≠ parent)

section Search

variable {R : Type} {toResult : Int → R} {ofResult : R → Int} {child : Int} (parent : Int)

/-- The search returns the greatest candidate if its results survive the result type. -/
theorem migrateTarget_isGreatest (childCpu : 0 ≤ child) {target : Int} {fuel : Nat}
    (least : -1 ≤ target) (enough : target + 2 ≤ fuel)
    (keeps : ∀ r, -1 ≤ r → r ≤ target → ofResult (toResult r) = r) :
    ∃ r, migrateTarget toResult ofResult parent child fuel target = some (toResult r) ∧
      IsGreatest {r | r ≤ target ∧ Allowed parent child r} r := by
  induction fuel generalizing target with
  | zero => omega
  | succ fuel ih =>
      -- Both guards that call the function again need a target that is not negative.
      have next : 0 ≤ target → ∃ r,
          (migrateTarget toResult ofResult parent child fuel (target - 1)).map ofResult = some r ∧
            IsGreatest {r | r ≤ target - 1 ∧ Allowed parent child r} r := by
        intro nonneg
        rcases @ih (target - 1) (by omega) (by omega)
          (fun r atLeast atMost => keeps r atLeast (by omega)) with ⟨r, returns, greatest⟩
        have atMost := greatest.1.1
        have atLeast : -1 ≤ r := greatest.2 ⟨by omega, by omega, by omega⟩
        refine ⟨r, ?_, greatest⟩
        rw [returns, Option.map_some, keeps r atLeast (by omega)]
      by_cases onChild : child = target
      · rcases next (by omega) with ⟨r, returns, greatest⟩
        -- The result of the first call passes the second guard.
        have passes : ¬(0 ≤ r ∧ parent = r) := by
          have allowed := greatest.1.2.2
          omega
        refine ⟨r, ?_, isGreatest_of_pred (fun here => here.1 onChild.symm) greatest⟩
        simp only [migrateTarget, if_pos onChild, returns, Option.bind_eq_bind, Option.bind_some,
          if_neg passes, Option.pure_def]
      · by_cases onParent : 0 ≤ target ∧ parent = target
        · rcases next onParent.1 with ⟨r, returns, greatest⟩
          refine ⟨r, ?_, isGreatest_of_pred (fun here => ?_) greatest⟩
          · simp only [migrateTarget, if_neg onChild, if_pos onParent, returns,
              Option.bind_eq_bind, Option.bind_some, Option.pure_def]
          · have allowed := here.2
            omega
        · refine ⟨target, ?_, isGreatest_of_allowed ⟨fun here => onChild here.symm, by omega⟩⟩
          simp only [migrateTarget, if_neg onChild, if_neg onParent, Option.bind_eq_bind,
            Option.bind_some, Option.pure_def]

theorem migrateTarget_yields (childCpu : 0 ≤ child) {target : Int} (least : -1 ≤ target)
    (keeps : ∀ r, -1 ≤ r → r ≤ target → ofResult (toResult r) = r) :
    ∃ r, Yields (fun fuel => migrateTarget toResult ofResult parent child fuel target)
        (toResult r) ∧
      IsGreatest {r | r ≤ target ∧ Allowed parent child r} r := by
  rcases migrateTarget_isGreatest parent childCpu least (Int.self_le_toNat (target + 2)) keeps with
    ⟨r, -, greatest⟩
  refine ⟨r, ⟨(target + 2).toNat, fun fuel enough => ?_⟩, greatest⟩
  rcases migrateTarget_isGreatest parent childCpu least (Int.toNat_le.mp enough) keeps with
    ⟨other, returns, also⟩
  rw [also.unique greatest] at returns
  exact returns

end Search

theorem toInt_toUint {value : Int} (least : -2 ^ 31 ≤ value) (greatest : value < 2 ^ 31) :
    toInt (toUint value) = value := by
  rw [toInt, toUint, Int.toNat_of_nonneg (by omega)]
  refine (Int.emod_bmod value (2 ^ 32)).trans ?_
  apply Int.bmod_eq_of_le <;> omega

section Target

variable {parent child target numCpus r : Int}

theorem getMigrateTargetCpuid_yields (childCpu : 0 ≤ child) (least : -1 ≤ target) :
    ∃ r, Yields (getMigrateTargetCpuid parent child target) r ∧
      IsGreatest {r | r ≤ target ∧ Allowed parent child r} r :=
  migrateTarget_yields parent childCpu least fun _ _ _ => rfl

theorem getMigrateTargetCpuidUnsigned_yields (childCpu : 0 ≤ child) (least : -1 ≤ target)
    (small : target < 2 ^ 31) :
    ∃ r, Yields (getMigrateTargetCpuidUnsigned parent child target) (toUint r) ∧
      IsGreatest {r | r ≤ target ∧ Allowed parent child r} r :=
  migrateTarget_yields parent childCpu least fun _ atLeast atMost =>
    toInt_toUint (by omega) (by omega)

/-- Of three CPUs one is neither the parent's nor the child's. -/
theorem nonneg_of_isGreatest (many : 3 ≤ numCpus)
    (greatest : IsGreatest {r | r ≤ numCpus - 1 ∧ Allowed parent child r} r) :
    0 ≤ r ∧ r < numCpus ∧ r ≠ parent ∧ r ≠ child := by
  have above : ∀ cpu, 0 ≤ cpu → cpu ≤ 2 → cpu ≠ child → cpu ≠ parent → 0 ≤ r := by
    intro cpu least most notChild notParent
    exact le_trans least (greatest.2 ⟨by omega, notChild, .inr notParent⟩)
  have zero := above 0
  have one := above 1
  have two := above 2
  have most := greatest.1.1
  have notChild := greatest.1.2.1
  have notParent := greatest.1.2.2
  omega

/-- The set with a CPU that exists. -/
theorem isSet_cpusetOf (nonneg : 0 ≤ r) (known : r < numCpus) (small : numCpus < 2 ^ 31)
    (cpu : Nat) : CpuSet.IsSet cpu (cpusetOf r numCpus) ↔ (cpu : Int) = r := by
  have same : toUlong r = r.toNat ∧ toUlong numCpus = numCpus.toNat := by
    simp only [toUlong]
    omega
  rw [cpusetOf, same.1, same.2, CpuSet.isSet_set_zero (by omega)]
  omega

theorem cpusetChild_yields (nonneg : 0 ≤ r)
    (yields : Yields (getMigrateTargetCpuid parent child (numCpus - 1)) r) :
    Yields (cpusetChild parent child numCpus) (.ok (cpusetOf r numCpus)) := by
  have sets := yields.map fun migrateCpu =>
    (if 0 ≤ migrateCpu then .ok (cpusetOf migrateCpu numCpus) else .error badTarget :
      Except String CpuSet)
  rw [if_pos nonneg] at sets
  exact sets

theorem cpusetChildUnsigned_yields {parent child : Nat} (parentCpu : parent < 2 ^ 31)
    (childCpu : child < 2 ^ 31) (nonneg : 0 ≤ r) (small : r < 2 ^ 31)
    (yields : Yields (getMigrateTargetCpuidUnsigned parent child (numCpus - 1)) (toUint r)) :
    Yields (cpusetChildUnsigned parent child numCpus) (.ok (cpusetOf r numCpus)) := by
  have same : (toUint r : Int) = r := by
    rw [toUint]
    omega
  have sets := yields.map fun migrateCpu =>
    (if 0 ≤ migrateCpu then .ok (cpusetOf migrateCpu numCpus) else .error badTarget :
      Except String CpuSet)
  rw [if_pos (Nat.zero_le _), same, ← toInt_natCast parentCpu, ← toInt_natCast childCpu] at sets
  exact sets

/-- The search ends and returns the greatest candidate, for both result types.  With three
CPUs or more the candidate is a CPU that is neither the parent's nor the child's; the
assertion after the search passes, and the set for the child has just this CPU. -/
theorem migrate_target_greatest (parent child : Nat) :
    (∀ target : Int, -1 ≤ target → ∃ r, Yields (getMigrateTargetCpuid parent child target) r ∧
      IsGreatest {r | r ≤ target ∧ Allowed parent child r} r) ∧
    (∀ target : Int, -1 ≤ target → target < 2 ^ 31 →
      ∃ r, Yields (getMigrateTargetCpuidUnsigned parent child target) (toUint r) ∧
        IsGreatest {r | r ≤ target ∧ Allowed parent child r} r) ∧
    ∀ numCpus : Int, 3 ≤ numCpus → numCpus < 2 ^ 31 →
      ∃ r cpus, 0 ≤ r ∧ r < numCpus ∧ r ≠ parent ∧ r ≠ child ∧
        Yields (getMigrateTargetCpuid parent child (numCpus - 1)) r ∧
        Yields (getMigrateTargetCpuidUnsigned parent child (numCpus - 1)) (toUint r) ∧
        (∀ cpu, CpuSet.IsSet cpu cpus ↔ (cpu : Int) = r) ∧
        Yields (cpusetChild parent child numCpus) (.ok cpus) ∧
        (parent < 2 ^ 31 → child < 2 ^ 31 →
          Yields (cpusetChildUnsigned parent child numCpus) (.ok cpus)) := by
  refine ⟨fun target => getMigrateTargetCpuid_yields (Int.natCast_nonneg child),
    fun target => getMigrateTargetCpuidUnsigned_yields (Int.natCast_nonneg child),
    fun numCpus many small => ?_⟩
  rcases @getMigrateTargetCpuid_yields parent child (numCpus - 1) (by omega) (by omega) with
    ⟨r, yields, greatest⟩
  rcases @getMigrateTargetCpuidUnsigned_yields parent child (numCpus - 1) (by omega) (by omega)
    (by omega) with ⟨other, yieldsUnsigned, also⟩
  rw [also.unique greatest] at yieldsUnsigned
  rcases nonneg_of_isGreatest many greatest with ⟨nonneg, known, notParent, notChild⟩
  exact ⟨r, cpusetOf r numCpus, nonneg, known, notParent, notChild, yields, yieldsUnsigned,
    isSet_cpusetOf nonneg known small, cpusetChild_yields nonneg yields,
    fun parentCpu childCpu =>
      cpusetChildUnsigned_yields parentCpu childCpu nonneg (by omega) yieldsUnsigned⟩

end Target

theorem migrate_target_greatest_three : Yields (getMigrateTargetCpuid 2 0 (3 - 1)) 1 := by
  rcases (migrate_target_greatest 2 0).2.2 3 (by decide) (by decide) with
    ⟨r, cpus, nonneg, known, notParent, notChild, yields, -⟩
  have isOne : r = 1 := by omega
  rw [isOne] at yields
  exact yields

/-! ## The search written out -/

section Inline

variable {parent child numCpus : Int}

/-- The written-out search finds the greatest candidate unless only the parent is on the
last CPU, which it looks for only after it has met the child. -/
theorem inlineTarget_isGreatest (many : 3 ≤ numCpus)
    (covered : parent ≠ numCpus - 1 ∨ child = numCpus - 1) :
    IsGreatest {r | r ≤ numCpus - 1 ∧ Allowed parent child r}
      (inlineTarget parent child numCpus) := by
  rw [inlineTarget]
  by_cases onChild : numCpus - 1 = child
  · rw [if_pos onChild]
    apply isGreatest_of_pred (fun here => here.1 onChild)
    by_cases onParent : numCpus - 1 - 1 = parent
    · rw [if_pos onParent]
      have forbidden : ¬Allowed parent child (numCpus - 1 - 1) := by
        rintro ⟨-, negative | differs⟩
        · omega
        · exact differs onParent
      exact isGreatest_of_pred forbidden (isGreatest_of_allowed ⟨by omega, .inr (by omega)⟩)
    · rw [if_neg onParent]
      exact isGreatest_of_allowed ⟨by omega, .inr onParent⟩
  · rw [if_neg onChild]
    exact isGreatest_of_allowed ⟨onChild, .inr (by omega)⟩

theorem inlineTarget_eq_parent (onParent : parent = numCpus - 1) (elsewhere : child ≠ numCpus - 1) :
    inlineTarget parent child numCpus = parent := by
  rw [inlineTarget, if_neg elsewhere.symm, onParent]

/-- The two searches select the same CPU, the children get the same set, and the CPU is
neither the child's nor the parent's, if and only if the parent is not on the last CPU or
the child is. -/
theorem inline_agrees_iff (parent child numCpus : Int) (many : 3 ≤ numCpus)
    (childCpu : 0 ≤ child) :
    (Yields (getMigrateTargetCpuid parent child (numCpus - 1))
        (inlineTarget parent child numCpus) ∧
      Yields (cpusetChild parent child numCpus) (.ok (cpusetChildInline parent child numCpus)) ∧
      inlineTarget parent child numCpus ≠ child ∧ inlineTarget parent child numCpus ≠ parent) ↔
      parent ≠ numCpus - 1 ∨ child = numCpus - 1 := by
  constructor
  · rintro ⟨-, -, -, notParent⟩
    by_contra uncovered
    rw [not_or, not_not] at uncovered
    exact notParent (inlineTarget_eq_parent uncovered.1 uncovered.2)
  · intro covered
    have greatest := inlineTarget_isGreatest many covered
    rcases @getMigrateTargetCpuid_yields parent child (numCpus - 1) childCpu (by omega) with
      ⟨r, yields, also⟩
    rw [also.unique greatest] at yields
    rcases nonneg_of_isGreatest many greatest with ⟨nonneg, -, notParent, notChild⟩
    exact ⟨yields, cpusetChild_yields nonneg yields, notChild, notParent⟩

end Inline

theorem inline_agrees_iff_four :
    (Yields (getMigrateTargetCpuid 1 3 (4 - 1)) (inlineTarget 1 3 4) ∧
      Yields (cpusetChild 1 3 4) (.ok (cpusetChildInline 1 3 4)) ∧
      inlineTarget 1 3 4 ≠ 3 ∧ inlineTarget 1 3 4 ≠ 1) ↔ (1 : Int) ≠ 4 - 1 ∨ (3 : Int) = 4 - 1 :=
  inline_agrees_iff 1 3 4 (by decide) (by decide)

/-- With the parent on the last of three CPUs and the child on the first one, the
written-out search selects the parent's CPU, and the function the one between them. -/
theorem inline_selects_parent :
    inlineTarget 2 0 3 = 2 ∧ Yields (getMigrateTargetCpuid 2 0 (3 - 1)) 1 ∧
      ¬Yields (getMigrateTargetCpuid 2 0 (3 - 1)) (inlineTarget 2 0 3) := by
  have between : Yields (getMigrateTargetCpuid 2 0 (3 - 1)) 1 := by
    refine ⟨2, fun fuel enough => ?_⟩
    obtain ⟨spare, rfl⟩ := Nat.exists_eq_add_of_le' enough
    rfl
  refine ⟨by decide, between, fun same => ?_⟩
  exact absurd (between.unique same) (by decide)

end McKernelTest.SchedSetaffinity
