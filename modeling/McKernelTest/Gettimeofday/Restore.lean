import McKernelTest.Machine.Word
import McKernelTest.Posix.Time
import McKernelTest.Process.Trace

/-!
# `gettimeofday#0`

The test sets the clock, reads it back, and then sets it to the time before the test
plus the time that has passed in it.  The seconds and the microseconds are added apart.
A carry is added to the seconds, but the remainder is added to the microseconds instead
of replacing them, and a borrow is not looked for.
-/

namespace McKernelTest.Gettimeofday

open Machine Posix Process

/-! ## The test -/

/-- The calls. -/
inductive Op where
  | gettimeofday
  | settimeofday (time : Timeval)
  | printf (format : String) (values : List Int)
  deriving DecidableEq, Repr

/-- The results of the calls; the clock calls give the value of `errno`. -/
@[reducible]
def Res : Op → Type
  | .gettimeofday => Int × Timeval
  | .settimeofday _ => Int
  | .printf _ _ => Unit

abbrev Program := Code Op Res

/-- The time that the test sets at its end. -/
def restored (before set get : Timeval) : Timeval :=
  let tvSec := toLong (before.tvSec + toLong (get.tvSec - set.tvSec))
  let tvUsec := toLong (before.tvUsec + toLong (get.tvUsec - set.tvUsec))
  if tvUsec ≥ 1000000 then
    ⟨toLong (tvSec + tvUsec.tdiv 1000000), toLong (tvUsec + tvUsec.tmod 1000000)⟩
  else
    ⟨tvSec, tvUsec⟩

/-- The run function, with the time that it sets. -/
def runFunc (set : Timeval) : Program (Option String) := do
  let (errno, before) ← .perform Op.gettimeofday
  if ¬errno = 0 then
    return some "gettimeofday error. 1"
  let errno ← .perform (Op.settimeofday set)
  if ¬errno = 0 then
    return some "settimeofday error. 1"
  let (errno, get) ← .perform Op.gettimeofday
  if ¬errno = 0 then
    return some "gettimeofday error. 2"
  if ¬get.tvSec ≤ toLong (set.tvSec + 1) then
    return some "gotten timeval is too high."
  if ¬(get.tvSec > set.tvSec ∨ get.tvSec = set.tvSec ∧ get.tvUsec > set.tvUsec) then
    return some "gotten timecal is too low"
  .perform (Op.printf "set = \x7btv_sec = %ld, tv_usec = %ld\x7d\n" [set.tvSec, set.tvUsec])
  .perform (Op.printf "get = \x7btv_sec = %ld. tv_usec = %ld\x7d\n" [get.tvSec, get.tvUsec])
  let errno ← .perform (Op.settimeofday (restored before set get))
  if ¬errno = 0 then
    return some "settimeofday error. 2"
  return none

/-- The time that `gettimeofday#0` sets. -/
def setTime : Timeval :=
  ⟨6, 6⟩

/-! ## The restored time -/

/-- What the assertions say about the time that was read back. -/
structure Credible (set get : Timeval) : Prop where
  notHigh : get.tvSec ≤ toLong (set.tvSec + 1)
  notLow : get.tvSec > set.tvSec ∨ get.tvSec = set.tvSec ∧ get.tvUsec > set.tvUsec

section Restored

variable {before set get : Timeval}

/-- The seconds have advanced by one at most. -/
theorem Credible.advance (credible : Credible set get) (setNormalised : set.Normalised)
    (getNormalised : get.Normalised) :
    get.tvSec = set.tvSec ∨ get.tvSec = set.tvSec + 1 := by
  rcases credible with ⟨notHigh, notLow⟩
  have least := setNormalised.least
  have greatest := setNormalised.greatest
  -- After the greatest second there is none that could be read back.
  by_cases last : set.tvSec + 1 < 2 ^ 63
  · rw [toLong_eq_self (by omega) last] at notHigh
    omega
  · have isLast : set.tvSec = 2 ^ 63 - 1 := by omega
    have getGreatest := getNormalised.greatest
    omega

/-- The restored time, with the sum of the microseconds. -/
theorem restored_eq (beforeNormalised : before.Normalised) (setNormalised : set.Normalised)
    (getNormalised : get.Normalised) (credible : Credible set get) :
    restored before set get =
      if before.tvUsec + (get.tvUsec - set.tvUsec) ≥ 1000000 then
        ⟨toLong (toLong (before.tvSec + (get.tvSec - set.tvSec)) + 1),
          2 * (before.tvUsec + (get.tvUsec - set.tvUsec)) - 1000000⟩
      else
        ⟨toLong (before.tvSec + (get.tvSec - set.tvSec)),
          before.tvUsec + (get.tvUsec - set.tvUsec)⟩ := by
  have advance := credible.advance setNormalised getNormalised
  rcases beforeNormalised with ⟨-, -, beforeNonneg, beforeSmall⟩
  rcases setNormalised with ⟨-, -, setNonneg, setSmall⟩
  rcases getNormalised with ⟨-, -, getNonneg, getSmall⟩
  have passed : toLong (get.tvSec - set.tvSec) = get.tvSec - set.tvSec :=
    toLong_eq_self (by omega) (by omega)
  have difference : toLong (get.tvUsec - set.tvUsec) = get.tvUsec - set.tvUsec :=
    toLong_eq_self (by omega) (by omega)
  have sum : toLong (before.tvUsec + (get.tvUsec - set.tvUsec)) =
      before.tvUsec + (get.tvUsec - set.tvUsec) :=
    toLong_eq_self (by omega) (by omega)
  simp only [restored, passed, difference, sum]
  split
  · rename_i carry
    have quotient : (before.tvUsec + (get.tvUsec - set.tvUsec)).tdiv 1000000 = 1 := by
      rw [Int.tdiv_eq_ediv_of_nonneg (by omega)]
      omega
    have remainder : (before.tvUsec + (get.tvUsec - set.tvUsec)).tmod 1000000 =
        before.tvUsec + (get.tvUsec - set.tvUsec) - 1000000 := by
      rw [Int.tmod_eq_emod_of_nonneg (by omega)]
      omega
    have doubled : toLong (before.tvUsec + (get.tvUsec - set.tvUsec) +
        (before.tvUsec + (get.tvUsec - set.tvUsec) - 1000000)) =
          2 * (before.tvUsec + (get.tvUsec - set.tvUsec)) - 1000000 := by
      rw [toLong_eq_self (by omega) (by omega)]
      omega
    rw [quotient, remainder, doubled]
  · rfl

/-- The restored time is right if and only if the microseconds need no carry and no borrow
and the seconds fit. -/
theorem restored_correct_iff (beforeNormalised : before.Normalised)
    (setNormalised : set.Normalised) (getNormalised : get.Normalised)
    (credible : Credible set get) :
    ((restored before set get).Normalised ∧
        (restored before set get).micros = before.micros + (get.micros - set.micros)) ↔
      0 ≤ before.tvUsec + (get.tvUsec - set.tvUsec) ∧
        before.tvUsec + (get.tvUsec - set.tvUsec) < 1000000 ∧
        before.tvSec + (get.tvSec - set.tvSec) < 2 ^ 63 := by
  rw [restored_eq beforeNormalised setNormalised getNormalised credible]
  by_cases carry : before.tvUsec + (get.tvUsec - set.tvUsec) ≥ 1000000
  · rw [if_pos carry]
    constructor
    · rintro ⟨normalised, -⟩
      have small := normalised.small
      simp only at small
      omega
    · rintro ⟨-, small, -⟩
      omega
  · rw [if_neg carry]
    have advance := credible.advance setNormalised getNormalised
    have least := beforeNormalised.least
    have greatest := beforeNormalised.greatest
    constructor
    · rintro ⟨normalised, same⟩
      have nonneg := normalised.nonneg
      have secGreatest := normalised.greatest
      simp only [Timeval.micros] at nonneg secGreatest same
      omega
    · rintro ⟨nonneg, small, fits⟩
      rw [toLong_eq_self (by omega) fits]
      refine ⟨⟨by simp only; omega, fits, nonneg, small⟩, ?_⟩
      simp only [Timeval.micros]
      omega

end Restored

/-! ## The runs of the test -/

/-- The calls of a run that gets as far as restoring the clock. -/
def restoringCalls (before set get handed : Timeval) (errno : Int) : List (Call Op Res) :=
  [⟨.gettimeofday, (0, before)⟩, ⟨.settimeofday set, (0 : Int)⟩, ⟨.gettimeofday, (0, get)⟩,
    ⟨.printf "set = \x7btv_sec = %ld, tv_usec = %ld\x7d\n" [set.tvSec, set.tvUsec], ()⟩,
    ⟨.printf "get = \x7btv_sec = %ld. tv_usec = %ld\x7d\n" [get.tvSec, get.tvUsec], ()⟩,
    ⟨.settimeofday handed, errno⟩]

/-- There is such a run if and only if the assertions pass and the time that is set is the
restored one. -/
theorem runFunc_restores_iff {before set get handed : Timeval} {errno : Int} :
    (∃ message, (runFunc set).Performs (restoringCalls before set get handed errno) message) ↔
      Credible set get ∧ handed = restored before set get := by
  simp only [runFunc, restoringCalls, Code.perform_bind, Code.performs_call_cons, not_true_eq_false,
    if_false]
  constructor
  · rintro ⟨message, performs⟩
    split at performs
    · cases performs.1
    split at performs
    · cases performs.1
    rename_i notHigh notLow
    simp only [Code.performs_call_cons] at performs
    rcases performs with ⟨_, _, same, -⟩
    cases same
    exact ⟨⟨not_not.mp notHigh, not_not.mp notLow⟩, rfl⟩
  · rintro ⟨⟨notHigh, notLow⟩, rfl⟩
    simp only [notHigh, notLow, not_true_eq_false, if_false, Code.performs_call_cons]
    by_cases succeeds : errno = 0
    · exact ⟨none, by simp [succeeds]⟩
    · exact ⟨some "settimeofday error. 2", by simp [succeeds]⟩

/-- The time that the test sets at its end is normalised and is the time before the test plus
the time that has passed in it, if and only if the sum of the microseconds needs no carry and
no borrow and the sum of the seconds fits. -/
theorem clock_restored_iff (before set get : Timeval) (beforeNormalised : before.Normalised)
    (setNormalised : set.Normalised) (getNormalised : get.Normalised) (handed : Timeval)
    (errno : Int) (message : Option String)
    (performs : (runFunc set).Performs (restoringCalls before set get handed errno) message) :
    (handed.Normalised ∧ handed.micros = before.micros + (get.micros - set.micros)) ↔
      0 ≤ before.tvUsec + (get.tvUsec - set.tvUsec) ∧
        before.tvUsec + (get.tvUsec - set.tvUsec) < 1000000 ∧
        before.tvSec + (get.tvSec - set.tvSec) < 2 ^ 63 := by
  rcases runFunc_restores_iff.mp ⟨message, performs⟩ with ⟨credible, rfl⟩
  exact restored_correct_iff beforeNormalised setNormalised getNormalised credible

theorem clock_restored_iff_late :
    ((⟨100, 499999⟩ : Timeval).Normalised ∧
        (⟨100, 499999⟩ : Timeval).micros =
          (⟨99, 500000⟩ : Timeval).micros + ((⟨7, 5⟩ : Timeval).micros - setTime.micros)) ↔
      0 ≤ (500000 : Int) + (5 - 6) ∧ (500000 : Int) + (5 - 6) < 1000000 ∧
        (99 : Int) + (7 - 6) < 2 ^ 63 :=
  clock_restored_iff ⟨99, 500000⟩ setTime ⟨7, 5⟩ (by constructor <;> decide)
    (by constructor <;> decide) (by constructor <;> decide) ⟨100, 499999⟩ 0 none
    (Code.performs_of_replay rfl)

/-- The microseconds of the time before the test and those that have passed make more than a
second.  The test hands a time to `settimeofday` that it cannot accept. -/
theorem carry_not_removed :
    (runFunc setTime).Performs
        (restoringCalls ⟨100, 999999⟩ setTime ⟨6, 10⟩ ⟨101, 1000006⟩ 22)
        (some "settimeofday error. 2") ∧
      ¬(⟨101, 1000006⟩ : Timeval).Normalised := by
  refine ⟨Code.performs_of_replay rfl, fun normalised => ?_⟩
  exact absurd normalised.small (by decide)

end McKernelTest.Gettimeofday
