import McKernelTest.Process.Core
import Mathlib.Algebra.BigOperators.Group.Finset.Basic
import Mathlib.Algebra.Order.BigOperators.Group.Finset

/-!
# Runs that come to an end

Code without unbounded loops performs a bounded number of operations, whatever
their results.  Finitely many processes with such code can only take finitely
many steps together, so every configuration has a run to one where nothing can
move any more.
-/

namespace McKernelTest.Process

open Transition

namespace Code

variable {Op : Type} {Res : Op → Type} {A B : Type}

/-- The code performs at most the given number of operations. -/
def Within : Nat → Code Op Res A → Prop
  | _, .ret _ => True
  | 0, .call _ _ => False
  | budget + 1, .call _ next => ∀ result, Within budget (next result)

@[simp]
theorem within_ret (budget : Nat) (value : A) :
    Within budget (.ret value : Code Op Res A) := by
  cases budget <;> exact trivial

@[simp]
theorem within_call (budget : Nat) (op : Op) (next : Res op → Code Op Res A) :
    Within (budget + 1) (.call op next) ↔ ∀ result, Within budget (next result) :=
  Iff.rfl

theorem Within.mono {small large : Nat} {code : Code Op Res A} (within : Within small code)
    (le : small ≤ large) : Within large code := by
  induction code generalizing small large with
  | ret value => exact within_ret large value
  | call op next ih =>
      cases small with
      | zero => exact within.elim
      | succ small =>
          cases large with
          | zero => exact absurd le (Nat.not_succ_le_zero small)
          | succ large =>
              exact fun result => ih result (within result) (Nat.le_of_succ_le_succ le)

theorem Within.bind {first second : Nat} {code : Code Op Res A} {rest : A → Code Op Res B}
    (within : Within first code) (restWithin : ∀ value, Within second (rest value)) :
    Within (first + second) (code >>= rest) := by
  induction code generalizing first with
  | ret value => exact (restWithin value).mono (Nat.le_add_left second first)
  | call op next ih =>
      cases first with
      | zero => exact within.elim
      | succ first =>
          rw [Nat.succ_add]
          exact fun result => ih result (within result)

end Code

namespace System

variable {Pid Op : Type} {Res : Op → Type} {A W : Type} [DecidableEq Pid] [DecidableEq Op]

/-- Nothing can move. -/
def Terminal (system : System Pid Op Res A Empty W) (config : Config Pid Op Res A W) : Prop :=
  ∀ event, system.step config event = none

/-- Where nothing can move, the operation of a process has no result. -/
theorem Terminal.perform_eq_none {system : System Pid Op Res A Empty W}
    {config : Config Pid Op Res A W} {pid : Pid} {op : Op} {next : Res op → Code Op Res A}
    (terminal : system.Terminal config) (found : config.code pid = some (.call op next))
    (result : Res op) : system.perform config.world pid op result = none := by
  by_contra possible
  rcases Option.ne_none_iff_exists'.mp possible with ⟨world, performed⟩
  have moved := (step_call_eq_some_iff system _ _ _ _ _).mpr ⟨next, world, found, performed, rfl⟩
  rw [terminal (.call pid op result)] at moved
  cases moved

/-- Only the given processes exist, and each has a bound on its operations:
on those left, or on all of them when it has not been started. -/
def Bounded (pids : Finset Pid) (fresh : Pid → Code Op Res A) (budget : Pid → Nat)
    (code : Pid → Option (Code Op Res A)) : Prop :=
  (∀ pid, pid ∉ pids → code pid = none) ∧
    ∀ pid ∈ pids, Code.Within (budget pid) ((code pid).getD (fresh pid))

/-- Processes are started once, with the code they are expected to have. -/
def StartsFresh (system : System Pid Op Res A Empty W) (pids : Finset Pid)
    (fresh : Pid → Code Op Res A) (config : Config Pid Op Res A W) : Prop :=
  ∀ pid op result next world started start,
    config.code pid = some (.call op next) →
    system.perform config.world pid op result = some world →
    system.spawn pid op result next = some (started, start) →
    started ∈ pids ∧ started ≠ pid ∧ config.code started = none ∧ start = fresh started

variable {system : System Pid Op Res A Empty W} {pids : Finset Pid}
  {fresh : Pid → Code Op Res A} {budget : Pid → Nat} {config target : Config Pid Op Res A W}

omit [DecidableEq Op] in
/-- What a step makes of the bounded codes: only the process that moves has
less to do. -/
theorem StartsFresh.resume {pid : Pid} {op : Op} {result : Res op} {next : Res op → Code Op Res A}
    {world : W} (startsFresh : system.StartsFresh pids fresh config)
    (found : config.code pid = some (.call op next))
    (performed : system.perform config.world pid op result = some world) (other : Pid) :
    (other ∉ pids → config.code other = none → other ≠ pid →
      system.resume config.code pid op result next other = none) ∧
    (system.resume config.code pid op result next other).getD (fresh other) =
      if other = pid then next result else (config.code other).getD (fresh other) := by
  unfold System.resume
  cases spawned : system.spawn pid op result next with
  | none =>
      by_cases same : other = pid
      · subst same
        simp
      · simp [same]
  | some child =>
      rcases startsFresh pid op result next world child.1 child.2 found performed spawned with
        ⟨member, different, unborn, start⟩
      by_cases born : other = child.1
      · subst born
        simp [member, different, unborn, start]
      · by_cases same : other = pid
        · subst same
          simp [born]
        · simp [born, same]

/-- A step uses up one operation. -/
theorem Bounded.step {event : Event Pid Op Res Empty}
    (bounded : Bounded pids fresh budget config.code)
    (startsFresh : system.StartsFresh pids fresh config)
    (step : system.step config event = some target) :
    ∃ smaller, Bounded pids fresh smaller target.code ∧
      ∑ pid ∈ pids, smaller pid < ∑ pid ∈ pids, budget pid := by
  cases event with
  | external cause => exact cause.elim
  | call pid op result =>
      rcases (step_call_eq_some_iff _ _ _ _ _ _).mp step with
        ⟨next, world, found, performed, rfl⟩
      have member : pid ∈ pids := by
        by_contra foreign
        rw [bounded.1 pid foreign] at found
        cases found
      have within := bounded.2 pid member
      rw [found, Option.getD_some] at within
      cases spent : budget pid with
      | zero =>
          rw [spent] at within
          exact within.elim
      | succ left =>
          rw [spent] at within
          refine ⟨Function.update budget pid left, ⟨?_, ?_⟩, ?_⟩
          · intro other foreign
            have different : other ≠ pid := fun same => foreign (same ▸ member)
            exact (startsFresh.resume found performed other).1 foreign (bounded.1 other foreign)
              different
          · intro other otherMember
            rw [(startsFresh.resume found performed other).2]
            by_cases same : other = pid
            · subst same
              rw [if_pos rfl, Function.update_self]
              exact within result
            · rw [if_neg same, Function.update_of_ne same]
              exact bounded.2 other otherMember
          · apply Finset.sum_lt_sum
            · intro other _
              by_cases same : other = pid
              · subst same
                rw [Function.update_self, spent]
                exact Nat.le_succ left
              · rw [Function.update_of_ne same]
            · refine ⟨pid, member, ?_⟩
              rw [Function.update_self, spent]
              exact Nat.lt_succ_self left

/-- Bounded processes run to a configuration where nothing moves. -/
theorem Bounded.exists_terminal {Inv : Config Pid Op Res A W → Prop}
    (bounded : Bounded pids fresh budget config.code) (invariant : Inv config)
    (startsFresh : ∀ config, Inv config → system.StartsFresh pids fresh config)
    (preserved : ∀ config event target, Inv config → system.step config event = some target →
      Inv target) :
    ∃ trace target, Run system.step config trace target ∧ Inv target ∧
      system.Terminal target := by
  induction total : ∑ pid ∈ pids, budget pid using Nat.strong_induction_on
    generalizing budget config with
  | h total ih =>
      by_cases moves : ∃ event target, system.step config event = some target
      · rcases moves with ⟨event, middle, step⟩
        rcases bounded.step (startsFresh config invariant) step with ⟨smaller, within, less⟩
        rcases ih _ (total ▸ less) within (preserved _ _ _ invariant step) rfl with
          ⟨trace, target, run, reached, terminal⟩
        exact ⟨event :: trace, target, (GuardedRun.single trivial step).append run, reached,
          terminal⟩
      · refine ⟨[], config, GuardedRun.nil, invariant, ?_⟩
        intro event
        by_contra possible
        exact moves ⟨event, Option.ne_none_iff_exists'.mp possible⟩

/-- Whatever bounded processes have done, they can come to a configuration where nothing
moves. -/
theorem exists_terminal_of_run {trace : List (Event Pid Op Res Empty)}
    (run : Run system.step config trace target)
    (bounded : Bounded pids fresh budget config.code) (Inv : Config Pid Op Res A W → Prop)
    (invariant : Inv config)
    (startsFresh : ∀ config, Inv config → system.StartsFresh pids fresh config)
    (preserved : ∀ config event target, Inv config → system.step config event = some target →
      Inv target) :
    ∃ rest final, Run system.step target rest final ∧ system.Terminal final := by
  have reached : Inv target ∧ ∃ budget, Bounded pids fresh budget target.code := by
    apply run.preserves
    · exact ⟨invariant, budget, bounded⟩
    · rintro middle event target ⟨invariant, budget, bounded⟩ - stepped
      rcases bounded.step (startsFresh middle invariant) stepped with ⟨smaller, within, -⟩
      exact ⟨preserved middle event target invariant stepped, smaller, within⟩
  rcases reached with ⟨invariant, budget, bounded⟩
  rcases bounded.exists_terminal invariant startsFresh preserved with
    ⟨rest, final, continued, -, terminal⟩
  exact ⟨rest, final, continued, terminal⟩

end System

end McKernelTest.Process
