import McKernelTest.Tls.Terminal

/-!
# The rendezvous of `tls#1`

No thread starts early, whatever `pthread_create` returns: the parent starts nobody
before it has waited for everybody.  For the same reason it waits for ever for a thread
that was never created, and all other threads wait with it.
-/

namespace McKernelTest.Tls

open Posix Process Transition

/-- No thread increments its counter before all threads that are created have posted. -/
def NoEarlyStart (env : Environment) (childCount : Nat) : Prop :=
  ∀ before num target,
    Run (system env).step (start childCount) (before ++ [.call (.child num) .incTls ()]) target →
    ∀ other < childCount, env.pthreadCreate other = 0 → posting other ∈ before

/-- Some thread can still post the semaphore. -/
def CanPost (env : Environment) (config : TlsConfig) (sem : Sem) : Prop :=
  ∃ trace target thread done,
    Run (system env).step config (trace ++ [.call thread (.semPost sem) done]) target

/-- The parent is blocked at a child's `sync`, or a child is blocked at its `start`, and
nobody can ever post. -/
def Hangs (env : Environment) (config : TlsConfig) : Prop :=
  (∃ i, Blocked config .parent (.sync i) ∧ ¬CanPost env config (.sync i)) ∨
    ∃ num, Blocked config (.child num) (.start num) ∧ ¬CanPost env config (.start num)

section Accounts

variable {env : Environment} {childCount num i : Nat} {trace : List TlsEvent} {sems : Sem → Nat}
  {parent : ParentStage} {children : Nat → Option ChildStage} {stage : ChildStage}

theorem passed_eq_one_iff {bound : Nat} : passed num bound = 1 ↔ num < bound := by
  simp [passed]

theorem ParentStage.Fits.created_le (fits : parent.Fits env childCount) :
    parent.created childCount ≤ childCount := by
  cases parent with
  | creating i => exact Nat.le_of_lt fits.2
  | setup => exact Nat.zero_le childCount
  | left => exact Nat.zero_le childCount
  | syncing i => exact Nat.le_refl childCount
  | starting i => exact Nat.le_refl childCount

/-- With memory the parent does not leave early. -/
theorem Accounts.not_left (accounts : Accounts env childCount trace sems .left children)
    (memory : env.calloc = true) : False := by
  have none : env.calloc = false := accounts.fits
  rw [memory] at none
  cases none

/-- There are threads only if there is memory. -/
theorem Accounts.memory (accounts : Accounts env childCount trace sems parent children)
    (current : children num = some stage) : env.calloc = true ∧ num < childCount := by
  have born := ((accounts.account num).born.mp (by rw [current]; rfl)).1
  refine ⟨?_, born.trans_le accounts.fits.created_le⟩
  cases parent with
  | setup => exact absurd born (Nat.not_lt_zero num)
  | left => exact absurd born (Nat.not_lt_zero num)
  | creating i => exact accounts.fits.1
  | syncing i => exact accounts.fits
  | starting i => exact accounts.fits

/-- A child that works has been started. -/
theorem Accounts.started_of_entered (accounts : Accounts env childCount trace sems parent children)
    (current : children num = some stage) (entered : stage.hasEntered = true) :
    num < parent.started := by
  have start := (accounts.account num).start
  rw [current, Option.any_some, entered] at start
  rw [← passed_eq_one_iff]
  have atMost : passed num parent.started ≤ 1 := by
    unfold passed
    split <;> omega
  simp only [Bool.toNat_true] at start
  omega

/-- A child that the parent has waited for has posted. -/
theorem Accounts.posted_of_waited (accounts : Accounts env childCount trace sems parent children)
    (waited : num < parent.waited childCount) :
    (children num).any (·.hasPosted) = true := by
  have sync := (accounts.account num).sync
  rw [passed_eq_one_iff.mpr waited] at sync
  cases posted : (children num).any (·.hasPosted) with
  | true => rfl
  | false =>
      rw [posted] at sync
      simp at sync

/-- The parent starts nobody before it has waited for everybody. -/
theorem ParentStage.waited_of_started (started : num < parent.started) :
    parent.waited childCount = childCount := by
  cases parent with
  | starting i => rfl
  | _ => exact absurd started (Nat.not_lt_zero num)

/-- A child that is waited for and has not posted is about to. -/
theorem Accounts.fresh_of_waiting
    (accounts : Accounts env childCount trace sems (.syncing i) children)
    (known : i < childCount) (created : env.pthreadCreate i = 0) (empty : sems (.sync i) = 0) :
    children i = some .fresh := by
  have account := accounts.account i
  rcases Option.isSome_iff_exists.mp (account.born.mpr ⟨known, created⟩) with ⟨stage, current⟩
  have sync := account.sync
  rw [empty, ParentStage.waited, passed_self, current, Option.any_some] at sync
  cases stage with
  | fresh => exact current
  | _ => simp [ChildStage.hasPosted] at sync

end Accounts

section Runs

variable {env : Environment} {childCount num i : Nat} {trace : List TlsEvent} {config : TlsConfig}
  {parent : ParentStage} {children : Nat → Option ChildStage}

theorem no_early_start (env : Environment) (positive : 0 < childCount) :
    NoEarlyStart env childCount := by
  intro before num target run other known created
  rcases run.last with ⟨middle, reached, -, stepped⟩
  rcases Invariant.of_run positive reached with ⟨parent, children, tracks, accounts, -⟩
  rcases (System.step_call_eq_some_iff _ _ _ _ _ _).mp stepped with ⟨next, world, found, -, -⟩
  rcases tracks.call found with ⟨_, current, accepted, -⟩
  rcases Option.map_eq_some_iff.mp current with ⟨stage, isStage, rfl⟩
  cases stage with
  | running =>
      have started := accounts.started_of_entered isStage rfl
      have waited : other < parent.waited childCount := by
        rwa [ParentStage.waited_of_started started]
      exact (accounts.account other).logged (accounts.posted_of_waited waited)
  | _ => simp at accepted

/-- A child at its beginning can post. -/
theorem canPost_of_fresh
    (tracks : (protocol childCount).Tracks (finished childCount) (stagesOf parent children)
      config.code)
    (current : children i = some .fresh) : CanPost env config (.sync i) := by
  have related := tracks (.child i)
  rw [stagesOf, current] at related
  generalize located : config.code (.child i) = code at related
  cases related with
  | some follows =>
      rename_i code
      cases code with
      | ret value => exact absurd follows (by simp [finished])
      | call op next =>
          obtain rfl : op = .semPost (.sync i) := follows.1
          have stepped := (System.step_call_eq_some_iff (system env) _ _ _ _ ()).mpr
            ⟨next, _, located, rfl, rfl⟩
          exact ⟨[], _, _, _, GuardedRun.single trivial stepped⟩

/-- A wait of the parent for a thread that has been created does not last. -/
theorem canPost_sync
    (tracks : (protocol childCount).Tracks (finished childCount) (stagesOf parent children)
      config.code)
    (accounts : Accounts env childCount trace config.world.sems parent children)
    (succeeds : env.calloc = true → ∀ i < childCount, env.pthreadCreate i = 0)
    (blocked : Blocked config .parent (.sync i)) : CanPost env config (.sync i) := by
  rcases blocked with ⟨empty, next, found⟩
  rcases tracks.call found with ⟨_, ⟨⟩, accepted, -⟩
  cases parent with
  | syncing other =>
      obtain ⟨known, rfl⟩ : other < childCount ∧ i = other := by simpa using accepted
      exact canPost_of_fresh tracks
        (accounts.fresh_of_waiting known (succeeds accounts.fits i known) empty)
  | _ => simp at accepted

theorem not_canPost_of_terminal (terminal : (system env).Terminal config) (sem : Sem) :
    ¬CanPost env config sem := by
  rintro ⟨trace, target, thread, done, run⟩
  have ended := run.eq_nil_of_stuck terminal
  simp at ended

/-- If all threads are created, the parent is through with its semaphores in the end. -/
theorem starting_of_terminal (terminal : (system env).Terminal config)
    (tracks : (protocol childCount).Tracks (finished childCount) (stagesOf parent children)
      config.code)
    (accounts : Accounts env childCount trace config.world.sems parent children)
    (memory : env.calloc = true) (succeeds : ∀ i < childCount, env.pthreadCreate i = 0) :
    parent = .starting childCount := by
  rcases parent_at_rest terminal tracks with ⟨i, rfl, blocked⟩ | isLast | rfl
  · have possible := canPost_sync tracks accounts (fun _ => succeeds) blocked
    exact absurd possible (not_canPost_of_terminal terminal _)
  · exact isLast
  · exact (accounts.not_left memory).elim

/-- A child's wait for its start does not last. -/
theorem canPost_start (positive : 0 < childCount)
    (run : Run (system env).step (start childCount) trace config)
    (succeeds : env.calloc = true → ∀ i < childCount, env.pthreadCreate i = 0)
    (blocked : Blocked config (.child num) (.start num)) : CanPost env config (.start num) := by
  rcases Invariant.of_run positive run with ⟨parent, children, tracks, accounts, started⟩
  rcases blocked with ⟨empty, next, found⟩
  rcases tracks.call found with ⟨_, current, accepted, -⟩
  rcases Option.map_eq_some_iff.mp current with ⟨stage, isStage, rfl⟩
  have notStarted : starting num ∉ trace := by
    have start := (accounts.account num).start
    cases stage with
    | posted =>
        rw [empty, isStage] at start
        rw [started num, ← passed_eq_one_iff, ← start]
        simp [ChildStage.hasEntered]
    | _ => simp at accepted
  obtain ⟨memory, known⟩ := accounts.memory isStage
  rcases exists_terminal positive run with ⟨rest, final, continued, terminal⟩
  rcases Invariant.of_run positive (run.append continued) with
    ⟨last, _, finalTracks, finalAccounts, finalStarted⟩
  have isLast := starting_of_terminal terminal finalTracks finalAccounts memory (succeeds memory)
  have logged : starting num ∈ trace ++ rest := by
    rw [finalStarted num, isLast]
    exact known
  rcases List.append_of_mem ((List.mem_append.mp logged).resolve_left notStarted) with
    ⟨before, after, rfl⟩
  rw [List.append_cons] at continued
  rcases continued.split with ⟨middle, posts, -⟩
  exact ⟨before, middle, .parent, (), posts⟩

theorem never_hangs (positive : 0 < childCount)
    (succeeds : env.calloc = true → ∀ i < childCount, env.pthreadCreate i = 0)
    (run : Run (system env).step (start childCount) trace config) : ¬Hangs env config := by
  rintro (⟨i, blocked, stuck⟩ | ⟨num, blocked, stuck⟩)
  · rcases Invariant.of_run positive run with ⟨parent, children, tracks, accounts, -⟩
    exact stuck (canPost_sync tracks accounts succeeds blocked)
  · exact stuck (canPost_start positive run succeeds blocked)

/-- A thread that is never created hangs the test case. -/
theorem hangs_of_failure (positive : 0 < childCount) (memory : env.calloc = true)
    (known : i < childCount) (failed : env.pthreadCreate i ≠ 0) :
    ∃ trace config, Run (system env).step (start childCount) trace config ∧ Hangs env config := by
  have entered : Run (system env).step (start childCount) [] (start childCount) := GuardedRun.nil
  rcases exists_terminal positive entered with ⟨trace, final, run, terminal⟩
  rcases Invariant.of_run positive run with ⟨parent, children, tracks, accounts, -⟩
  refine ⟨trace, final, run, Or.inl ?_⟩
  rcases parent_at_rest terminal tracks with ⟨i, rfl, blocked⟩ | rfl | rfl
  · exact ⟨i, blocked, not_canPost_of_terminal terminal _⟩
  · have posted := accounts.posted_of_waited known
    have born : (children i).isSome = true := by
      cases child : children i with
      | none => simp [child] at posted
      | some stage => rfl
    exact absurd ((accounts.account i).born.mp born).2 failed
  · exact (accounts.not_left memory).elim

end Runs

/-- The rendezvous works exactly if every thread is created. -/
theorem rendezvous_works_iff (env : Environment) (childCount : Nat) (positive : 1 ≤ childCount) :
    (NoEarlyStart env childCount ∧
      ∀ trace config, Run (system env).step (start childCount) trace config → ¬Hangs env config) ↔
    (env.calloc = true → ∀ i < childCount, env.pthreadCreate i = 0) := by
  constructor
  · rintro ⟨-, never⟩ memory i known
    by_contra failed
    rcases hangs_of_failure positive memory known failed with ⟨trace, config, run, hangs⟩
    exact never trace config run hangs
  · intro succeeds
    exact ⟨no_early_start env positive, fun trace config run => never_hangs positive succeeds run⟩

/-- Two threads, both created. -/
theorem rendezvous_works_iff_two :
    NoEarlyStart ⟨true, fun _ => 0⟩ 2 ∧
      ∀ trace config, Run (system ⟨true, fun _ => 0⟩).step (start (2 : Nat)) trace config →
        ¬Hangs ⟨true, fun _ => 0⟩ config :=
  (rendezvous_works_iff ⟨true, fun _ => 0⟩ 2 (by decide)).mpr fun _ _ _ => rfl

/-- One thread whose `pthread_create` fails with `EAGAIN`. -/
def uncreated : List TlsEvent :=
  [.call .parent (.calloc 1) true, .call .parent (.semInit (.sync 0)) (),
    .call .parent (.semInit (.start 0)) (), .call .parent (.pthreadCreate 0) (11 : Int)]

/-- A parent that is blocked at a semaphore and has no threads is stuck. -/
theorem terminal_of_alone {env : Environment} {config : TlsConfig} {sem : Sem}
    (blocked : Blocked config .parent sem) (alone : ∀ num, config.code (.child num) = none) :
    (system env).Terminal config := by
  rcases blocked with ⟨empty, next, found⟩
  apply System.step_eq_none_of_refused
  intro thread op following result located
  cases thread with
  | parent =>
      cases found.symm.trans located
      change (semWaitOn config.world.sems sem).map _ = none
      rw [semWaitOn_eq_none empty]
      rfl
  | child num =>
      rw [alone num] at located
      cases located

/-- The parent waits for ever for a thread that was not created. -/
theorem uncreated_thread_hangs_parent :
    ∃ trace config, Run (system ⟨true, fun _ => 11⟩).step (start (1 : Nat)) trace config ∧
      Hangs ⟨true, fun _ => 11⟩ config := by
  refine ⟨uncreated, _, GuardedRun.of_execute rfl, Or.inl ⟨0, ⟨rfl, _, rfl⟩, ?_⟩⟩
  exact not_canPost_of_terminal (terminal_of_alone ⟨rfl, _, rfl⟩ fun _ => rfl) _

end McKernelTest.Tls
