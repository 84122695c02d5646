import McKernelTest.Flow.Rank
import McKernelTest.SchedSetaffinity.ThreadsRuns
import McKernelTest.Transition.Progress
import Mathlib.Data.Fintype.EquivFin

/-!
# How `sched_setaffinity#11` ends

The run function does not check whether its threads could be created.  It waits for a thread
that does not exist, in `read` as long as the pipe is there and in `sem_wait` otherwise.  If
the threads exist they can always go on to the place where the run function needs them.
-/

namespace McKernelTest.SchedSetaffinity.Threads

open Posix Process Transition

/-- The run function never waits for a thread that does not exist. -/
def Completes (env : Environment) (numOfCpus : Int) : Prop :=
  numOfCpus ≤ 0 ∨ env.pthreadCreate 0 = 0 ∧
    (env.pthreadCreate 1 = 0 ∨ env.pipe 1 = false ∧ env.cpuAlloc = false)

section Ranks

/-- How many calls the run function is away from its return. -/
def MainPoint.rank : MainPoint → Nat
  | .pipe i _ => 40 - 8 * i
  | .storeFds i _ => 39 - 8 * i
  | .initSync i _ => 38 - 8 * i
  | .initStart i _ => 37 - 8 * i
  | .create i _ => 36 - 8 * i
  | .read i _ => 35 - 8 * i
  | .closeRead i _ => 34 - 8 * i
  | .closeWrite i _ => 33 - 8 * i
  | .cpuAlloc _ => 24
  | .waitSync i _ => 20 - i
  | .fflush _ => 15
  | .setaffinity _ => 14
  | .cpuFree _ => 13
  | .postStart1 _ => 12
  | .postStart0 _ => 11
  | .join i _ => 10 - 3 * i
  | .destroySync i _ => 9 - 3 * i
  | .destroyStart i _ => 8 - 3 * i
  | .returned _ => 0

/-- How many calls a thread is away from its end. -/
def ChildPoint.rank : ChildPoint → Nat
  | .writeRegisters => 18
  | .getCpuId => 17
  | .gettid _ => 16
  | .loadFd _ => 15
  | .write _ _ => 14
  | .printBefore _ => 13
  | .showBefore => 12
  | .postSync => 11
  | .waitStart => 10
  | .getCpuIdAfter => 9
  | .gettidAfter _ => 8
  | .printAfter _ => 7
  | .showAfter => 6
  | .loadReadFd => 5
  | .closeRead _ => 4
  | .loadWriteFd => 3
  | .closeWrite _ => 2
  | .threadReturn => 1
  | .exited => 0

/-- What the run function and the threads have still to do. -/
def totalRank (main : MainPoint) (children : Nat → Option ChildPoint) : Nat :=
  main.rank + Flow.familyRank ChildPoint.writeRegisters.rank ChildPoint.rank 2 children

end Ranks

section Calls

variable {env : Environment} {numOfCpus : Int} {trace : List ThreadsEvent} {world : World}
  {main : MainPoint} {children : Nat → Option ChildPoint} {i : Nat}

/-- A thread makes its next call unless it waits for the run function. -/
theorem exists_child_call (env : Environment) (world : World) {point : ChildPoint}
    (running : point ≠ .exited) (able : point = .waitStart → 0 < world.sems (.start i)) :
    ∃ op next result after, childNode i point = .call op next ∧
      perform env world (.child i) op result = some after ∧ (next result).rank < point.rank := by
  cases point with
  | getCpuId => exact ⟨.getCpuId, _, 0, _, rfl, rfl, Nat.lt_succ_self _⟩
  | gettid cpuid => exact ⟨.gettid, _, env.tid i, _, rfl, if_pos rfl, Nat.lt_succ_self _⟩
  | loadFd info =>
      exact ⟨.loadWriteFd i, _, (world.children i).2, _, rfl, if_pos rfl, Nat.lt_succ_self _⟩
  | write fd info =>
      obtain ⟨after, performed⟩ : ∃ after,
          perform env world (.child i) (.write fd info) () = some after := by
        simp only [perform]
        split <;> exact ⟨_, rfl⟩
      exact ⟨.write fd info, _, (), after, rfl, performed, Nat.lt_succ_self _⟩
  | waitStart =>
      obtain ⟨sems, waited⟩ : ∃ sems, semWaitOn world.sems (.start i) = some sems :=
        ⟨_, (semWaitOn_eq_some_iff _ _ _).mpr ⟨able rfl, rfl⟩⟩
      exact ⟨.semWait (.start i), _, (), { world with sems := sems }, rfl,
        by simp [perform, waited], Nat.lt_succ_self _⟩
  | getCpuIdAfter => exact ⟨.getCpuId, _, 0, _, rfl, rfl, Nat.lt_succ_self _⟩
  | gettidAfter cpuid => exact ⟨.gettid, _, env.tid i, _, rfl, if_pos rfl, Nat.lt_succ_self _⟩
  | loadReadFd =>
      exact ⟨.loadReadFd i, _, (world.children i).1, _, rfl, if_pos rfl, Nat.lt_succ_self _⟩
  | closeRead fd => exact ⟨.close fd, _, _, _, rfl, if_pos rfl, Nat.lt_succ_self _⟩
  | loadWriteFd =>
      exact ⟨.loadWriteFd i, _, (world.children i).2, _, rfl, if_pos rfl, Nat.lt_succ_self _⟩
  | closeWrite fd => exact ⟨.close fd, _, _, _, rfl, if_pos rfl, Nat.lt_succ_self _⟩
  | exited => exact absurd rfl running
  | _ => exact ⟨_, _, (), _, rfl, rfl, Nat.lt_succ_self _⟩

/-- No thread can make a call. -/
def Stalled (world : World) (children : Nat → Option ChildPoint) : Prop :=
  ∀ i point, children i = some point →
    point = .exited ∨ point = .waitStart ∧ world.sems (.start i) = 0

/-- A thread that cannot make a call has written to its pipe. -/
theorem Accounts.exists_queued (accounts : Accounts env trace world main children)
    (stalled : Stalled world children) (isPiped : env.pipe i = true)
    (success : env.pthreadCreate i = 0) (created : i < main.progress.created)
    (unread : main.progress.read ≤ i) : ∃ first rest, world.queue i = first :: rest := by
  have account := accounts.account i
  obtain ⟨point, current⟩ := Option.isSome_iff_exists.mp (account.born.mpr ⟨created, success⟩)
  have wrote : point.wrote = true := by
    rcases stalled i point current with rfl | ⟨rfl, -⟩ <;> rfl
  have queue := account.queue isPiped
  rw [current, Option.any_some, wrote, decide_eq_false (Nat.not_lt.mpr unread)] at queue
  exact List.exists_cons_of_length_pos (by simp at queue; omega)

/-- A thread that cannot make a call is ready. -/
theorem Accounts.sync_pos (accounts : Accounts env trace world main children)
    (stalled : Stalled world children) (success : env.pthreadCreate i = 0)
    (created : i < main.progress.created) (unwaited : main.progress.waited ≤ i) :
    0 < world.sems (.sync i) := by
  have account := accounts.account i
  obtain ⟨point, current⟩ := Option.isSome_iff_exists.mp (account.born.mpr ⟨created, success⟩)
  have synced : point.synced = true := by
    rcases stalled i point current with rfl | ⟨rfl, -⟩ <;> rfl
  have sync := account.sync
  rw [current, Option.any_some, synced, decide_eq_false (Nat.not_lt.mpr unwaited)] at sync
  simp at sync
  omega

/-- A thread that has been told to go on and cannot make a call has returned. -/
theorem Accounts.exited_of_stalled (accounts : Accounts env trace world main children)
    (stalled : Stalled world children) (waited : i < main.progress.waited)
    (posted : main.progress.posted i = true) : world.exited i = true := by
  have account := accounts.account i
  have sync := account.sync
  have start := account.start
  rw [account.exited]
  cases current : children i with
  | none =>
      rw [current, decide_eq_true waited] at sync
      simp at sync
  | some point =>
      rcases stalled i point current with rfl | ⟨rfl, empty⟩
      · rfl
      · rw [current, posted, empty] at start
        simp [ChildPoint.released] at start

theorem createLoop_rank (i : Nat) (small : i ≤ 2) (locals : Locals) :
    (createLoop i locals).rank ≤ 40 - 8 * i := by
  unfold createLoop childThreadCount
  split
  · exact Nat.le_refl _
  · simp only [MainPoint.rank]
    omega

theorem waitLoop_rank (i : Nat) (small : i ≤ 2) (locals : Locals) :
    (waitLoop i locals).rank ≤ 20 - i := by
  unfold waitLoop
  split
  · exact Nat.le_refl _
  · simp only [MainPoint.rank]
    omega

theorem joinLoop_rank (i : Nat) (result : Int) : (joinLoop i result).rank ≤ 10 - 3 * i := by
  unfold joinLoop
  split
  · exact Nat.le_refl _
  · split <;> exact Nat.zero_le _

/-- There are always descriptors for a pipe. -/
theorem exists_free_fds (env : Environment) :
    ∃ readFd writeFd, env.fds readFd = none ∧ env.fds writeFd = none ∧ readFd ≠ writeFd := by
  obtain ⟨readFd, isFree⟩ := Infinite.exists_notMem_finset env.inherited.toFinset
  obtain ⟨writeFd, isOther⟩ := Infinite.exists_notMem_finset (insert readFd env.inherited.toFinset)
  simp only [Finset.mem_insert, List.mem_toFinset, not_or] at isFree isOther
  exact ⟨readFd, writeFd, if_neg isFree, if_neg isOther.2, Ne.symm isOther.1⟩

/-- In front of `read` the run function finds what it waits for. -/
theorem Accounts.exists_read {locals : Locals} (completes : Completes env numOfCpus)
    (accounts : Accounts env trace world (.read i locals) children) (positive : 0 < numOfCpus)
    (stalled : Stalled world children) :
    ∃ info after, perform env world .main (.read locals.readFd) info = some after := by
  obtain ⟨small, free, -, -⟩ := accounts.fits
  have table : world.fds = openFds env i locals := accounts.fds
  cases isPiped : env.pipe i with
  | true =>
      have success : env.pthreadCreate i = 0 := by
        rcases completes with negative | ⟨first, second⟩
        · omega
        · obtain rfl | rfl : i = 0 ∨ i = 1 := by omega
          · exact first
          · exact second.resolve_right fun unpiped => by simp [isPiped] at unpiped
      obtain ⟨first, rest, queued⟩ := accounts.exists_queued stalled isPiped success
        (Nat.lt_succ_self i) (Nat.le_refl i)
      have isTarget : world.fds locals.readFd = some (.pipeEnd i .readEnd) := by
        simp [table, openFds, isPiped, free.different]
      exact ⟨some first, _, by simp [perform, isTarget, queued]; rfl⟩
  | false =>
      have closed : world.fds locals.readFd = none := by
        simpa [table, openFds, isPiped] using free.readFd
      exact ⟨none, world, by simp [perform, closed]⟩

/-- The run function makes its next call when no thread can make one. -/
theorem Accounts.exists_main_call (completes : Completes env numOfCpus)
    (accounts : Accounts env trace world main children) (told : main.Told env numOfCpus)
    (unfinished : ∀ failure, main ≠ .returned failure) (stalled : Stalled world children) :
    ∃ op next result after, mainNode numOfCpus main = .call op next ∧
      perform env world .main op result = some after ∧ (next result).rank < main.rank := by
  have fits := accounts.fits
  -- The calls of the loop that creates the threads.
  have lower : ∀ num, num < 2 → ∀ rest, 32 ≤ rest → rest - 8 * num < rest + 1 - 8 * num := by
    omega
  cases main with
  | pipe i locals =>
      obtain ⟨small, -, -⟩ := fits
      cases isPiped : env.pipe i with
      | true =>
          obtain ⟨readFd, writeFd, isRead, isWrite, different⟩ := exists_free_fds env
          have table : world.fds = env.fds := accounts.fds
          refine ⟨.pipe i, _, some (readFd, writeFd), _, rfl,
            if_pos ⟨isPiped, table ▸ isRead, table ▸ isWrite, different⟩, ?_⟩
          exact lower i small 39 (by decide)
      | false =>
          exact ⟨.pipe i, _, none, world, rfl, by simp [perform, isPiped],
            lower i small 39 (by decide)⟩
  | storeFds i locals => exact ⟨_, _, (), _, rfl, rfl, lower i fits.1 38 (by decide)⟩
  | initSync i locals => exact ⟨_, _, (), _, rfl, rfl, lower i fits.1 37 (by decide)⟩
  | initStart i locals => exact ⟨_, _, (), _, rfl, rfl, lower i fits.1 36 (by decide)⟩
  | create i locals =>
      exact ⟨.pthreadCreate i, _, env.pthreadCreate i, _, rfl, if_pos rfl,
        lower i fits.1 35 (by decide)⟩
  | read i locals =>
      obtain ⟨info, after, performed⟩ := accounts.exists_read completes told stalled
      exact ⟨.read locals.readFd, _, info, after, rfl, performed, lower i fits.1 34 (by decide)⟩
  | closeRead i locals =>
      exact ⟨.close locals.readFd, _, _, _, rfl, if_pos rfl, lower i fits.1 33 (by decide)⟩
  | closeWrite i locals =>
      refine ⟨.close locals.writeFd, _, _, _, rfl, if_pos rfl, ?_⟩
      have small := fits.1
      apply Nat.lt_of_le_of_lt (createLoop_rank (i + 1) small locals)
      simp only [MainPoint.rank]
      omega
  | cpuAlloc locals =>
      refine ⟨.cpuAlloc (Machine.toUlong numOfCpus), _, env.cpuAlloc, _, rfl, if_pos rfl, ?_⟩
      split
      · apply Nat.lt_of_le_of_lt (waitLoop_rank 0 (Nat.zero_le 2) locals)
        simp [MainPoint.rank]
      · exact Nat.zero_lt_succ _
  | waitSync i locals =>
      have small := fits.1
      have success : env.pthreadCreate i = 0 := by
        rcases completes with negative | ⟨first, second⟩
        · have positive := told.1
          omega
        · obtain rfl | rfl : i = 0 ∨ i = 1 := by omega
          · exact first
          · exact second.resolve_right fun failed => by simp [told.2] at failed
      have ready := accounts.sync_pos stalled success small (Nat.le_refl i)
      obtain ⟨sems, waited⟩ : ∃ sems, semWaitOn world.sems (.sync i) = some sems :=
        ⟨_, (semWaitOn_eq_some_iff _ _ _).mpr ⟨ready, rfl⟩⟩
      refine ⟨.semWait (.sync i), _, (), { world with sems := sems }, rfl,
        by simp [perform, waited], ?_⟩
      apply Nat.lt_of_le_of_lt (waitLoop_rank (i + 1) small locals)
      simp only [MainPoint.rank]
      omega
  | fflush locals => exact ⟨_, _, (), _, rfl, rfl, Nat.lt_succ_self _⟩
  | setaffinity locals =>
      exact ⟨.schedSetaffinity _ _ _, _, env.setaffinity, _, rfl, if_pos rfl, Nat.lt_succ_self _⟩
  | cpuFree result => exact ⟨_, _, (), _, rfl, rfl, Nat.lt_succ_self _⟩
  | postStart1 result => exact ⟨_, _, (), _, rfl, rfl, Nat.lt_succ_self _⟩
  | postStart0 result =>
      exact ⟨_, _, (), _, rfl, rfl, Nat.lt_succ_of_le (joinLoop_rank 0 result)⟩
  | join i result =>
      have small : i < 2 := fits
      have posted : (MainPoint.join i result).progress.posted i = true := by
        obtain rfl | rfl : i = 0 ∨ i = 1 := by omega
        · rfl
        · rfl
      refine ⟨.pthreadJoin i, _, (), world, rfl,
        if_pos (accounts.exited_of_stalled stalled small posted), ?_⟩
      simp only [MainPoint.rank]
      omega
  | destroySync i result =>
      have small : i < 2 := fits
      refine ⟨_, _, (), _, rfl, rfl, ?_⟩
      simp only [MainPoint.rank]
      omega
  | destroyStart i result =>
      have small : i < 2 := fits
      refine ⟨_, _, (), _, rfl, rfl, ?_⟩
      apply Nat.lt_of_le_of_lt (joinLoop_rank (i + 1) result)
      simp only [MainPoint.rank]
      omega
  | returned failure => exact absurd rfl (unfinished failure)

end Calls

section Descent

variable {env : Environment} {numOfCpus : Int} {trace : List ThreadsEvent}
  {config : ThreadsConfig} {main : MainPoint} {children : Nat → Option ChildPoint}

/-- Before the run function has returned, some step brings its return nearer. -/
theorem Snapshot.descends (completes : Completes env numOfCpus) (piped : env.pipe 0 = true)
    (snapshot : Snapshot env numOfCpus trace config main children)
    (unfinished : ∀ failure, main ≠ .returned failure) :
    ∃ event target next after, (system env numOfCpus).step config event = some target ∧
      Snapshot env numOfCpus (trace ++ [event]) target next after ∧
      totalRank next after < totalRank main children := by
  have accounts := snapshot.accounts
  by_cases stalled : Stalled config.world children
  · obtain ⟨op, next, result, world, isNode, performed, lower⟩ :=
      accounts.exists_main_call completes snapshot.told unfinished stalled
    obtain ⟨after, moved, started⟩ := snapshot.main_step piped isNode performed
    refine ⟨.call .main op result, _, next result, after,
      Flow.System.step_call Thread.main op result snapshot.isMain isNode performed, moved, ?_⟩
    have same : ∀ i, (after i).elim ChildPoint.writeRegisters.rank ChildPoint.rank =
        (children i).elim ChildPoint.writeRegisters.rank ChildPoint.rank := by
      intro i
      rcases started i with kept | ⟨unborn, isStart⟩
      · rw [kept]
      · rw [unborn, isStart]
        rfl
    rw [totalRank, totalRank, Flow.familyRank_congr same]
    exact Nat.add_lt_add_right lower _
  · simp only [Stalled, not_forall, not_or, not_and] at stalled
    obtain ⟨i, point, current, running, able⟩ := stalled
    obtain ⟨op, next, result, world, isNode, performed, lower⟩ := exists_child_call env
      config.world running fun waits => Nat.pos_of_ne_zero (able waits)
    have account := accounts.account i
    rw [current] at account
    have inside := Nat.lt_of_lt_of_le (account.born.mp rfl).1 (MainPoint.created_le accounts.fits)
    refine ⟨.call (.child i) op result, _, main, _,
      Flow.System.step_call (Thread.child i) op result ((snapshot.isPoint i).trans current) isNode
        performed, snapshot.child_step piped current isNode performed, ?_⟩
    exact Nat.add_lt_add_left (Flow.familyRank_update_lt inside current lower) _

theorem Accounts.success_of_waited {world : World} {i : Nat}
    (accounts : Accounts env trace world main children) (waited : i < main.progress.waited) :
    env.pthreadCreate i = 0 := by
  have account := accounts.account i
  have sync := account.sync
  have born := account.born
  cases current : children i with
  | none =>
      rw [current, decide_eq_true waited] at sync
      simp at sync
  | some point => exact (born.mp (by rw [current]; rfl)).2

theorem Accounts.success_of_read {world : World} {i : Nat}
    (accounts : Accounts env trace world main children) (isPiped : env.pipe i = true)
    (isRead : i < main.progress.read) : env.pthreadCreate i = 0 := by
  have account := accounts.account i
  have queue := account.queue isPiped
  have born := account.born
  cases current : children i with
  | none =>
      rw [current, decide_eq_true isRead] at queue
      simp at queue
  | some point => exact (born.mp (by rw [current]; rfl)).2

/-- The run function has returned only if it never had to wait for a missing thread. -/
theorem Snapshot.completes {failure : Option Failure} (piped : env.pipe 0 = true)
    (snapshot : Snapshot env numOfCpus trace config (.returned failure) children) :
    Completes env numOfCpus := by
  have accounts := snapshot.accounts
  have told : failure = verdict env numOfCpus := snapshot.told
  have waited : 1 < (MainPoint.returned failure).progress.waited → Completes env numOfCpus :=
    fun two => Or.inr ⟨accounts.success_of_waited (Nat.lt_of_succ_lt two),
      Or.inl (accounts.success_of_waited two)⟩
  cases failure with
  | none => exact waited (by decide)
  | some failure =>
      cases failure with
      | setaffinity => exact waited (by decide)
      | numOfCpus =>
          refine Or.inl ?_
          by_contra positive
          rw [verdict, if_neg positive] at told
          split_ifs at told <;> cases told
      | cpuAlloc =>
          refine Or.inr ⟨accounts.success_of_read piped (by decide), ?_⟩
          cases isPiped : env.pipe 1 with
          | true => exact Or.inl (accounts.success_of_read isPiped (by decide))
          | false =>
              refine Or.inr ⟨rfl, ?_⟩
              by_contra allocated
              rw [verdict, if_neg allocated] at told
              split_ifs at told <;> cases told

end Descent

end McKernelTest.SchedSetaffinity.Threads
