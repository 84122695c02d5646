import McKernelTest.SchedSetaffinity.ThreadsInvariant

/-!
# Runs of `sched_setaffinity#11`

The steps of the run function keep what is known about the descriptors, the semaphores and
the threads, so it holds in every run.  A thread never closes a descriptor that is in use,
and the affinity that the run function sets is what the threads have told it.
-/

namespace McKernelTest.SchedSetaffinity.Threads

open Posix Process Transition

/-- What the run function returns. -/
def verdict (env : Environment) (numOfCpus : Int) : Option Failure :=
  if numOfCpus ≤ 0 then some .numOfCpus
  else if env.cpuAlloc = false then some .cpuAlloc
  else if env.setaffinity = -1 then some .setaffinity
  else none

/-- What the run function has found out at a point. -/
def MainPoint.Told (env : Environment) (numOfCpus : Int) : MainPoint → Prop
  | .returned failure => failure = verdict env numOfCpus
  | .cpuFree result | .postStart1 result | .postStart0 result | .join _ result
  | .destroySync _ result | .destroyStart _ result =>
      0 < numOfCpus ∧ env.cpuAlloc = true ∧ result = env.setaffinity
  | .waitSync _ _ | .fflush _ | .setaffinity _ => 0 < numOfCpus ∧ env.cpuAlloc = true
  | _ => 0 < numOfCpus

/-! ## The run function -/

section Loops

variable {env : Environment} {trace : List ThreadsEvent} {i : Nat} {locals : Locals} {result : Int}

theorem createLoop_progress (small : i ≤ 2) :
    (createLoop i locals).progress = { stored := i, created := i, read := i } := by
  unfold createLoop childThreadCount
  split
  · rfl
  · obtain rfl : i = 2 := by omega
    rfl

theorem createLoop_fds : (createLoop i locals).fds env = env.fds := by
  unfold createLoop
  split <;> rfl

theorem createLoop_fits {fds : Nat → Fd × Fd} (small : i ≤ 2) (free : 0 < i → locals.Free env)
    (known : locals.Known env trace i) : (createLoop i locals).Fits env trace fds := by
  unfold createLoop childThreadCount
  split
  · rename_i more
    exact ⟨more, free, known⟩
  · obtain rfl : i = 2 := by omega
    exact known

theorem waitLoop_progress (small : i ≤ 2) :
    (waitLoop i locals).progress = { Progress.both with waited := i } := by
  unfold waitLoop childThreadCount
  split
  · rfl
  · obtain rfl : i = 2 := by omega
    rfl

theorem waitLoop_fds : (waitLoop i locals).fds env = env.fds := by
  unfold waitLoop
  split <;> rfl

theorem waitLoop_fits {fds : Nat → Fd × Fd} (known : locals.Known env trace 2) :
    (waitLoop i locals).Fits env trace fds := by
  unfold waitLoop childThreadCount
  split
  · rename_i more
    exact ⟨more, known⟩
  · exact known

theorem joinLoop_progress (small : i ≤ 2) :
    (joinLoop i result).progress = { Progress.released with joined := i } := by
  unfold joinLoop childThreadCount
  split
  · rfl
  · obtain rfl : i = 2 := by omega
    split <;> rfl

theorem joinLoop_fds : (joinLoop i result).fds env = env.fds := by
  unfold joinLoop
  split
  · rfl
  · split <;> rfl

theorem joinLoop_fits {fds : Nat → Fd × Fd} : (joinLoop i result).Fits env trace fds := by
  unfold joinLoop childThreadCount
  split
  · rename_i more
    exact more
  · split <;> trivial

end Loops

section Main

variable {env : Environment} {trace : List ThreadsEvent} {progress later : Progress}
  {world after : World} {i : Nat} {child : Option ChildPoint}

/-- For a thread it makes no difference that the run function has gone on. -/
structure Progress.AgreesOn (progress later : Progress) (i : Nat) : Prop where
  stored : i < later.stored → i < progress.stored
  created : i < later.created ↔ i < progress.created
  read : i < later.read ↔ i < progress.read
  waited : i < later.waited ↔ i < progress.waited
  posted : later.posted i = progress.posted i
  joined : i < later.joined → i < progress.joined

theorem Account.advance (account : Account env trace progress world i child)
    (agrees : progress.AgreesOn later i) : Account env trace later world i child where
  born := by
    rw [agrees.created]
    exact account.born
  free isStored := account.free (agrees.stored isStored)
  sync := by
    simp only [agrees.waited]
    exact account.sync
  start := by
    rw [agrees.posted]
    exact account.start
  queue := by
    simp only [agrees.read]
    exact account.queue
  content := account.content
  fits := account.fits
  exited := account.exited
  joined isJoined := account.joined (agrees.joined isJoined)

variable {main next : MainPoint} {children : Nat → Option ChildPoint}

/-- A step of the run function that concerns one thread. -/
theorem Accounts.moveMain (accounts : Accounts env trace world main children)
    (fits : next.Fits env trace after.children) (isFds : after.fds = next.fds env)
    (own : Account env trace next.progress after i (children i))
    (others : ∀ num ≠ i, SameFor world after num ∧ main.progress.AgreesOn next.progress num) :
    Accounts env trace after next children := by
  refine ⟨fits, isFds, fun num => ?_⟩
  by_cases same : num = i
  · subst same
    exact own
  · obtain ⟨transfers, agrees⟩ := others num same
    exact ((accounts.account num).advance agrees).transfer transfers

/-- A step of the run function that concerns no thread. -/
theorem Accounts.pass (accounts : Accounts env trace world main children)
    (fits : next.Fits env trace world.children) (isFds : next.fds env = main.fds env)
    (isProgress : next.progress = main.progress) : Accounts env trace world next children := by
  refine ⟨fits, accounts.fds.trans isFds.symm, fun num => ?_⟩
  rw [isProgress]
  exact accounts.account num

/-! ### What a step means for its thread -/

theorem Account.unborn (account : Account env trace progress world i child)
    (uncreated : progress.created ≤ i) : child = none := by
  rw [← Option.not_isSome_iff_eq_none, account.born]
  exact fun created => Nat.not_lt.mpr uncreated created.1

theorem Account.stores {count : Nat} {fds : Fd × Fd}
    (account : Account env trace progress world i none)
    (free : env.fds fds.1 = none ∧ env.fds fds.2 = none) :
    Account env trace { progress with stored := count }
      { world with children := Function.update world.children i fds } i none where
  born := account.born
  free _ := by
    simp only [Function.update_self]
    exact free
  sync := account.sync
  start := account.start
  queue := account.queue
  content := account.content
  fits := by rintro _ ⟨⟩
  exited := account.exited
  joined := account.joined

theorem Account.creates (account : Account env trace progress world i none) :
    Account env trace { progress with created := i + 1 } world i
      (if env.pthreadCreate i = 0 then some .writeRegisters else none) := by
  split
  · rename_i success
    refine ⟨by simp [success], account.free, account.sync, account.start, account.queue,
      account.content, ?_, account.exited, account.joined⟩
    rintro _ ⟨⟩
    trivial
  · rename_i failure
    exact { account with born := by simp [failure] }

theorem Account.readOne {first : Info} {rest : List Info}
    (account : Account env trace progress world i child) (unread : progress.read ≤ i)
    (queued : world.queue i = first :: rest) :
    Account env trace { progress with read := i + 1 }
      { world with queue := Function.update world.queue i rest } i child where
  born := account.born
  free := account.free
  sync := account.sync
  start := account.start
  queue isPiped := by
    have queue := account.queue isPiped
    rw [decide_eq_false (Nat.not_lt.mpr unread), queued] at queue
    simpa using queue
  content := by
    simp only [Function.update_self]
    intro info member
    exact account.content info (queued ▸ List.mem_cons_of_mem _ member)
  fits := account.fits
  exited := account.exited
  joined := account.joined

theorem Account.readNothing {count : Nat} (account : Account env trace progress world i child)
    (unpiped : env.pipe i = false) :
    Account env trace { progress with read := count } world i child :=
  { account with
    queue := by
      rw [unpiped]
      rintro ⟨⟩ }

theorem Account.waits {sems : Sem → Nat} (account : Account env trace progress world i child)
    (unwaited : progress.waited ≤ i) (waited : semWaitOn world.sems (.sync i) = some sems) :
    Account env trace { progress with waited := i + 1 } { world with sems := sems } i child := by
  obtain ⟨positive, rfl⟩ := (semWaitOn_eq_some_iff _ _ _).mp waited
  refine
    { account with
      sync := ?_
      start := account.start }
  have sync := account.sync
  rw [decide_eq_false (Nat.not_lt.mpr unwaited)] at sync
  simp only [Function.update_self, Nat.lt_succ_self, decide_true, Bool.toNat_true]
  simp only [Bool.toNat_false] at sync
  omega

theorem Account.posts (zero one : Bool) (account : Account env trace progress world i child)
    (unposted : progress.posted i = false)
    (posted : ({ progress with posted0 := zero, posted1 := one } : Progress).posted i = true) :
    Account env trace { progress with posted0 := zero, posted1 := one }
      { world with sems := semPostOn world.sems (.start i) } i child where
  born := account.born
  free := account.free
  sync := account.sync
  start := by
    have start := account.start
    rw [unposted] at start
    rw [posted]
    simp only [semPostOn, Function.update_self, Bool.toNat_true]
    simp only [Bool.toNat_false] at start
    omega
  queue := account.queue
  content := account.content
  fits := account.fits
  exited := account.exited
  joined := account.joined

theorem Account.joins {count : Nat} (account : Account env trace progress world i child)
    (exited : world.exited i = true) :
    Account env trace { progress with joined := count } world i child :=
  { account with joined := fun _ => account.exited ▸ exited }

/-! ### What is read -/

theorem Locals.Free.setInfo {locals : Locals} (free : locals.Free env) (info : Option Info) :
    (locals.setInfo i info).Free env := by
  unfold Locals.setInfo
  split
  · exact free
  · split <;> exact ⟨free.readFd, free.writeFd, free.different⟩

theorem openFds_setInfo {locals : Locals} (info : Option Info) :
    openFds env i (locals.setInfo i info) = openFds env i locals := by
  unfold Locals.setInfo
  split
  · rfl
  · split <;> rfl

theorem Locals.Known.setInfo {locals : Locals} {info : Info} (small : i < 2)
    (known : locals.Known env trace i) (isPiped : env.pipe i = true)
    (reported : Reported env trace i info) :
    (locals.setInfo i (some info)).Known env trace (i + 1) := by
  obtain rfl | rfl : i = 0 ∨ i = 1 := by omega
  · exact ⟨fun _ => reported, fun two => absurd two (Nat.lt_irrefl _),
      fun _ => known.unread (Or.inl (Nat.zero_le _))⟩
  · refine ⟨fun _ => known.info0 Nat.one_pos, fun _ _ => reported, ?_⟩
    rintro (few | unpiped)
    · exact absurd few (by decide)
    · rw [isPiped] at unpiped
      cases unpiped

theorem Locals.Known.readNothing {locals : Locals} (known : locals.Known env trace 1)
    (unpiped : env.pipe 1 = false) : locals.Known env trace 2 := by
  refine ⟨fun _ => known.info0 Nat.one_pos, fun _ isPiped => ?_, fun _ =>
    known.unread (Or.inl (Nat.le_refl _))⟩
  rw [isPiped] at unpiped
  cases unpiped

/-! ### The steps -/

theorem Accounts.noPipe_step {locals : Locals} (piped : env.pipe 0 = true)
    (accounts : Accounts env trace world (.pipe i locals) children) (unpiped : ¬env.pipe i = true) :
    Accounts env trace world (.storeFds i locals) children := by
  obtain ⟨small, free, known⟩ := accounts.fits
  have nonzero : 0 < i := by
    rcases Nat.eq_zero_or_pos i with rfl | positive
    · exact absurd piped unpiped
    · exact positive
  refine accounts.pass ⟨small, free nonzero, known⟩ ?_ rfl
  simp [MainPoint.fds, openFds, unpiped]

theorem Accounts.pipe_step {locals : Locals} {readFd writeFd : Fd}
    (accounts : Accounts env trace world (.pipe i locals) children)
    (performed : perform env world .main (.pipe i) (some (readFd, writeFd)) = some after) :
    Accounts env trace after (.storeFds i { locals with readFd := readFd, writeFd := writeFd })
      children := by
  obtain ⟨⟨isPiped, isRead, isWrite, different⟩, ⟨⟩⟩ := Option.ite_none_right_eq_some.mp performed
  obtain ⟨small, -, known⟩ := accounts.fits
  have table : world.fds = env.fds := accounts.fds
  refine ⟨⟨small, ⟨table ▸ isRead, table ▸ isWrite, different⟩,
    ⟨known.info0, known.info1, known.unread⟩⟩, ?_, fun num => ?_⟩
  · simp [MainPoint.fds, openFds, isPiped, table]
  · exact (accounts.account num).transfer ⟨rfl, rfl, rfl, rfl, rfl⟩

theorem Accounts.store_step {locals : Locals}
    (accounts : Accounts env trace world (.storeFds i locals) children) :
    Accounts env trace
      { world with
        children := Function.update world.children i (locals.readFd, locals.writeFd) }
      (.initSync i locals) children := by
  obtain ⟨small, free, known⟩ := accounts.fits
  have own := accounts.account i
  have unborn := own.unborn (Nat.le_refl _)
  rw [unborn] at own
  refine accounts.moveMain (i := i) ⟨small, free, known, Function.update_self _ _ _⟩ accounts.fds
    ?_ fun num other => ⟨⟨Function.update_of_ne other _ _, rfl, rfl, rfl, rfl⟩, ?_⟩
  · rw [unborn]
    exact own.stores ⟨free.readFd, free.writeFd⟩
  · refine ⟨fun isStored => ?_, Iff.rfl, Iff.rfl, Iff.rfl, rfl, id⟩
    exact Nat.lt_of_le_of_ne (Nat.le_of_lt_succ isStored) other

theorem Accounts.read_step {locals : Locals} {info : Option Info} (piped : env.pipe 0 = true)
    (accounts : Accounts env trace world (.read i locals) children)
    (performed : perform env world .main (.read locals.readFd) info = some after) :
    Accounts env trace after (.closeRead i (locals.setInfo i info)) children := by
  obtain ⟨small, free, known, -⟩ := accounts.fits
  have table : world.fds = openFds env i locals := accounts.fds
  cases isPiped : env.pipe i with
  | true =>
      have isTarget : world.fds locals.readFd = some (.pipeEnd i .readEnd) := by
        simp [table, openFds, isPiped, free.different]
      simp only [perform, isTarget] at performed
      split at performed
      · cases performed
      · rename_i first rest queued
        obtain ⟨rfl, ⟨⟩⟩ := Option.ite_none_right_eq_some.mp performed
        have reported := (accounts.account i).content first (queued ▸ List.mem_cons_self)
        refine accounts.moveMain ⟨small, free.setInfo _, known.setInfo small isPiped reported⟩ ?_
          ((accounts.account i).readOne (Nat.le_refl _) queued) fun num other =>
            ⟨⟨rfl, rfl, rfl, Function.update_of_ne other _ _, rfl⟩, ?_⟩
        · exact table.trans (openFds_setInfo (some first)).symm
        · refine ⟨id, Iff.rfl, ?_, Iff.rfl, rfl, id⟩
          exact Nat.lt_succ_iff_lt_or_eq.trans (or_iff_left other)
  | false =>
      obtain rfl : i = 1 := by
        have nonzero : i ≠ 0 := by
          rintro rfl
          rw [piped] at isPiped
          cases isPiped
        omega
      have closed : world.fds locals.readFd = none := by
        simpa [table, openFds, isPiped] using free.readFd
      simp only [perform, closed] at performed
      obtain ⟨rfl, ⟨⟩⟩ := Option.ite_none_right_eq_some.mp performed
      refine accounts.moveMain ⟨small, free, known.readNothing isPiped⟩ accounts.fds
        ((accounts.account 1).readNothing isPiped) fun num other =>
          ⟨⟨rfl, rfl, rfl, rfl, rfl⟩, ?_⟩
      refine ⟨id, Iff.rfl, ?_, Iff.rfl, rfl, id⟩
      exact Nat.lt_succ_iff_lt_or_eq.trans (or_iff_left other)

theorem Accounts.closeRead_step {locals : Locals} {result : Int}
    (accounts : Accounts env trace world (.closeRead i locals) children)
    (performed : perform env world .main (.close locals.readFd) result = some after) :
    Accounts env trace after (.closeWrite i locals) children := by
  obtain ⟨-, ⟨⟩⟩ := Option.ite_none_right_eq_some.mp performed
  have free := accounts.fits.2.1
  have table : world.fds = openFds env i locals := accounts.fds
  have same : Function.update env.fds locals.readFd none = env.fds := by
    rw [← free.readFd, Function.update_eq_self]
  refine ⟨accounts.fits, ?_, fun num => (accounts.account num).transfer ⟨rfl, rfl, rfl, rfl, rfl⟩⟩
  simp only [table, openFds, MainPoint.fds]
  split
  · rw [Function.update_comm free.different.symm, Function.update_idem, same]
  · exact same

theorem Accounts.closeWrite_step {locals : Locals} {result : Int}
    (accounts : Accounts env trace world (.closeWrite i locals) children)
    (performed : perform env world .main (.close locals.writeFd) result = some after) :
    Accounts env trace after (createLoop (i + 1) locals) children := by
  obtain ⟨-, ⟨⟩⟩ := Option.ite_none_right_eq_some.mp performed
  obtain ⟨small, free, known⟩ := accounts.fits
  have table := accounts.fds
  have same : Function.update env.fds locals.writeFd none = env.fds := by
    rw [← free.writeFd, Function.update_eq_self]
  refine ⟨createLoop_fits small (fun _ => free) known, ?_, fun num => ?_⟩
  · rw [createLoop_fds]
    simp only [table, MainPoint.fds]
    split
    · rw [Function.update_idem, same]
    · exact same
  · rw [createLoop_progress small]
    exact (accounts.account num).transfer ⟨rfl, rfl, rfl, rfl, rfl⟩

theorem Accounts.waitSync_step {locals : Locals} {sems : Sem → Nat}
    (accounts : Accounts env trace world (.waitSync i locals) children)
    (waited : semWaitOn world.sems (.sync i) = some sems) :
    Accounts env trace { world with sems := sems } (waitLoop (i + 1) locals) children := by
  obtain ⟨small, known⟩ := accounts.fits
  have own := (accounts.account i).waits (Nat.le_refl _) waited
  refine accounts.moveMain (i := i) (waitLoop_fits known) ?_ ?_ fun num other => ?_
  · rw [waitLoop_fds]
    exact accounts.fds
  · rw [waitLoop_progress small]
    exact own
  · rw [waitLoop_progress small]
    obtain ⟨-, rfl⟩ := (semWaitOn_eq_some_iff _ _ _).mp waited
    refine ⟨⟨rfl, by simp [other], by simp, rfl, rfl⟩, id, Iff.rfl, Iff.rfl, ?_, rfl, id⟩
    exact Nat.lt_succ_iff_lt_or_eq.trans (or_iff_left other)

theorem Accounts.postStart1_step {result : Int}
    (accounts : Accounts env trace world (.postStart1 result) children) :
    Accounts env trace { world with sems := semPostOn world.sems (.start 1) } (.postStart0 result)
      children := by
  have own := (accounts.account 1).posts false true rfl rfl
  refine accounts.moveMain trivial accounts.fds own fun num other => ?_
  refine ⟨⟨rfl, by simp [semPostOn], by simp [semPostOn, other], rfl, rfl⟩, id, Iff.rfl, Iff.rfl,
    Iff.rfl, ?_, id⟩
  rcases num with _ | _ | num
  · rfl
  · exact absurd rfl other
  · rfl

theorem Accounts.postStart0_step {result : Int}
    (accounts : Accounts env trace world (.postStart0 result) children) :
    Accounts env trace { world with sems := semPostOn world.sems (.start 0) } (joinLoop 0 result)
      children := by
  have own := (accounts.account 0).posts true true rfl rfl
  refine accounts.moveMain (i := 0) joinLoop_fits ?_ ?_ fun num other => ?_
  · rw [joinLoop_fds]
    exact accounts.fds
  · rw [joinLoop_progress (Nat.zero_le 2)]
    exact own
  · rw [joinLoop_progress (Nat.zero_le 2)]
    refine ⟨⟨rfl, by simp [semPostOn], by simp [semPostOn, other], rfl, rfl⟩, id, Iff.rfl, Iff.rfl,
      Iff.rfl, ?_, id⟩
    rcases num with _ | _ | num
    · exact absurd rfl other
    · rfl
    · rfl

theorem Accounts.join_step {result : Int}
    (accounts : Accounts env trace world (.join i result) children)
    (exited : world.exited i = true) :
    Accounts env trace world (.destroySync i result) children := by
  refine accounts.moveMain accounts.fits accounts.fds ((accounts.account i).joins exited)
    fun num other => ?_
  refine ⟨⟨rfl, rfl, rfl, rfl, rfl⟩, id, Iff.rfl, Iff.rfl, Iff.rfl, rfl, ?_⟩
  exact fun isJoined => Nat.lt_of_le_of_ne (Nat.le_of_lt_succ isJoined) other

/-- `sem_init` has no effect on a semaphore that has not been used. -/
theorem semInit_eq {sem : Sem} (unused : world.sems sem = 0) :
    ({ world with sems := Function.update world.sems sem 0 } : World) = world := by
  rw [← unused, Function.update_eq_self]

/-- A step of the run function that starts no thread. -/
theorem Accounts.main_step {numOfCpus : Int} {op : Op} {step : Res op → MainPoint}
    {result : Res op} (piped : env.pipe 0 = true)
    (accounts : Accounts env trace world main children)
    (isNode : mainNode numOfCpus main = .call op step)
    (performed : perform env world .main op result = some after)
    (single : ∀ i, op ≠ .pthreadCreate i) :
    Accounts env trace after (step result) children := by
  cases main with
  | pipe i locals =>
      cases isNode
      match result, performed with
      | none, performed =>
          obtain ⟨unpiped, ⟨⟩⟩ := Option.ite_none_left_eq_some.mp performed
          exact accounts.noPipe_step piped unpiped
      | some (readFd, writeFd), performed => exact accounts.pipe_step performed
  | storeFds i locals =>
      cases isNode
      cases performed
      exact accounts.store_step
  | initSync i locals =>
      cases isNode
      cases performed
      have unused : world.sems (.sync i) = 0 := by
        have own := accounts.account i
        have sync := own.sync
        rw [own.unborn (Nat.le_refl _)] at sync
        exact Nat.eq_zero_of_add_eq_zero_right sync
      rw [semInit_eq unused]
      exact accounts.pass accounts.fits rfl rfl
  | initStart i locals =>
      cases isNode
      cases performed
      have unused : world.sems (.start i) = 0 := by
        have start := (accounts.account i).start
        rw [Progress.posted_eq_false rfl rfl] at start
        exact Nat.eq_zero_of_add_eq_zero_right start
      rw [semInit_eq unused]
      exact accounts.pass accounts.fits rfl rfl
  | create i locals =>
      cases isNode
      exact absurd rfl (single i)
  | read i locals =>
      cases isNode
      exact accounts.read_step piped performed
  | closeRead i locals =>
      cases isNode
      exact accounts.closeRead_step performed
  | closeWrite i locals =>
      cases isNode
      exact accounts.closeWrite_step performed
  | cpuAlloc locals =>
      cases isNode
      obtain ⟨-, ⟨⟩⟩ := Option.ite_none_right_eq_some.mp performed
      beta_reduce
      split
      · exact accounts.pass (waitLoop_fits accounts.fits) waitLoop_fds
          (waitLoop_progress (Nat.zero_le 2))
      · exact accounts.pass trivial rfl rfl
  | waitSync i locals =>
      cases isNode
      obtain ⟨sems, waited, rfl⟩ := Option.map_eq_some_iff.mp performed
      exact accounts.waitSync_step waited
  | fflush locals =>
      cases isNode
      cases performed
      exact accounts.pass accounts.fits rfl rfl
  | setaffinity locals =>
      cases isNode
      obtain ⟨-, ⟨⟩⟩ := Option.ite_none_right_eq_some.mp performed
      exact accounts.pass trivial rfl rfl
  | cpuFree result =>
      cases isNode
      cases performed
      exact accounts.pass trivial rfl rfl
  | postStart1 result =>
      cases isNode
      cases performed
      exact accounts.postStart1_step
  | postStart0 result =>
      cases isNode
      cases performed
      exact accounts.postStart0_step
  | join i result =>
      cases isNode
      obtain ⟨exited, ⟨⟩⟩ := Option.ite_none_right_eq_some.mp performed
      exact accounts.join_step exited
  | destroySync i result =>
      cases isNode
      cases performed
      exact accounts.pass accounts.fits rfl rfl
  | destroyStart i result =>
      cases isNode
      cases performed
      exact accounts.pass joinLoop_fits joinLoop_fds (joinLoop_progress accounts.fits)
  | returned failure => cases isNode

/-- The step that starts a thread, if it succeeds. -/
theorem Accounts.create_step {locals : Locals}
    (accounts : Accounts env trace world (.create i locals) children) :
    Accounts env trace world (.read i locals)
      (if env.pthreadCreate i = 0 then Function.update children i (some .writeRegisters)
        else children) := by
  obtain ⟨small, free, known, isStored⟩ := accounts.fits
  have own := accounts.account i
  rw [own.unborn (Nat.le_refl _)] at own
  refine ⟨⟨small, free, known, isStored⟩, accounts.fds, fun num => ?_⟩
  by_cases same : num = i
  · subst same
    have created := own.creates
    split <;> rename_i outcome
    · rw [if_pos outcome] at created
      rw [Function.update_self]
      exact created
    · rw [if_neg outcome] at created
      rw [(accounts.account num).unborn (Nat.le_refl _)]
      exact created
  · have others : (if env.pthreadCreate i = 0 then
        Function.update children i (some .writeRegisters) else children) num = children num := by
      split
      · exact Function.update_of_ne same _ _
      · rfl
    rw [others]
    refine (accounts.account num).advance ⟨id, ?_, Iff.rfl, Iff.rfl, rfl, id⟩
    exact Nat.lt_succ_iff_lt_or_eq.trans (or_iff_left same)

end Main

section Told

variable {env : Environment} {numOfCpus : Int}

theorem verdict_of_told {result : Int}
    (told : 0 < numOfCpus ∧ env.cpuAlloc = true ∧ result = env.setaffinity) :
    verdict env numOfCpus = if result = -1 then some .setaffinity else none := by
  obtain ⟨positive, allocated, rfl⟩ := told
  simp [verdict, Int.not_le.mpr positive, allocated]

theorem createLoop_told {i : Nat} {locals : Locals} (positive : 0 < numOfCpus) :
    (createLoop i locals).Told env numOfCpus := by
  unfold createLoop
  split <;> exact positive

theorem waitLoop_told {i : Nat} {locals : Locals} (told : 0 < numOfCpus ∧ env.cpuAlloc = true) :
    (waitLoop i locals).Told env numOfCpus := by
  unfold waitLoop
  split <;> exact told

theorem joinLoop_told {i : Nat} {result : Int}
    (told : 0 < numOfCpus ∧ env.cpuAlloc = true ∧ result = env.setaffinity) :
    (joinLoop i result).Told env numOfCpus := by
  have value := verdict_of_told told
  unfold joinLoop
  split
  · exact told
  · split <;> rename_i outcome
    · exact (value.trans (if_pos outcome)).symm
    · exact (value.trans (if_neg outcome)).symm

theorem runFunc_told (pipeFd : Fd × Fd) : (runFunc numOfCpus pipeFd).Told env numOfCpus := by
  unfold runFunc
  split
  · rename_i positive
    exact createLoop_told positive
  · rename_i negative
    exact (if_pos (Int.not_lt.mp negative)).symm

theorem MainPoint.Told.step {main : MainPoint} {op : Op} {step : Res op → MainPoint}
    {result : Res op} {world after : World} (told : main.Told env numOfCpus)
    (isNode : mainNode numOfCpus main = .call op step)
    (performed : perform env world .main op result = some after) :
    (step result).Told env numOfCpus := by
  cases main with
  | pipe i locals =>
      cases isNode
      beta_reduce
      split <;> exact told
  | closeWrite i locals =>
      cases isNode
      exact createLoop_told told
  | cpuAlloc locals =>
      cases isNode
      obtain ⟨isResult, ⟨⟩⟩ := Option.ite_none_right_eq_some.mp performed
      beta_reduce
      split <;> rename_i outcome
      · exact waitLoop_told ⟨told, isResult ▸ outcome⟩
      · have failed : env.cpuAlloc = false := isResult ▸ eq_false_of_ne_true outcome
        have positive : 0 < numOfCpus := told
        simp [MainPoint.Told, verdict, Int.not_le.mpr positive, failed]
  | waitSync i locals =>
      cases isNode
      exact waitLoop_told told
  | setaffinity locals =>
      cases isNode
      obtain ⟨isResult, ⟨⟩⟩ := Option.ite_none_right_eq_some.mp performed
      exact ⟨told.1, told.2, isResult⟩
  | postStart0 result =>
      cases isNode
      exact joinLoop_told told
  | destroyStart i result =>
      cases isNode
      exact joinLoop_told told
  | returned failure => cases isNode
  | _ =>
      cases isNode
      exact told

end Told

/-- A state, seen as the points of the run function and the threads. -/
structure Snapshot (env : Environment) (numOfCpus : Int) (trace : List ThreadsEvent)
    (config : ThreadsConfig) (main : MainPoint) (children : Nat → Option ChildPoint) : Prop where
  isMain : config.point .main = some main
  isPoint : ∀ i, config.point (.child i) = children i
  accounts : Accounts env trace config.world main children
  told : main.Told env numOfCpus

/-- What holds in every reachable state. -/
def Invariant (env : Environment) (numOfCpus : Int) (trace : List ThreadsEvent)
    (config : ThreadsConfig) : Prop :=
  ∃ main children, Snapshot env numOfCpus trace config main children

section Steps

variable {env : Environment} {numOfCpus : Int} {trace : List ThreadsEvent}
  {config target : ThreadsConfig} {main : MainPoint} {children : Nat → Option ChildPoint}
  {world : World} {op : Op} {result : Res op}

/-- A call that creates no thread only moves its own thread. -/
theorem resume_of_single {thread : Thread} {reached : Point thread}
    (single : ∀ i, op ≠ .pthreadCreate i) :
    (system env numOfCpus).resume config.point thread op result reached =
      Function.update config.point thread (some reached) := by
  apply Flow.System.resume_self
  cases op with
  | pthreadCreate i => exact absurd rfl (single i)
  | _ => rfl

theorem single_of_childNode {i : Nat} {point : ChildPoint} {next : Res op → ChildPoint}
    (isNode : childNode i point = .call op next) : ∀ num, op ≠ .pthreadCreate num := by
  rintro num rfl
  cases point <;> cases isNode

/-- A thread is where it was, or it has just been created. -/
def Created (before after : Option ChildPoint) : Prop :=
  after = before ∨ before = none ∧ after = some .writeRegisters

/-- A call of the run function moves no thread, but it may create one. -/
theorem Snapshot.main_step {next : Res op → MainPoint} (piped : env.pipe 0 = true)
    (snapshot : Snapshot env numOfCpus trace config main children)
    (isNode : mainNode numOfCpus main = .call op next)
    (performed : perform env config.world .main op result = some world) :
    ∃ after, Snapshot env numOfCpus (trace ++ [.call .main op result])
        ⟨world, (system env numOfCpus).resume config.point .main op result (next result)⟩
        (next result) after ∧ ∀ i, Created (children i) (after i) := by
  obtain ⟨-, isPoint, accounts, told⟩ := snapshot
  have longer : Accounts env (trace ++ [.call .main op result]) config.world main children :=
    accounts.extend fun _ member => List.mem_append_left _ member
  have toldNext := told.step isNode performed
  by_cases creates : ∃ i, op = .pthreadCreate i
  · obtain ⟨i, rfl⟩ := creates
    cases main with
    | create num locals =>
        cases isNode
        obtain ⟨isResult, ⟨⟩⟩ := Option.ite_none_right_eq_some.mp performed
        have unborn := (accounts.account i).unborn (Nat.le_refl _)
        refine ⟨_, ⟨?_, ?_, longer.create_step, toldNext⟩, ?_⟩
        · by_cases success : result = 0 <;> simp [Flow.System.resume, system, spawn, success]
        · intro other
          by_cases success : result = 0
          · by_cases same : other = i
            · subst same
              simp [Flow.System.resume, system, spawn, success, ← isResult]
            · simp [Flow.System.resume, system, spawn, success, ← isResult, same, isPoint]
          · simp [Flow.System.resume, system, spawn, success, ← isResult, isPoint]
        · intro other
          split
          · by_cases same : other = i
            · subst same
              exact Or.inr ⟨unborn, Function.update_self _ _ _⟩
            · exact Or.inl (Function.update_of_ne same _ _)
          · exact Or.inl rfl
    | _ => cases isNode
  · have single := not_exists.mp creates
    refine ⟨children, ⟨?_, fun i => ?_, longer.main_step piped isNode performed single, toldNext⟩,
      fun i => Or.inl rfl⟩
    · simp [resume_of_single single]
    · simp [resume_of_single single, isPoint]

/-- A call of a thread. -/
theorem Snapshot.child_step {i : Nat} {point : ChildPoint} {next : Res op → ChildPoint}
    (piped : env.pipe 0 = true) (snapshot : Snapshot env numOfCpus trace config main children)
    (current : children i = some point) (isNode : childNode i point = .call op next)
    (performed : perform env config.world (.child i) op result = some world) :
    Snapshot env numOfCpus (trace ++ [.call (.child i) op result])
      ⟨world, (system env numOfCpus).resume config.point (.child i) op result (next result)⟩
      main (Function.update children i (some (next result))) := by
  obtain ⟨isMain, isPoint, accounts, told⟩ := snapshot
  have single := single_of_childNode isNode
  refine ⟨?_, fun num => ?_, accounts.child_step piped current isNode performed, told⟩
  · simp [resume_of_single single, isMain]
  · by_cases same : num = i
    · subst same
      simp [resume_of_single single]
    · simp [resume_of_single single, same, isPoint]

theorem Invariant.step {event : ThreadsEvent} (piped : env.pipe 0 = true)
    (invariant : Invariant env numOfCpus trace config)
    (stepped : (system env numOfCpus).step config event = some target) :
    Invariant env numOfCpus (trace ++ [event]) target := by
  cases event with
  | external cause => exact cause.elim
  | call thread op result =>
      obtain ⟨point, next, world, isPoint, isNode, performed, rfl⟩ :=
        (Flow.System.step_call_eq_some_iff _ _ _ _ _ _).mp stepped
      obtain ⟨main, children, snapshot⟩ := invariant
      cases thread with
      | main =>
          cases snapshot.isMain.symm.trans isPoint
          obtain ⟨after, moved, -⟩ := snapshot.main_step piped isNode performed
          exact ⟨next result, after, moved⟩
      | child i =>
          have current := (snapshot.isPoint i).symm.trans isPoint
          exact ⟨main, _, snapshot.child_step piped current isNode performed⟩

theorem Invariant.initial (env : Environment) (numOfCpus : Int) :
    Invariant env numOfCpus [] (start env numOfCpus) := by
  have fresh : ∀ i, Account env [] {} (start env numOfCpus).world i none := fun i =>
    { born := by simp
      free := by simp
      sync := rfl
      start := by rw [Progress.posted_eq_false rfl rfl]; rfl
      queue := fun _ => rfl
      content := by simp [Threads.start]
      fits := by simp
      exited := rfl
      joined := by simp }
  refine ⟨runFunc numOfCpus env.pipeFd, fun _ => none, rfl, fun _ => rfl, ?_, runFunc_told _⟩
  unfold runFunc
  split
  · refine ⟨createLoop_fits (Nat.zero_le 2) (by simp) ⟨by simp, by simp, by simp⟩,
      createLoop_fds.symm, fun i => ?_⟩
    rw [createLoop_progress (Nat.zero_le 2)]
    exact fresh i
  · exact ⟨trivial, rfl, fresh⟩

theorem Invariant.of_run (piped : env.pipe 0 = true)
    (run : Run (system env numOfCpus).step (start env numOfCpus) trace config) :
    Invariant env numOfCpus trace config := by
  apply run.invariant (Invariant.initial env numOfCpus)
  exact fun _ _ _ _ invariant _ stepped => invariant.step piped stepped

end Steps

/-! ## What the test case does -/

section Results

variable {env : Environment} {numOfCpus : Int} {trace : List ThreadsEvent}
  {config target : ThreadsConfig}

/-- Both threads close the descriptors of their pipes although the run function has already
closed them, but never while the numbers stand for another pipe: such a `close` always fails and
leaves the table of descriptors as it is. -/
theorem child_close_fails {i : Nat} {fd : Fd} {result : Int} (piped : env.pipe 0 = true)
    (run : Run (system env numOfCpus).step (start env numOfCpus) trace config)
    (stepped : (system env numOfCpus).step config (.call (.child i) (.close fd) result) =
      some target) :
    result = -1 ∧ target.world.fds = config.world.fds := by
  obtain ⟨main, children, snapshot⟩ := Invariant.of_run piped run
  obtain ⟨point, next, world, isPoint, isNode, performed, rfl⟩ :=
    (Flow.System.step_call_eq_some_iff _ _ _ _ _ _).mp stepped
  have current : children i = some point := (snapshot.isPoint i).symm.trans isPoint
  have account := snapshot.accounts.account i
  rw [current] at account
  have fits := account.fits _ rfl
  have closed : config.world.fds fd = none := by
    change childNode i point = _ at isNode
    cases point with
    | closeRead fd =>
        cases isNode
        exact fits ▸ (snapshot.accounts.closed current rfl).1
    | closeWrite fd =>
        cases isNode
        exact fits ▸ (snapshot.accounts.closed current rfl).2
    | _ => cases isNode
  change perform env config.world (.child i) (.close fd) result = _ at performed
  obtain ⟨fails, rfl⟩ := perform_close_eq_some closed performed
  exact ⟨fails, rfl⟩

/-- An environment in which both threads can be created. -/
def willing (cpuAlloc : Bool) : Environment where
  inherited := [0, 1, 2]
  pipeFd := (0, 0)
  pipe := fun _ => true
  pthreadCreate := fun _ => 0
  tid := fun i => 100 + i
  cpuAlloc := cpuAlloc
  setaffinity := 0

/-- The run function creates a thread and gets to know it.  Every pipe has the same
descriptors. -/
def creation (i : Nat) (info : Info) : List ThreadsEvent :=
  [.call .main (.pipe i) (some (3, 4) : Option (Fd × Fd)), .call .main (.storeFds i 3 4) (),
    .call .main (.semInit (.sync i)) (), .call .main (.semInit (.start i)) (),
    .call .main (.pthreadCreate i) (0 : Int), .call (.child i) .writeRegisters (),
    .call (.child i) .getCpuId info.cpuid, .call (.child i) .gettid info.tid,
    .call (.child i) (.loadWriteFd i) (4 : Fd), .call (.child i) (.write 4 info) (),
    .call .main (.read 3) (some info), .call .main (.close 3) (0 : Int),
    .call .main (.close 4) (0 : Int)]

/-- The threads get ready, and the run function waits for them. -/
def meeting : List ThreadsEvent :=
  creation 0 ⟨5, 100⟩ ++ creation 1 ⟨6, 101⟩ ++
    [.call .main (.cpuAlloc 8) true,
      .call (.child 1) (.printf "==[tid:%d on cpu%d]==\n" [101, 6]) (),
      .call (.child 1) .showExtendedRegisters (), .call (.child 1) (.semPost (.sync 1)) (),
      .call (.child 0) (.printf "==[tid:%d on cpu%d]==\n" [100, 5]) (),
      .call (.child 0) .showExtendedRegisters (), .call (.child 0) (.semPost (.sync 0)) (),
      .call .main (.semWait (.sync 0)) (), .call .main (.semWait (.sync 1)) (),
      .call .main .fflush ()]

/-- The first thread has been told to go on. -/
def goingOn : List ThreadsEvent :=
  [.call .main (.schedSetaffinity 101 8 (cpusetOf 5 8)) (0 : Int), .call .main .cpuFree (),
    .call .main (.semPost (.start 1)) (), .call .main (.semPost (.start 0)) (),
    .call (.child 0) (.semWait (.start 0)) (), .call (.child 0) .getCpuId (5 : Int),
    .call (.child 0) .gettid (100 : Int),
    .call (.child 0) (.printf "==[tid:%d on cpu%d]==\n" [100, 5]) (),
    .call (.child 0) .showExtendedRegisters (), .call (.child 0) (.loadReadFd 0) (3 : Fd)]

theorem child_close_fails_first :
    ∃ config target, Run (system (willing true) 8).step (start (willing true) 8)
        (meeting ++ goingOn) config ∧
      (system (willing true) 8).step config (.call (.child 0) (.close 3) (-1 : Int)) = some target ∧
      target.world.fds = config.world.fds := by
  obtain ⟨config, target, run, stepped⟩ : ∃ config target, Run (system (willing true) 8).step
      (start (willing true) 8) (meeting ++ goingOn) config ∧
      (system (willing true) 8).step config (.call (.child 0) (.close 3) (-1 : Int)) =
        some target :=
    ⟨_, _, GuardedRun.of_execute rfl, rfl⟩
  exact ⟨config, target, run, stepped, (child_close_fails rfl run stepped).2⟩

/-- The run function moves the second thread to the CPU that the first one has found out.  If the
second pipe cannot be created it passes 0, which stands for its own thread. -/
theorem setaffinity_arguments {tid : Int} {size : Nat} {cpus : CpuSet} {result : Int}
    (piped : env.pipe 0 = true) (small : numOfCpus < 2 ^ 31)
    (run : Run (system env numOfCpus).step (start env numOfCpus)
      (trace ++ [.call .main (.schedSetaffinity tid size cpus) result]) config) :
    tid = (if env.pipe 1 then env.tid 1 else 0) ∧
      ∃ cpuid, cpuEvent 0 cpuid ∈ trace ∧ (0 ≤ cpuid → cpuid < numOfCpus →
        ∀ cpu, CpuSet.IsSet cpu cpus ↔ (cpu : Int) = cpuid) := by
  obtain ⟨middle, before, -, stepped⟩ := run.last
  obtain ⟨main, children, snapshot⟩ := Invariant.of_run piped before
  obtain ⟨point, next, world, isPoint, isNode, performed, -⟩ :=
    (Flow.System.step_call_eq_some_iff _ _ _ _ _ _).mp stepped
  cases snapshot.isMain.symm.trans isPoint
  have fits := snapshot.accounts.fits
  change mainNode numOfCpus main = _ at isNode
  cases main with
  | setaffinity locals =>
      cases isNode
      have known : locals.Known env trace 2 := fits
      refine ⟨?_, locals.info0.cpuid, (known.info0 (by decide)).cpuid, fun nonneg inside =>
        isSet_cpusetOf nonneg inside small⟩
      split <;> rename_i isPiped
      · exact (known.info1 (by decide) isPiped).tid
      · rw [known.unread (Or.inr (eq_false_of_ne_true isPiped))]
  | _ => cases isNode

theorem setaffinity_arguments_second :
    ∃ config, Run (system (willing true) 8).step (start (willing true) 8)
        (meeting ++ [.call .main (.schedSetaffinity 101 8 (cpusetOf 5 8)) (0 : Int)]) config ∧
      101 = (willing true).tid 1 ∧ cpuEvent 0 5 ∈ meeting ∧
      ∀ cpu, CpuSet.IsSet cpu (cpusetOf 5 8) ↔ (cpu : Int) = 5 := by
  obtain ⟨config, run⟩ : ∃ config, Run (system (willing true) 8).step (start (willing true) 8)
      (meeting ++ [.call .main (.schedSetaffinity 101 8 (cpusetOf 5 8)) (0 : Int)]) config :=
    ⟨_, GuardedRun.of_execute rfl⟩
  obtain ⟨isTid, cpuid, member, isSet⟩ := setaffinity_arguments rfl (by decide) run
  have isCpu : cpuid = 5 := by
    simpa [meeting, creation, cpuEvent] using member
  subst isCpu
  exact ⟨config, run, isTid, member, isSet (by decide) (by decide)⟩

/-- The run function returns its verdict.  After a failed allocation no thread that it has
created has got past its `sem_wait`; otherwise all of them have returned. -/
theorem returned_threads {failure : Option Failure} (piped : env.pipe 0 = true)
    (run : Run (system env numOfCpus).step (start env numOfCpus) trace config)
    (returned : config.point .main = some (.returned failure)) :
    failure = verdict env numOfCpus ∧ ∀ i point, config.point (.child i) = some point →
      if failure = some .cpuAlloc then point.released = false else point = .exited := by
  obtain ⟨main, children, isMain, isPoint, accounts, told⟩ := Invariant.of_run piped run
  cases isMain.symm.trans returned
  refine ⟨told, fun i point current => ?_⟩
  have account := accounts.account i
  rw [(isPoint i).symm.trans current] at account
  have created := (account.born.mp rfl).1
  split <;> rename_i outcome
  · subst outcome
    have start := account.start
    rw [Progress.posted_eq_false rfl rfl] at start
    simpa using Nat.eq_zero_of_add_eq_zero_left start
  · have joined : i < (MainPoint.returned failure).progress.joined := by
      cases failure with
      | none => exact created
      | some failure =>
          cases failure with
          | numOfCpus => exact created
          | cpuAlloc => exact absurd rfl outcome
          | setaffinity => exact created
    have finished := account.joined joined
    cases point <;> simp [ChildPoint.finished] at finished ⊢

/-- The allocation fails before the threads have posted. -/
theorem returned_threads_cpuAlloc :
    ∃ config, Run (system (willing false) 8).step (start (willing false) 8)
        (creation 0 ⟨5, 100⟩ ++ creation 1 ⟨6, 101⟩ ++ [.call .main (.cpuAlloc 8) false]) config ∧
      ∀ i point, config.point (.child i) = some point → point.released = false := by
  obtain ⟨config, run, returned⟩ : ∃ config, Run (system (willing false) 8).step
      (start (willing false) 8)
      (creation 0 ⟨5, 100⟩ ++ creation 1 ⟨6, 101⟩ ++ [.call .main (.cpuAlloc 8) false]) config ∧
      config.point .main = some (.returned (some .cpuAlloc)) :=
    ⟨_, GuardedRun.of_execute rfl, rfl⟩
  exact ⟨config, run, (returned_threads rfl run returned).2⟩

end Results

end McKernelTest.SchedSetaffinity.Threads
