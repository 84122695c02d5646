import McKernelTest.SchedSetaffinity.Threads

/-!
# Descriptors and semaphores of `sched_setaffinity#11`

As long as the first pipe could be created, the table of descriptors is known at every point
of the run function: it has the descriptors of the start and at most the pipe of the thread
that is being created.  A thread writes while its pipe is there, and it comes to its own
`close` after the run function has closed everything.
-/

namespace McKernelTest.SchedSetaffinity.Threads

open Posix Process

/-- How far the run function has come in its loops. -/
structure Progress where
  /-- The threads whose descriptors have been stored. -/
  stored : Nat := 0
  created : Nat := 0
  read : Nat := 0
  waited : Nat := 0
  posted0 : Bool := false
  posted1 : Bool := false
  joined : Nat := 0

/-- The thread has been told to go on. -/
def Progress.posted (progress : Progress) : Nat → Bool
  | 0 => progress.posted0
  | 1 => progress.posted1
  | _ => false

/-- Both threads have been created. -/
def Progress.both : Progress :=
  { stored := 2, created := 2, read := 2 }

/-- Both threads have been told to go on. -/
def Progress.released : Progress :=
  { Progress.both with waited := 2, posted0 := true, posted1 := true }

def MainPoint.progress : MainPoint → Progress
  | .pipe i _ | .storeFds i _ => { stored := i, created := i, read := i }
  | .initSync i _ | .initStart i _ | .create i _ => { stored := i + 1, created := i, read := i }
  | .read i _ => { stored := i + 1, created := i + 1, read := i }
  | .closeRead i _ | .closeWrite i _ => { stored := i + 1, created := i + 1, read := i + 1 }
  | .cpuAlloc _ | .returned (some .cpuAlloc) => Progress.both
  | .waitSync i _ => { Progress.both with waited := i }
  | .fflush _ | .setaffinity _ | .cpuFree _ | .postStart1 _ => { Progress.both with waited := 2 }
  | .postStart0 _ => { Progress.both with waited := 2, posted1 := true }
  | .join i _ => { Progress.released with joined := i }
  | .destroySync i _ | .destroyStart i _ => { Progress.released with joined := i + 1 }
  | .returned none | .returned (some .setaffinity) => { Progress.released with joined := 2 }
  | .returned (some .numOfCpus) => {}

namespace ChildPoint

/-- The thread has written to its pipe. -/
def wrote : ChildPoint → Bool
  | .writeRegisters | .getCpuId | .gettid _ | .loadFd _ | .write _ _ => false
  | _ => true

/-- The thread has posted `sync`. -/
def synced : ChildPoint → Bool
  | .writeRegisters | .getCpuId | .gettid _ | .loadFd _ | .write _ _ | .printBefore _ | .showBefore
  | .postSync => false
  | _ => true

/-- The thread has been told to go on. -/
def released : ChildPoint → Bool
  | .getCpuIdAfter | .gettidAfter _ | .printAfter _ | .showAfter | .loadReadFd | .closeRead _
  | .loadWriteFd | .closeWrite _ | .threadReturn | .exited => true
  | _ => false

def finished : ChildPoint → Bool
  | .exited => true
  | _ => false

end ChildPoint

/-- A thread has found out its CPU. -/
def cpuEvent (i : Nat) (cpuid : Int) : ThreadsEvent :=
  .call (.child i) .getCpuId cpuid

/-- What a thread says about itself. -/
structure Reported (env : Environment) (trace : List ThreadsEvent) (i : Nat) (info : Info) :
    Prop where
  tid : info.tid = env.tid i
  cpuid : cpuEvent i info.cpuid ∈ trace

/-- The descriptors are not in use but for the pipe. -/
structure Locals.Free (env : Environment) (locals : Locals) : Prop where
  readFd : env.fds locals.readFd = none
  writeFd : env.fds locals.writeFd = none
  different : locals.readFd ≠ locals.writeFd

/-- What is known about `child_info` after some reads.  Without a pipe nothing is read. -/
structure Locals.Known (env : Environment) (trace : List ThreadsEvent) (reads : Nat)
    (locals : Locals) : Prop where
  info0 : 0 < reads → Reported env trace 0 locals.info0
  info1 : 1 < reads → env.pipe 1 = true → Reported env trace 1 locals.info1
  unread : reads ≤ 1 ∨ env.pipe 1 = false → locals.info1 = ⟨0, 0⟩

/-- What the run function knows at a point. -/
def MainPoint.Fits (env : Environment) (trace : List ThreadsEvent) (fds : Nat → Fd × Fd) :
    MainPoint → Prop
  | .pipe i locals => i < 2 ∧ (0 < i → locals.Free env) ∧ locals.Known env trace i
  | .storeFds i locals => i < 2 ∧ locals.Free env ∧ locals.Known env trace i
  | .initSync i locals | .initStart i locals | .create i locals | .read i locals =>
      i < 2 ∧ locals.Free env ∧ locals.Known env trace i ∧ fds i = (locals.readFd, locals.writeFd)
  | .closeRead i locals | .closeWrite i locals =>
      i < 2 ∧ locals.Free env ∧ locals.Known env trace (i + 1)
  | .waitSync i locals => i < 2 ∧ locals.Known env trace 2
  | .cpuAlloc locals | .fflush locals | .setaffinity locals => locals.Known env trace 2
  | .join i _ | .destroySync i _ | .destroyStart i _ => i < 2
  | .cpuFree _ | .postStart1 _ | .postStart0 _ | .returned _ => True

/-- The descriptors while the pipe of a thread is there. -/
def openFds (env : Environment) (i : Nat) (locals : Locals) : Fd → Option Target :=
  if env.pipe i then
    Function.update (Function.update env.fds locals.readFd (some (.pipeEnd i .readEnd)))
      locals.writeFd (some (.pipeEnd i .writeEnd))
  else
    env.fds

/-- The descriptors at a point of the run function. -/
def MainPoint.fds (env : Environment) : MainPoint → Fd → Option Target
  | .storeFds i locals | .initSync i locals | .initStart i locals | .create i locals
  | .read i locals | .closeRead i locals => openFds env i locals
  | .closeWrite i locals =>
      if env.pipe i then Function.update env.fds locals.writeFd (some (.pipeEnd i .writeEnd))
      else env.fds
  | _ => env.fds

/-- What a thread knows at a point. -/
def ChildPoint.Fits (env : Environment) (trace : List ThreadsEvent) (fds : Fd × Fd) (i : Nat) :
    ChildPoint → Prop
  | .gettid cpuid => cpuEvent i cpuid ∈ trace
  | .loadFd info => Reported env trace i info
  | .write fd info => fd = fds.2 ∧ Reported env trace i info
  | .closeRead fd => fd = fds.1
  | .closeWrite fd => fd = fds.2
  | _ => True

/-- A thread, its pipe and its semaphores. -/
structure Account (env : Environment) (trace : List ThreadsEvent) (progress : Progress)
    (world : World) (i : Nat) (child : Option ChildPoint) : Prop where
  born : child.isSome = true ↔ i < progress.created ∧ env.pthreadCreate i = 0
  free : i < progress.stored →
    env.fds (world.children i).1 = none ∧ env.fds (world.children i).2 = none
  sync : world.sems (.sync i) + (decide (i < progress.waited)).toNat =
    (child.any (·.synced)).toNat
  start : world.sems (.start i) + (child.any (·.released)).toNat = (progress.posted i).toNat
  queue : env.pipe i = true →
    (world.queue i).length + (decide (i < progress.read)).toNat = (child.any (·.wrote)).toNat
  content : ∀ info ∈ world.queue i, Reported env trace i info
  fits : ∀ point, child = some point → point.Fits env trace (world.children i) i
  exited : world.exited i = child.any (·.finished)
  joined : i < progress.joined → child.any (·.finished) = true

/-- The state of all threads. -/
structure Accounts (env : Environment) (trace : List ThreadsEvent) (world : World)
    (main : MainPoint) (children : Nat → Option ChildPoint) : Prop where
  fits : main.Fits env trace world.children
  fds : world.fds = main.fds env
  account : ∀ i, Account env trace main.progress world i (children i)

section Extend

variable {env : Environment} {trace longer : List ThreadsEvent}
  (grows : ∀ event ∈ trace, event ∈ longer)
include grows

theorem Reported.extend {i : Nat} {info : Info} (reported : Reported env trace i info) :
    Reported env longer i info :=
  ⟨reported.tid, grows _ reported.cpuid⟩

theorem Locals.Known.extend {reads : Nat} {locals : Locals} (known : locals.Known env trace reads) :
    locals.Known env longer reads :=
  ⟨fun some => (known.info0 some).extend grows,
    fun both piped => (known.info1 both piped).extend grows, known.unread⟩

theorem MainPoint.Fits.extend {fds : Nat → Fd × Fd} {main : MainPoint}
    (fits : main.Fits env trace fds) : main.Fits env longer fds := by
  cases main with
  | pipe i locals => exact ⟨fits.1, fits.2.1, fits.2.2.extend grows⟩
  | storeFds i locals => exact ⟨fits.1, fits.2.1, fits.2.2.extend grows⟩
  | initSync i locals => exact ⟨fits.1, fits.2.1, fits.2.2.1.extend grows, fits.2.2.2⟩
  | initStart i locals => exact ⟨fits.1, fits.2.1, fits.2.2.1.extend grows, fits.2.2.2⟩
  | create i locals => exact ⟨fits.1, fits.2.1, fits.2.2.1.extend grows, fits.2.2.2⟩
  | read i locals => exact ⟨fits.1, fits.2.1, fits.2.2.1.extend grows, fits.2.2.2⟩
  | closeRead i locals => exact ⟨fits.1, fits.2.1, fits.2.2.extend grows⟩
  | closeWrite i locals => exact ⟨fits.1, fits.2.1, fits.2.2.extend grows⟩
  | waitSync i locals => exact ⟨fits.1, fits.2.extend grows⟩
  | cpuAlloc locals => exact Locals.Known.extend grows fits
  | fflush locals => exact Locals.Known.extend grows fits
  | setaffinity locals => exact Locals.Known.extend grows fits
  | _ => exact fits

theorem ChildPoint.Fits.extend {fds : Fd × Fd} {i : Nat} {point : ChildPoint}
    (fits : point.Fits env trace fds i) : point.Fits env longer fds i := by
  cases point with
  | gettid cpuid => exact grows _ fits
  | loadFd info => exact Reported.extend grows fits
  | write fd info => exact ⟨fits.1, fits.2.extend grows⟩
  | _ => exact fits

theorem Account.extend {progress : Progress} {world : World} {i : Nat} {child : Option ChildPoint}
    (account : Account env trace progress world i child) :
    Account env longer progress world i child :=
  { account with
    content := fun info member => (account.content info member).extend grows
    fits := fun point current => (account.fits point current).extend grows }

theorem Accounts.extend {world : World} {main : MainPoint} {children : Nat → Option ChildPoint}
    (accounts : Accounts env trace world main children) : Accounts env longer world main children :=
  ⟨accounts.fits.extend grows, accounts.fds, fun i => (accounts.account i).extend grows⟩

end Extend

/-! ## The threads -/

section Child

variable {env : Environment} {trace : List ThreadsEvent} {progress : Progress}
  {world after : World} {i : Nat} {point next : ChildPoint}

/-- A step of a thread that nobody else sees. -/
theorem Account.move (account : Account env trace progress world i (some point))
    (fits : next.Fits env trace (world.children i) i)
    (wrote : env.pipe i = true → next.wrote = point.wrote)
    (synced : next.synced = point.synced) (released : next.released = point.released)
    (finished : next.finished = point.finished) :
    Account env trace progress world i (some next) where
  born := account.born
  free := account.free
  sync := by
    rw [Option.any_some, synced]
    exact account.sync
  start := by
    rw [Option.any_some, released]
    exact account.start
  queue piped := by
    rw [Option.any_some, wrote piped]
    exact account.queue piped
  content := account.content
  fits := by
    rintro _ ⟨⟩
    exact fits
  exited := by
    rw [Option.any_some, finished]
    exact account.exited
  joined isJoined := by
    rw [Option.any_some, finished]
    exact account.joined isJoined

/-- What concerns one thread is the same in two worlds. -/
structure SameFor (world after : World) (i : Nat) : Prop where
  children : after.children i = world.children i
  sync : after.sems (.sync i) = world.sems (.sync i)
  start : after.sems (.start i) = world.sems (.start i)
  queue : after.queue i = world.queue i
  exited : after.exited i = world.exited i

theorem Account.transfer {child : Option ChildPoint}
    (account : Account env trace progress world i child) (same : SameFor world after i) :
    Account env trace progress after i child where
  born := account.born
  free isStored := by
    rw [same.children]
    exact account.free isStored
  sync := by
    rw [same.sync]
    exact account.sync
  start := by
    rw [same.start]
    exact account.start
  queue piped := by
    rw [same.queue]
    exact account.queue piped
  content := by
    rw [same.queue]
    exact account.content
  fits := by
    rw [same.children]
    exact account.fits
  exited := by
    rw [same.exited]
    exact account.exited
  joined := account.joined

variable {main : MainPoint} {children : Nat → Option ChildPoint}

/-- A step of one thread. -/
theorem Accounts.moveChild (accounts : Accounts env trace world main children)
    (isChildren : after.children = world.children) (isFds : after.fds = world.fds)
    (own : Account env trace main.progress after i (some next))
    (others : ∀ num ≠ i, SameFor world after num) :
    Accounts env trace after main (Function.update children i (some next)) := by
  refine ⟨isChildren ▸ accounts.fits, isFds.trans accounts.fds, fun num => ?_⟩
  by_cases same : num = i
  · subst same
    rw [Function.update_self]
    exact own
  · rw [Function.update_of_ne same]
    exact (accounts.account num).transfer (others num same)

/-- Only a run function that waits for a thread has not yet read what it writes. -/
theorem MainPoint.eq_read {fds : Nat → Fd × Fd} (fits : main.Fits env trace fds)
    (created : i < main.progress.created) (unread : main.progress.read ≤ i) :
    ∃ locals, main = .read i locals := by
  cases main with
  | read num locals =>
      have same : num = i := by
        simp only [MainPoint.progress] at created unread
        omega
      exact ⟨locals, by rw [same]⟩
  | returned failure =>
      cases failure with
      | none =>
          simp only [MainPoint.progress, Progress.released, Progress.both] at created unread
          omega
      | some failure =>
          cases failure <;>
            simp only [MainPoint.progress, Progress.released, Progress.both] at created unread <;>
            omega
  | _ =>
      simp only [MainPoint.progress, Progress.released, Progress.both] at created unread
      omega

theorem MainPoint.created_le_stored : main.progress.created ≤ main.progress.stored := by
  cases main with
  | returned failure =>
      cases failure with
      | none => exact Nat.le_refl _
      | some failure => cases failure <;> exact Nat.le_refl _
  | initSync => exact Nat.le_succ _
  | initStart => exact Nat.le_succ _
  | create => exact Nat.le_succ _
  | _ => exact Nat.le_refl _

theorem Progress.posted_eq_false (zero : progress.posted0 = false)
    (one : progress.posted1 = false) : progress.posted i = false := by
  unfold Progress.posted
  split
  · exact zero
  · exact one
  · rfl

/-- When a thread is told to go on, both pipes have been closed. -/
theorem MainPoint.fds_of_posted (posted : main.progress.posted i = true) :
    main.fds env = env.fds := by
  cases main with
  | storeFds num locals | initSync num locals | initStart num locals | create num locals
  | read num locals | closeRead num locals | closeWrite num locals =>
      exact absurd (Progress.posted_eq_false rfl rfl) (ne_false_of_eq_true posted)
  | _ => rfl

/-- The second thread has been created, and there is no second pipe. -/
theorem MainPoint.fds_of_unpiped {fds : Nat → Fd × Fd} (fits : main.Fits env trace fds)
    (created : 1 < main.progress.created) (unpiped : env.pipe 1 = false) :
    main.fds env = env.fds := by
  have second : ∀ num, num < 2 → 1 < num + 1 → num = 1 := by omega
  cases main with
  | storeFds num locals => exact absurd created (Nat.not_lt.mpr (Nat.le_of_lt_succ fits.1))
  | initSync num locals => exact absurd created (Nat.not_lt.mpr (Nat.le_of_lt_succ fits.1))
  | initStart num locals => exact absurd created (Nat.not_lt.mpr (Nat.le_of_lt_succ fits.1))
  | create num locals => exact absurd created (Nat.not_lt.mpr (Nat.le_of_lt_succ fits.1))
  | read num locals =>
      rw [second num fits.1 created]
      simp [MainPoint.fds, openFds, unpiped]
  | closeRead num locals =>
      rw [second num fits.1 created]
      simp [MainPoint.fds, openFds, unpiped]
  | closeWrite num locals =>
      rw [second num fits.1 created]
      simp [MainPoint.fds, unpiped]
  | _ => rfl

theorem MainPoint.created_le {fds : Nat → Fd × Fd} (fits : main.Fits env trace fds) :
    main.progress.created ≤ 2 := by
  cases main with
  | pipe num locals => exact Nat.le_of_lt fits.1
  | storeFds num locals => exact Nat.le_of_lt fits.1
  | initSync num locals => exact Nat.le_of_lt fits.1
  | initStart num locals => exact Nat.le_of_lt fits.1
  | create num locals => exact Nat.le_of_lt fits.1
  | read num locals => exact fits.1
  | closeRead num locals => exact fits.1
  | closeWrite num locals => exact fits.1
  | returned failure =>
      cases failure with
      | none => exact Nat.le_refl _
      | some failure =>
          cases failure <;> simp [MainPoint.progress, Progress.both, Progress.released]
  | _ => exact Nat.le_refl _

/-- The descriptors of a thread that has been told to go on are closed. -/
theorem Accounts.closed (accounts : Accounts env trace world main children)
    (current : children i = some point) (released : point.released = true) :
    world.fds (world.children i).1 = none ∧ world.fds (world.children i).2 = none := by
  have account := accounts.account i
  rw [current] at account
  have posted : main.progress.posted i = true := by
    have start := account.start
    rw [Option.any_some, released] at start
    by_contra unposted
    simp [eq_false_of_ne_true unposted] at start
  have created := (account.born.mp rfl).1
  rw [accounts.fds, MainPoint.fds_of_posted posted]
  exact account.free (Nat.lt_of_lt_of_le created MainPoint.created_le_stored)

/-- A thread that has not written yet writes to its own pipe, if it has one. -/
theorem Accounts.target {fd : Fd} {info : Info} (piped : env.pipe 0 = true)
    (accounts : Accounts env trace world main children)
    (current : children i = some (.write fd info)) :
    (env.pipe i = true ∧ main.progress.read ≤ i ∧
        world.fds fd = some (.pipeEnd i .writeEnd)) ∨
      env.pipe i = false ∧ world.fds fd = none := by
  have account := accounts.account i
  rw [current] at account
  have isFd : fd = (world.children i).2 := (account.fits _ rfl).1
  have created := (account.born.mp rfl).1
  have free := (account.free (Nat.lt_of_lt_of_le created MainPoint.created_le_stored)).2
  cases isPiped : env.pipe i with
  | true =>
      have unread : main.progress.read ≤ i := by
        have queue := account.queue isPiped
        by_contra isRead
        rw [decide_eq_true (Nat.lt_of_not_le isRead)] at queue
        simp [ChildPoint.wrote] at queue
      obtain ⟨locals, rfl⟩ := MainPoint.eq_read accounts.fits created unread
      have isStored := accounts.fits.2.2.2
      refine Or.inl ⟨rfl, unread, ?_⟩
      rw [accounts.fds, isFd, isStored]
      simp [MainPoint.fds, openFds, isPiped]
  | false =>
      have small := MainPoint.created_le accounts.fits
      have nonzero : i ≠ 0 := by
        rintro rfl
        rw [piped] at isPiped
        cases isPiped
      obtain rfl : i = 1 := by omega
      have isTable := MainPoint.fds_of_unpiped accounts.fits created isPiped
      refine Or.inr ⟨rfl, ?_⟩
      rw [accounts.fds, isTable, isFd]
      exact free

/-- `close` does nothing if the descriptor is not in use. -/
theorem perform_close_eq_some {thread : Thread} {fd : Fd} {result : Int}
    (closed : world.fds fd = none)
    (performed : perform env world thread (.close fd) result = some after) :
    result = -1 ∧ after = world := by
  obtain ⟨isResult, ⟨⟩⟩ := Option.ite_none_right_eq_some.mp performed
  have same : Function.update world.fds fd none = world.fds := by
    rw [← closed, Function.update_eq_self]
  rw [same]
  exact ⟨by simpa [closed] using isResult, rfl⟩

/-- The thread tells its CPU and its id. -/
theorem Account.writes {fd : Fd} {info : Info} (isPiped : env.pipe i = true)
    (account : Account env trace progress world i (some (.write fd info))) :
    Account env trace progress
      { world with queue := Function.update world.queue i (world.queue i ++ [info]) } i
      (some (.printBefore info)) where
  born := account.born
  free := account.free
  sync := account.sync
  start := account.start
  queue _ := by
    have queue := account.queue isPiped
    simp only [Option.any_some, ChildPoint.wrote, Bool.toNat_false] at queue
    simp only [Function.update_self, List.length_append, List.length_singleton, Option.any_some,
      ChildPoint.wrote, Bool.toNat_true]
    omega
  content := by
    simp only [Function.update_self, List.mem_append, List.mem_singleton]
    rintro other (earlier | rfl)
    · exact account.content other earlier
    · exact (account.fits _ rfl).2
  fits := by
    rintro _ ⟨⟩
    trivial
  exited := account.exited
  joined := account.joined

/-- The thread says that it is ready. -/
theorem Account.syncs (account : Account env trace progress world i (some .postSync)) :
    Account env trace progress { world with sems := semPostOn world.sems (.sync i) } i
      (some .waitStart) where
  born := account.born
  free := account.free
  sync := by
    have sync := account.sync
    simp only [Option.any_some, ChildPoint.synced, Bool.toNat_false] at sync
    simp only [semPostOn, Function.update_self, Option.any_some, ChildPoint.synced, Bool.toNat_true]
    omega
  start := account.start
  queue := account.queue
  content := account.content
  fits := by
    rintro _ ⟨⟩
    trivial
  exited := account.exited
  joined := account.joined

/-- The thread has been told to go on. -/
theorem Account.goesOn {sems : Sem → Nat} (waited : semWaitOn world.sems (.start i) = some sems)
    (account : Account env trace progress world i (some .waitStart)) :
    Account env trace progress { world with sems := sems } i (some .getCpuIdAfter) := by
  obtain ⟨positive, rfl⟩ := (semWaitOn_eq_some_iff _ _ _).mp waited
  refine
    { account with
      sync := account.sync
      start := ?_
      fits := ?_ }
  · have start := account.start
    simp only [Option.any_some, ChildPoint.released, Bool.toNat_false] at start
    simp only [Function.update_self, Option.any_some, ChildPoint.released, Bool.toNat_true]
    omega
  · rintro _ ⟨⟩
    trivial

theorem Account.returns (account : Account env trace progress world i (some .threadReturn)) :
    Account env trace progress { world with exited := Function.update world.exited i true } i
      (some .exited) where
  born := account.born
  free := account.free
  sync := account.sync
  start := account.start
  queue := account.queue
  content := account.content
  fits := by
    rintro _ ⟨⟩
    trivial
  exited := Function.update_self i true world.exited
  joined _ := rfl

/-- A step of a thread. -/
theorem Accounts.child_step {op : Op} {step : Res op → ChildPoint} {result : Res op}
    (piped : env.pipe 0 = true) (accounts : Accounts env trace world main children)
    (current : children i = some point) (isNode : childNode i point = .call op step)
    (performed : perform env world (.child i) op result = some after) :
    Accounts env (trace ++ [.call (.child i) op result]) after main
      (Function.update children i (some (step result))) := by
  have grows : ∀ event ∈ trace, event ∈ trace ++ [Event.call (.child i) op result] :=
    fun _ member => List.mem_append_left _ member
  have longer := accounts.extend grows
  have own := longer.account i
  rw [current] at own
  have fits := own.fits _ rfl
  -- A step that leaves the world as it is.
  have quiet : ∀ next : ChildPoint, after = world →
      next.Fits env (trace ++ [.call (.child i) op result]) (world.children i) i →
      (env.pipe i = true → next.wrote = point.wrote) → next.synced = point.synced →
      next.released = point.released → next.finished = point.finished →
      Accounts env (trace ++ [.call (.child i) op result]) after main
        (Function.update children i (some next)) := by
    rintro next rfl fits wrote synced released finished
    exact longer.moveChild rfl rfl (own.move fits wrote synced released finished)
      fun _ _ => ⟨rfl, rfl, rfl, rfl, rfl⟩
  cases point with
  | writeRegisters =>
      cases isNode
      cases performed
      exact quiet _ rfl trivial (fun _ => rfl) rfl rfl rfl
  | getCpuId =>
      cases isNode
      cases performed
      exact quiet _ rfl (List.mem_append_right _ (List.mem_singleton_self _))
        (fun _ => rfl) rfl rfl rfl
  | gettid cpuid =>
      cases isNode
      obtain ⟨isTid, ⟨⟩⟩ := Option.ite_none_right_eq_some.mp performed
      exact quiet _ rfl ⟨isTid, fits⟩ (fun _ => rfl) rfl rfl rfl
  | loadFd info =>
      cases isNode
      obtain ⟨isFd, ⟨⟩⟩ := Option.ite_none_right_eq_some.mp performed
      exact quiet _ rfl ⟨isFd, fits⟩ (fun _ => rfl) rfl rfl rfl
  | write fd info =>
      cases isNode
      rcases accounts.target piped current with ⟨isPiped, -, isTarget⟩ | ⟨unpiped, closed⟩
      · simp only [perform, isTarget, Option.some.injEq] at performed
        subst performed
        refine longer.moveChild rfl rfl (own.writes isPiped) fun num other => ?_
        exact ⟨rfl, rfl, rfl, Function.update_of_ne other _ _, rfl⟩
      · simp only [perform, closed, Option.some.injEq] at performed
        exact quiet _ performed.symm trivial (by simp [unpiped]) rfl rfl rfl
  | printBefore info =>
      cases isNode
      cases performed
      exact quiet _ rfl trivial (fun _ => rfl) rfl rfl rfl
  | showBefore =>
      cases isNode
      cases performed
      exact quiet _ rfl trivial (fun _ => rfl) rfl rfl rfl
  | postSync =>
      cases isNode
      cases performed
      refine longer.moveChild rfl rfl own.syncs fun num other => ?_
      exact ⟨rfl, by simp [semPostOn, other], by simp [semPostOn], rfl, rfl⟩
  | waitStart =>
      cases isNode
      obtain ⟨sems, waited, rfl⟩ := Option.map_eq_some_iff.mp performed
      refine longer.moveChild rfl rfl (own.goesOn waited) fun num other => ?_
      obtain ⟨-, rfl⟩ := (semWaitOn_eq_some_iff _ _ _).mp waited
      exact ⟨rfl, by simp, by simp [other], rfl, rfl⟩
  | getCpuIdAfter =>
      cases isNode
      cases performed
      exact quiet _ rfl trivial (fun _ => rfl) rfl rfl rfl
  | gettidAfter cpuid =>
      cases isNode
      obtain ⟨-, ⟨⟩⟩ := Option.ite_none_right_eq_some.mp performed
      exact quiet _ rfl trivial (fun _ => rfl) rfl rfl rfl
  | printAfter info =>
      cases isNode
      cases performed
      exact quiet _ rfl trivial (fun _ => rfl) rfl rfl rfl
  | showAfter =>
      cases isNode
      cases performed
      exact quiet _ rfl trivial (fun _ => rfl) rfl rfl rfl
  | loadReadFd =>
      cases isNode
      obtain ⟨isFd, ⟨⟩⟩ := Option.ite_none_right_eq_some.mp performed
      exact quiet _ rfl isFd (fun _ => rfl) rfl rfl rfl
  | closeRead fd =>
      cases isNode
      obtain ⟨-, rfl⟩ := perform_close_eq_some (fits ▸ (accounts.closed current rfl).1) performed
      exact quiet _ rfl trivial (fun _ => rfl) rfl rfl rfl
  | loadWriteFd =>
      cases isNode
      obtain ⟨isFd, ⟨⟩⟩ := Option.ite_none_right_eq_some.mp performed
      exact quiet _ rfl isFd (fun _ => rfl) rfl rfl rfl
  | closeWrite fd =>
      cases isNode
      obtain ⟨-, rfl⟩ := perform_close_eq_some (fits ▸ (accounts.closed current rfl).2) performed
      exact quiet _ rfl trivial (fun _ => rfl) rfl rfl rfl
  | threadReturn =>
      cases isNode
      cases performed
      refine longer.moveChild rfl rfl own.returns fun num other => ?_
      exact ⟨rfl, rfl, rfl, rfl, Function.update_of_ne other _ _⟩
  | exited => cases isNode

end Child

end McKernelTest.SchedSetaffinity.Threads
