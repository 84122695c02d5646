import McKernelTest.PipeSync.Core

/-!
# What `getppid#0` detects

The child compares its `getppid` with the process id that the parent has sent.  The run
function ignores what the child finds.  It does not even wait for it: the first read of
the parent leaves the last byte of the child's first message in the pipe, and the second
read returns with that byte.
-/

namespace McKernelTest.PipeSync

open Posix Process Transition

/-- The kernel returns `pid` from `getpid` in the parent and `ppid` from `getppid` in the
child. -/
def identifies (pid ppid : Int) : Guard SyncConfig SyncEvent
  | _, .call .parent .getpid result => result = pid
  | _, .call .child .getppid result => result = ppid
  | _, _ => True

/-- The child has read what the parent has sent, and it is what `getppid` has returned. -/
def ComparedEqual (trace : List SyncEvent) : Prop :=
  ∃ (ppid : Int) (bytes : List UInt8), .call .child .getppid ppid ∈ trace ∧
    .call .child (.read .p2c 4) bytes ∈ trace ∧ ppid = pidOfBytes bytes

/-- Whenever the run function returns `NULL` in the parent, the child has compared the two
values and found them equal. -/
def Detects (beyond : Nat → UInt8) (pid ppid : Int) : Prop :=
  ∀ trace config,
    GuardedRun system.step (identifies pid ppid) (start beyond .getppid0) trace config →
      config.code .parent = some (.ret (.returned none)) → ComparedEqual trace

/-- A read from a pipe with bytes in it. -/
theorem perform_read {pipes : Pipes} {pipe : PipeName} (role : Role) (count : Nat)
    (nonempty : pipes pipe ≠ []) :
    perform pipes role (.read pipe count) ((pipes pipe).take count) =
      some (Function.update pipes pipe ((pipes pipe).drop count)) := by
  rw [perform, (readQueue_eq_some_iff _ _ _ _).mpr ⟨nonempty, rfl, rfl⟩]
  rfl

/-- The run up to the parent's own process id. -/
def untilSent (beyond : Nat → UInt8) (pid ppid : Int) : List SyncEvent :=
  [.call .parent (.pipe .p2c) (0 : Int), .call .parent (.pipe .c2p) (0 : Int),
    .call .parent .fork (5 : Int), .call .child .getppid ppid,
    .call .child (.printf "[child] ppid=%d\n" [ppid]) (),
    .call .child (.write .c2p (syncMessage beyond)) (),
    .call .parent (.read .c2p pipeBufSize) ((syncMessage beyond).take pipeBufSize),
    .call .parent .getpid pid, .call .parent (.printf "[parent] pid=%d\n" [pid]) (),
    .call .parent (.write .p2c (pidBytes pid)) ()]

/-- The end of `getppid0_child_fn`. -/
def compare (beyond : Nat → UInt8) (ppid : Int) (bytes : List UInt8) : Program (Option String) := do
  if ppid ≠ pidOfBytes bytes then
    return some "[child] getppid faild."
  write .c2p (syncMessage beyond)
  return none

/-- What is left to do then; one byte of the child's message is still in its pipe. -/
def sentConfig (beyond : Nat → UInt8) (pid ppid : Int) : SyncConfig where
  world
    | .p2c => pidBytes pid
    | .c2p => (syncMessage beyond).drop pipeBufSize
  code := family
    (do
      let _ ← read .c2p pipeBufSize
      closeAllPipes
      return .returned none)
    (some do
      let bytes ← read .p2c 4
      let _ ← compare beyond ppid bytes
      closeAllPipes
      return .exited 0)

theorem run_untilSent (beyond : Nat → UInt8) (pid ppid : Int) :
    GuardedRun system.step (identifies pid ppid) (start beyond .getppid0)
      (untilSent beyond pid ppid) (sentConfig beyond pid ppid) := by
  have message : syncMessage beyond ≠ [] :=
    List.ne_nil_of_length_pos (by simp)
  have run : GuardedRun system.step (identifies pid ppid) (start beyond .getppid0) [] _ :=
    GuardedRun.nil
  have run := System.run_call run .parent (.pipe .p2c) (0 : Int) trivial rfl rfl
  have run := System.run_call run .parent (.pipe .c2p) (0 : Int) trivial rfl rfl
  have run := System.run_call run .parent .fork (5 : Int) trivial rfl rfl
  have run := System.run_call run .child .getppid ppid rfl rfl rfl
  have run := System.run_call run .child (.printf "[child] ppid=%d\n" [ppid]) () trivial rfl rfl
  have run := System.run_call run .child (.write .c2p (syncMessage beyond)) () trivial rfl rfl
  have run := System.run_call run .parent (.read .c2p pipeBufSize) _ trivial rfl
    (perform_read .parent pipeBufSize message)
  have run := System.run_call run .parent .getpid pid rfl rfl rfl
  have run := System.run_call run .parent (.printf "[parent] pid=%d\n" [pid]) () trivial rfl rfl
  have run := System.run_call run .parent (.write .p2c (pidBytes pid)) () trivial rfl rfl
  convert run using 1
  · rfl
  · rw [sentConfig, Config.mk.injEq]
    constructor
    · funext pipe
      cases pipe <;> rfl
    · funext role
      cases role <;> rfl

/-- The calls of `close_all_pipes`. -/
def closing (role : Role) : List SyncEvent :=
  [.call role (.close .p2c .readEnd) (), .call role (.close .p2c .writeEnd) (),
    .call role (.close .c2p .readEnd) (), .call role (.close .c2p .writeEnd) ()]

section Leaving

variable {pid ppid : Int} {source config : SyncConfig} {trace : List SyncEvent}

/-- A process that closes its pipes and leaves. -/
theorem run_closing {role : Role} {ending : Ending}
    (run : GuardedRun system.step (identifies pid ppid) source trace config)
    (found : config.code role = some (closeAllPipes >>= fun _ => pure ending)) :
    GuardedRun system.step (identifies pid ppid) source (trace ++ closing role)
      ⟨config.world, Function.update config.code role (some (.ret ending))⟩ := by
  have free : ∀ config pipe side,
      identifies pid ppid config (.call role (.close pipe side) ()) := by
    intro config pipe side
    cases role <;> trivial
  have run := System.run_call run role (.close .p2c .readEnd) () (free ..) found rfl
  have run := System.run_call run role (.close .p2c .writeEnd) () (free ..)
    (Function.update_self ..) rfl
  have run := System.run_call run role (.close .c2p .readEnd) () (free ..)
    (Function.update_self ..) rfl
  have run := System.run_call run role (.close .c2p .writeEnd) () (free ..)
    (Function.update_self ..) rfl
  simpa [closing, System.resume, system, spawn, Code.bind] using run

/-- The parent reads what is in the pipe and leaves. -/
theorem run_parentLeaving
    (run : GuardedRun system.step (identifies pid ppid) source trace config)
    (leftover : config.world .c2p ≠ [])
    (found : config.code .parent = some (do
      let _ ← read .c2p pipeBufSize
      closeAllPipes
      return .returned none)) :
    ∃ world bytes, GuardedRun system.step (identifies pid ppid) source
      (trace ++ [.call .parent (.read .c2p pipeBufSize) bytes] ++ closing .parent)
      ⟨world, Function.update config.code .parent (some (.ret (.returned none)))⟩ := by
  have run := System.run_call run .parent (.read .c2p pipeBufSize) _ trivial found
    (perform_read .parent pipeBufSize leftover)
  have run := run_closing run (Function.update_self ..)
  exact ⟨_, _, by simpa [System.resume, system, spawn] using run⟩

end Leaving

theorem leftover_ne_nil (beyond : Nat → UInt8) : (syncMessage beyond).drop pipeBufSize ≠ [] :=
  List.ne_nil_of_length_pos (by simp)

/-- Whatever the two values are, the parent can return `NULL` before the child has read
anything. -/
theorem parent_overtakes (beyond : Nat → UInt8) (pid ppid : Int) : ∃ trace config,
    GuardedRun system.step (identifies pid ppid) (start beyond .getppid0) trace config ∧
      config.code .parent = some (.ret (.returned none)) ∧
      ∀ bytes, Event.call .child (.read .p2c 4) bytes ∉ trace := by
  rcases run_parentLeaving (run_untilSent beyond pid ppid) (leftover_ne_nil beyond) rfl with
    ⟨world, bytes, run⟩
  exact ⟨_, _, run, rfl, fun bytes member => by simp [untilSent, closing] at member⟩

/-- If the child finds the two values to be different, it leaves without a word, and the
parent can still return `NULL`. -/
theorem mismatch_passes (beyond : Nat → UInt8) (pid ppid : Int)
    (different : ppid ≠ pidOfBytes ((pidBytes pid).take 4)) : ∃ trace config,
    GuardedRun system.step (identifies pid ppid) (start beyond .getppid0) trace config ∧
      config.code .parent = some (.ret (.returned none)) ∧
      config.code .child = some (.ret (.exited 0)) ∧ ¬ComparedEqual trace := by
  have sent : pidBytes pid ≠ [] :=
    List.ne_nil_of_length_pos (by simp [pidBytes])
  have silent : compare beyond ppid ((pidBytes pid).take 4) =
      .ret (some "[child] getppid faild.") :=
    if_pos different
  have leaves : (compare beyond ppid ((pidBytes pid).take 4)).bind (fun _ => do
      closeAllPipes
      return Ending.exited 0) = (do
        closeAllPipes
        return Ending.exited 0) := by
    rw [silent]
    rfl
  have run := System.run_call (run_untilSent beyond pid ppid) .child (.read .p2c 4)
    ((pidBytes pid).take 4) trivial rfl (perform_read .child 4 sent)
  have run := @run_closing _ _ _ _ _ .child (.exited 0) run (congrArg some leaves)
  rcases run_parentLeaving run (leftover_ne_nil beyond) rfl with ⟨world, bytes, run⟩
  refine ⟨_, _, run, rfl, rfl, ?_⟩
  rintro ⟨other, bytes, got, read, same⟩
  have isPpid : other = ppid := by simpa [untilSent, closing] using got
  have isSent : bytes = (pidBytes pid).take 4 := by simpa [untilSent, closing] using read
  rw [isPpid, isSent] at same
  exact different same

/-- For no pair of values does the success of the test case mean that the child has
compared them. -/
theorem getppid0_never_detects (beyond : Nat → UInt8) (pid ppid : Int) :
    ¬Detects beyond pid ppid := by
  intro detects
  rcases parent_overtakes beyond pid ppid with ⟨trace, config, run, returned, unread⟩
  rcases detects trace config run returned with ⟨_, bytes, -, read, -⟩
  exact unread bytes read

/-- With `getpid` 1 and `getppid` 2 both processes end: the child has found the values to
be different, and the parent returns `NULL`. -/
theorem wrong_getppid_passes : ∃ trace config,
    GuardedRun system.step (identifies 1 2) (start (fun _ => 0) .getppid0) trace config ∧
      config.code .parent = some (.ret (.returned none)) ∧
      config.code .child = some (.ret (.exited 0)) ∧ ¬ComparedEqual trace :=
  mismatch_passes (fun _ => 0) 1 2 (by decide)

end McKernelTest.PipeSync
