import McKernelTest.PipeSync.Core
import McKernelTest.Process.Protocol

/-!
# What the pipe hand-shake synchronises

The child's messages are one byte longer than the parent's reads.  The byte
left over by the first read is enough for the second read to return, so the
parent can finish while the child is still at work.

The hand-shake holds along every run in which the parent does not read a
shorter message than it asks for and does not leave because `setpgid` failed.
-/

namespace McKernelTest.PipeSync

open Posix Process Transition

/-- A sync read of the parent. -/
def isSyncRead : SyncEvent → Bool
  | .call .parent (.read .c2p _) _ => true
  | _ => false

/-- A sync write of the child. -/
def isSyncWrite : SyncEvent → Bool
  | .call .child (.write .c2p _) _ => true
  | _ => false

/-- The number of sync reads that have returned. -/
def syncReads (trace : List SyncEvent) : Nat :=
  trace.countP isSyncRead

/-- The number of sync writes that have been performed. -/
def syncWrites (trace : List SyncEvent) : Nat :=
  trace.countP isSyncWrite

/-- The parent has reached `close_all_pipes` or the end of the run function. -/
def leaving : Option (Program Ending) → Prop
  | some (.call (.close _ _) _) => True
  | some (.ret _) => True
  | _ => False

/-- What the hand-shake is for: no sync read returns before the sync write it
waits for, and a parent with a child leaves only after both writes. -/
def Synchronised (trace : List SyncEvent) (config : SyncConfig) : Prop :=
  syncReads trace ≤ syncWrites trace ∧
    (config.code .child ≠ none → leaving (config.code .parent) → syncWrites trace = 2)

/-- The parent gets as many bytes as it asked for, and its `setpgid`
succeeds. -/
def isWhole : SyncConfig → SyncEvent → Bool
  | config, .call .parent (.read .c2p count) _ => count ≤ (config.world .c2p).length
  | _, .call .parent (.setpgid _ _) result => result ≠ -1
  | _, _ => true

/-- The steps on which the hand-shake can rely. -/
def wholeMessages : Guard SyncConfig SyncEvent :=
  fun config event => isWhole config event

instance (config : SyncConfig) (event : SyncEvent) : Decidable (wholeMessages config event) :=
  inferInstanceAs (Decidable (isWhole config event = true))

/-! ## The protocol of the two processes -/

/-- How far a process is: before the fork, a parent that has made some sync
reads, or a child that has made some sync writes. -/
inductive Stage where
  | single
  | parent (reads : Nat)
  | child (writes : Nat)

/-- The stage of the process that sees the given result of `fork`. -/
def stageAfterFork (pid : Int) : Stage :=
  if pid = 0 then .child 0 else if pid = -1 then .single else .parent 0

/-- The calls of a process in each stage. -/
@[simp]
def allowed : Stage → Op → Prop
  | .single, .pipe _ | .single, .fork | .single, .close _ _ => True
  | .parent reads, .read .c2p count => reads < 2 ∧ count = pipeBufSize
  | .parent reads, .close _ _ => reads = 2
  | .parent _, .write .p2c _ | .parent _, .setpgid _ _ | .parent _, .getpid
  | .parent _, .printf _ _ => True
  | .child writes, .write .c2p data => writes < 2 ∧ data.length = pipeBufSize + 1
  | .child _, .read .p2c _ | .child _, .getpid | .child _, .getppid | .child _, .getpgid _
  | .child _, .printf _ _ | .child _, .close _ _ => True
  | _, _ => False

/-- The stage after a call.  Nothing is said about a parent whose `setpgid`
failed. -/
@[simp]
def stageAfter : Stage → (op : Op) → Res op → Option Stage
  | .single, .fork, pid => some (stageAfterFork pid)
  | .parent reads, .read _ _, _ => some (.parent (reads + 1))
  | .parent reads, .setpgid _ _, result => if result = -1 then none else some (.parent reads)
  | .child writes, .write _ _, _ => some (.child (writes + 1))
  | stage, _, _ => some stage

/-- The hand-shake as a protocol. -/
def protocol : Protocol Stage Op Res :=
  ⟨allowed, stageAfter⟩

@[simp]
theorem protocol_accepts (stage : Stage) (op : Op) :
    protocol.accepts stage op = allowed stage op :=
  rfl

@[simp]
theorem protocol_after (stage : Stage) (op : Op) (result : Res op) :
    protocol.after stage op result = stageAfter stage op result :=
  rfl

/-- The parent ends after both reads. -/
def finished : Stage → Ending → Prop
  | .parent reads, _ => reads = 2
  | _, _ => True

/-- Where the parent's function ends. -/
def parentDone (stage : Stage) (_ : Option String) : Prop :=
  stage = .parent 2

/-- Where the child's function ends. -/
def childDone (stage : Stage) (_ : Option String) : Prop :=
  ∃ writes, stage = .child writes

theorem setpgid0ParentFn_follows (beyond : Nat → UInt8) (childPid : Int) :
    protocol.Follows parentDone (setpgid0ParentFn beyond childPid) (.parent 0) := by
  simp [setpgid0ParentFn, parentDone]

theorem setpgid0ChildFn_follows (beyond : Nat → UInt8) :
    protocol.Follows childDone (setpgid0ChildFn beyond) (.child 0) := by
  simp [setpgid0ChildFn, childDone]

theorem getppid0ParentFn_follows :
    protocol.Follows parentDone getppid0ParentFn (.parent 0) := by
  simp [getppid0ParentFn, parentDone]

theorem getppid0ChildFn_follows (beyond : Nat → UInt8) :
    protocol.Follows childDone (getppid0ChildFn beyond) (.child 0) := by
  simp [getppid0ChildFn, childDone]

theorem closeAllPipes_follows_parent (ending : Ending) :
    protocol.Follows finished (closeAllPipes >>= fun _ => pure ending) (.parent 2) := by
  simp [closeAllPipes, finished]

theorem closeAllPipes_follows_child (writes : Nat) (ending : Ending) :
    protocol.Follows finished (closeAllPipes >>= fun _ => pure ending) (.child writes) := by
  simp [closeAllPipes, finished]

theorem runFunc_follows {parentFn : Int → Program (Option String)}
    {childFn : Program (Option String)}
    (parentFollows : ∀ childPid, protocol.Follows parentDone (parentFn childPid) (.parent 0))
    (childFollows : protocol.Follows childDone childFn (.child 0)) :
    protocol.Follows finished (runFunc parentFn childFn) .single := by
  have parentPart : ∀ childPid, protocol.Follows finished
      (parentFn childPid >>= fun _ => closeAllPipes >>= fun _ => pure (.returned none))
      (.parent 0) := by
    intro childPid
    apply (parentFollows childPid).bind
    intro stage _ done
    subst done
    exact closeAllPipes_follows_parent _
  have childPart : protocol.Follows finished
      (childFn >>= fun _ => closeAllPipes >>= fun _ => pure (.exited 0)) (.child 0) := by
    apply childFollows.bind
    intro stage _ done
    rcases done with ⟨writes, rfl⟩
    exact closeAllPipes_follows_child writes _
  simp only [runFunc, stageAfterFork, allowed, stageAfter, finished, protocol_accepts,
    protocol_after, Code.perform_bind, Protocol.follows_call, Protocol.follows_ite,
    Protocol.follows_ret, Code.pure_eq, Option.some.injEq, forall_eq', true_and, implies_true]
  intro _ _ _ _ childPid
  constructor
  · intro failed
    simp [failed]
  · intro forked
    constructor
    · intro inChild
      simpa [inChild] using childPart
    · intro inParent
      simpa [inParent, forked] using parentPart childPid

theorem run_follows (beyond : Nat → UInt8) (test : SyncTest) :
    protocol.Follows finished (test.run beyond) .single := by
  cases test with
  | setpgid0 =>
      exact runFunc_follows (setpgid0ParentFn_follows beyond) (setpgid0ChildFn_follows beyond)
  | getppid0 =>
      exact runFunc_follows (fun _ => getppid0ParentFn_follows) (getppid0ChildFn_follows beyond)

/-! ## The bytes between the processes -/

/-- The bytes of the child's messages are those the parent has read and those
in the pipe. -/
def Accounts (trace : List SyncEvent) (queue : List UInt8) : Stage → Option Stage → Prop
  | .single, none => queue = [] ∧ syncReads trace = 0 ∧ syncWrites trace = 0
  | .parent reads, some (.child writes) =>
      syncReads trace = reads ∧ syncWrites trace = writes ∧ reads ≤ 2 ∧ writes ≤ 2 ∧
        queue.length + pipeBufSize * reads = (pipeBufSize + 1) * writes
  | _, _ => False

/-- What every guarded run keeps. -/
def Invariant (trace : List SyncEvent) (config : SyncConfig) : Prop :=
  ∃ parent child, protocol.Tracks finished (family parent child) config.code ∧
    Accounts trace (config.world .c2p) parent child

/-- The calls that move bytes of the child's messages. -/
def touches : Op → Bool
  | .read .c2p _ | .write .c2p _ => true
  | _ => false

theorem perform_quiet {pipes world : Pipes} {role : Role} {op : Op} {result : Res op}
    (performed : perform pipes role op result = some world) (quiet : touches op = false) :
    world .c2p = pipes .c2p := by
  cases op with
  | read pipe count =>
      cases pipe with
      | p2c =>
          simp only [perform, Option.map_eq_some_iff] at performed
          rcases performed with ⟨rest, -, rfl⟩
          rfl
      | c2p => contradiction
  | write pipe data =>
      cases pipe with
      | p2c =>
          cases performed
          rfl
      | c2p => contradiction
  | pipe =>
      simp only [perform, Option.ite_none_right_eq_some, Option.some.injEq] at performed
      rw [performed.2]
  | fork =>
      simp only [perform, Option.ite_none_right_eq_some, Option.some.injEq] at performed
      rw [performed.2]
  | _ =>
      cases performed
      rfl

theorem syncReads_snoc (trace : List SyncEvent) (event : SyncEvent) :
    syncReads (trace ++ [event]) = syncReads trace + if isSyncRead event then 1 else 0 := by
  simp [syncReads, List.countP_singleton]

theorem syncWrites_snoc (trace : List SyncEvent) (event : SyncEvent) :
    syncWrites (trace ++ [event]) = syncWrites trace + if isSyncWrite event then 1 else 0 := by
  simp [syncWrites, List.countP_singleton]

theorem quiet_not_sync {role : Role} {op : Op} {result : Res op} (quiet : touches op = false) :
    isSyncRead (.call role op result) = false ∧ isSyncWrite (.call role op result) = false := by
  cases op with
  | read pipe count => cases pipe <;> cases role <;> first | exact ⟨rfl, rfl⟩ | contradiction
  | write pipe data => cases pipe <;> cases role <;> first | exact ⟨rfl, rfl⟩ | contradiction
  | _ => cases role <;> exact ⟨rfl, rfl⟩

/-- A call that moves no byte of the child's messages keeps the accounts. -/
theorem Accounts.quiet {trace : List SyncEvent} {pipes world : Pipes} {role : Role} {op : Op}
    {result : Res op} {parent : Stage} {child : Option Stage}
    (accounts : Accounts trace (pipes .c2p) parent child)
    (performed : perform pipes role op result = some world) (quiet : touches op = false) :
    Accounts (trace ++ [.call role op result]) (world .c2p) parent child := by
  have events := @quiet_not_sync role op result quiet
  have readsEq := syncReads_snoc trace (.call role op result)
  have writesEq := syncWrites_snoc trace (.call role op result)
  simp only [events.1, events.2, Bool.false_eq_true, if_false, Nat.add_zero] at readsEq writesEq
  unfold Accounts
  rw [perform_quiet performed quiet, readsEq, writesEq]
  exact accounts

/-! ## One step -/

section Step

variable {trace : List SyncEvent} {config : SyncConfig} {op : Op} {result : Res op}
  {next : Res op → Program Ending} {world : Pipes}

theorem advance_parent {parent following : Stage} {child : Option Stage}
    (tracks : protocol.Tracks finished (family parent child) config.code)
    (found : config.code .parent = some (.call op next))
    (after : stageAfter parent op result = some following)
    (single : spawn .parent op result next = none)
    (accounts : Accounts trace (world .c2p) following child) :
    Invariant trace ⟨world, system.resume config.code .parent op result next⟩ := by
  exact ⟨following, child, tracks_parent system tracks found after single, accounts⟩

theorem advance_child {parent child following : Stage}
    (tracks : protocol.Tracks finished (family parent (some child)) config.code)
    (found : config.code .child = some (.call op next))
    (after : stageAfter child op result = some following)
    (single : spawn .child op result next = none)
    (accounts : Accounts trace (world .c2p) parent (some following)) :
    Invariant trace ⟨world, system.resume config.code .child op result next⟩ := by
  exact ⟨parent, some following, tracks_child system tracks found after single, accounts⟩

theorem parent_read {trace : List SyncEvent} {config : SyncConfig} {reads writes count : Nat}
    {bytes : List UInt8} {world : Pipes}
    (accounts : Accounts trace (config.world .c2p) (.parent reads) (some (.child writes)))
    (accepted : allowed (.parent reads) (.read .c2p count))
    (whole : count ≤ (config.world .c2p).length)
    (performed : perform config.world .parent (.read .c2p count) bytes = some world) :
    Accounts (trace ++ [.call .parent (.read .c2p count) bytes]) (world .c2p)
      (.parent (reads + 1)) (some (.child writes)) := by
  rcases accepted with ⟨remaining, rfl⟩
  rcases accounts with ⟨readsEq, writesEq, -, writesLe, total⟩
  simp only [perform, Option.map_eq_some_iff] at performed
  rcases performed with ⟨rest, read, rfl⟩
  have shortened := (length_of_readQueue read).2
  have readCount := syncReads_snoc trace (.call .parent (.read .c2p pipeBufSize) bytes)
  have writeCount := syncWrites_snoc trace (.call .parent (.read .c2p pipeBufSize) bytes)
  simp only [isSyncRead, isSyncWrite, if_true, Bool.false_eq_true, if_false] at readCount writeCount
  simp only [Accounts, Function.update_self]
  refine ⟨by omega, by omega, by omega, writesLe, ?_⟩
  rw [Nat.mul_add]
  omega

theorem child_write {trace : List SyncEvent} {config : SyncConfig} {reads writes : Nat}
    {data : List UInt8} {world : Pipes} {done : Unit}
    (accounts : Accounts trace (config.world .c2p) (.parent reads) (some (.child writes)))
    (accepted : allowed (.child writes) (.write .c2p data))
    (performed : perform config.world .child (.write .c2p data) done = some world) :
    Accounts (trace ++ [.call .child (.write .c2p data) done]) (world .c2p)
      (.parent reads) (some (.child (writes + 1))) := by
  rcases accepted with ⟨remaining, size⟩
  rcases accounts with ⟨readsEq, writesEq, readsLe, -, total⟩
  cases performed
  have readCount := syncReads_snoc trace (.call .child (.write .c2p data) done)
  have writeCount := syncWrites_snoc trace (.call .child (.write .c2p data) done)
  simp only [isSyncRead, isSyncWrite, if_true, Bool.false_eq_true, if_false] at readCount writeCount
  simp only [Accounts, Function.update_self, List.length_append]
  refine ⟨by omega, by omega, readsLe, by omega, ?_⟩
  rw [Nat.mul_add]
  omega

/-- A step of the parent after the fork. -/
theorem parent_step {reads writes : Nat}
    (tracks : protocol.Tracks finished (family (.parent reads) (some (.child writes))) config.code)
    (accounts : Accounts trace (config.world .c2p) (.parent reads) (some (.child writes)))
    (found : config.code .parent = some (.call op next))
    (guarded : wholeMessages config (.call .parent op result))
    (performed : perform config.world .parent op result = some world) :
    Invariant (trace ++ [.call .parent op result])
      ⟨world, system.resume config.code .parent op result next⟩ := by
  rcases tracks.call found with ⟨stage, stageEq, accepted, -⟩
  cases stageEq
  cases op with
  | read pipe count =>
      cases pipe with
      | p2c => exact accepted.elim
      | c2p =>
          exact advance_parent tracks found rfl rfl
            (parent_read accounts accepted (of_decide_eq_true guarded) performed)
  | write pipe data =>
      cases pipe with
      | p2c => exact advance_parent tracks found rfl rfl (accounts.quiet performed rfl)
      | c2p => exact accepted.elim
  | setpgid pid pgid =>
      have after : stageAfter (.parent reads) (.setpgid pid pgid) result = some (.parent reads) :=
        if_neg (of_decide_eq_true guarded)
      exact advance_parent tracks found after rfl (accounts.quiet performed rfl)
  | close pipe side => exact advance_parent tracks found rfl rfl (accounts.quiet performed rfl)
  | getpid => exact advance_parent tracks found rfl rfl (accounts.quiet performed rfl)
  | printf format values =>
      exact advance_parent tracks found rfl rfl (accounts.quiet performed rfl)
  | _ => exact accepted.elim

/-- A step of the child. -/
theorem child_step {reads writes : Nat}
    (tracks : protocol.Tracks finished (family (.parent reads) (some (.child writes))) config.code)
    (accounts : Accounts trace (config.world .c2p) (.parent reads) (some (.child writes)))
    (found : config.code .child = some (.call op next))
    (performed : perform config.world .child op result = some world) :
    Invariant (trace ++ [.call .child op result])
      ⟨world, system.resume config.code .child op result next⟩ := by
  rcases tracks.call found with ⟨stage, stageEq, accepted, -⟩
  cases stageEq
  cases op with
  | write pipe data =>
      cases pipe with
      | p2c => exact accepted.elim
      | c2p => exact advance_child tracks found rfl rfl (child_write accounts accepted performed)
  | read pipe count =>
      cases pipe with
      | p2c => exact advance_child tracks found rfl rfl (accounts.quiet performed rfl)
      | c2p => exact accepted.elim
  | pipe => exact accepted.elim
  | fork => exact accepted.elim
  | setpgid => exact accepted.elim
  | _ => exact advance_child tracks found rfl rfl (accounts.quiet performed rfl)

/-- The fork: it fails, or it leaves the two processes with an empty pipe. -/
theorem fork_step {pid : Int} {next : Int → Program Ending}
    (tracks : protocol.Tracks finished (family .single none) config.code)
    (accounts : Accounts trace (config.world .c2p) .single none)
    (found : config.code .parent = some (.call .fork next))
    (performed : perform config.world .parent .fork pid = some world) :
    Invariant (trace ++ [.call .parent .fork pid])
      ⟨world, system.resume config.code .parent .fork pid next⟩ := by
  have accepted : isForkResult pid = true := by
    by_contra refused
    simp [perform, refused] at performed
  have quiet := accounts.quiet performed rfl
  rcases (isForkResult_iff pid).mp accepted with rfl | started
  · exact advance_parent tracks found rfl rfl quiet
  · rcases tracks.call found with ⟨stage, stageEq, -, follows⟩
    cases stageEq
    have parentAfter : stageAfter .single .fork pid = some (.parent 0) := by
      have notChild : pid ≠ 0 := by omega
      have notFailed : pid ≠ -1 := by omega
      simp [stageAfterFork, notChild, notFailed]
    have spawned : system.spawn .parent .fork pid next = some (.child, next (0 : Int)) :=
      if_pos started
    have both := tracks_fork system tracks found parentAfter spawned
      (follows (0 : Int) (.child 0) rfl)
    rcases quiet with ⟨empty, noReads, noWrites⟩
    refine ⟨.parent 0, some (.child 0), both, noReads, noWrites, by omega, by omega, ?_⟩
    simp [empty]

/-- A step of the only process before the fork. -/
theorem single_step
    (tracks : protocol.Tracks finished (family .single none) config.code)
    (accounts : Accounts trace (config.world .c2p) .single none)
    (found : config.code .parent = some (.call op next))
    (performed : perform config.world .parent op result = some world) :
    Invariant (trace ++ [.call .parent op result])
      ⟨world, system.resume config.code .parent op result next⟩ := by
  rcases tracks.call found with ⟨stage, stageEq, accepted, follows⟩
  cases stageEq
  cases op with
  | pipe => exact advance_parent tracks found rfl rfl (accounts.quiet performed rfl)
  | close => exact advance_parent tracks found rfl rfl (accounts.quiet performed rfl)
  | fork => exact fork_step tracks accounts found performed
  | _ => exact accepted.elim

theorem invariant_step {event : SyncEvent} {target : SyncConfig}
    (invariant : Invariant trace config) (guarded : wholeMessages config event)
    (step : system.step config event = some target) :
    Invariant (trace ++ [event]) target := by
  cases event with
  | external cause => exact cause.elim
  | call role op result =>
      rcases (System.step_call_eq_some_iff _ _ _ _ _ _).mp step with
        ⟨next, world, found, performed, rfl⟩
      rcases invariant with ⟨parent, child, tracks, accounts⟩
      cases parent with
      | single =>
          cases child with
          | none =>
              cases role with
              | parent => exact single_step tracks accounts found performed
              | child =>
                  rcases tracks.call found with ⟨stage, stageEq, -⟩
                  cases stageEq
          | some => exact accounts.elim
      | parent reads =>
          cases child with
          | none => exact accounts.elim
          | some child =>
              cases child with
              | child writes =>
                  cases role with
                  | parent => exact parent_step tracks accounts found guarded performed
                  | child => exact child_step tracks accounts found performed
              | _ => exact accounts.elim
      | child => exact accounts.elim

end Step

theorem start_invariant (beyond : Nat → UInt8) (test : SyncTest) :
    Invariant [] (start beyond test) :=
  ⟨.single, none, tracks_single (run_follows beyond test), rfl, rfl, rfl⟩

/-- A parent that leaves has made both reads. -/
theorem reads_of_leaving {code : Option (Program Ending)} {reads : Nat}
    (tracked : Option.Rel (fun stage code => protocol.Follows finished code stage)
      (some (.parent reads)) code)
    (leaves : leaving code) : reads = 2 := by
  cases tracked with
  | some follows =>
      rename_i code
      cases code with
      | ret value => exact follows
      | call op next =>
          cases op with
          | close pipe side => exact follows.1
          | _ => exact leaves.elim

theorem Invariant.synchronised {trace : List SyncEvent} {config : SyncConfig}
    (invariant : Invariant trace config) : Synchronised trace config := by
  rcases invariant with ⟨parent, child, tracks, accounts⟩
  match parent, child, tracks, accounts with
  | .single, none, tracks, accounts =>
      rcases accounts with ⟨-, noReads, noWrites⟩
      have noChild := tracks .child
      constructor
      · omega
      · intro started
        cases missing : config.code .child with
        | none => exact absurd missing started
        | some code =>
            rw [missing] at noChild
            cases noChild
  | .parent reads, some (.child writes), tracks, accounts =>
      rcases accounts with ⟨readsEq, writesEq, readsLe, writesLe, total⟩
      simp only [pipeBufSize] at total
      constructor
      · omega
      · intro _ leaves
        have bothRead := reads_of_leaving (tracks .parent) leaves
        omega

/-! ## Schedules -/

/-- A program image with zeros behind the literal. -/
def zeros : Nat → UInt8 :=
  fun _ => 0

/-- The steps of `setpgid#0` up to the parent's answer, with a child 5. -/
def firstMessage : List SyncEvent :=
  [.call .parent (.pipe .p2c) (0 : Int), .call .parent (.pipe .c2p) (0 : Int),
    .call .parent .fork (5 : Int), .call .child .getpid (5 : Int),
    .call .child (.getpgid 5) (3 : Int),
    .call .child (.printf "[child] pid=%d, pgid=%d\n" [5, 3]) (),
    .call .child (.write .c2p (syncMessage zeros)) (),
    .call .parent (.read .c2p 16) ((syncMessage zeros).take 16),
    .call .parent (.printf "[parent] now rewrite child pgid\n" []) (),
    .call .parent (.setpgid 5 5) (0 : Int), .call .parent (.write .p2c (syncMessage zeros)) ()]

/-- The rest of the hand-shake: the child's second message and the parent's
second read. -/
def secondMessage : List SyncEvent :=
  [.call .child (.read .p2c 16) ((syncMessage zeros).take 16),
    .call .child (.getpgid 5) (5 : Int),
    .call .child (.printf "[child] pid=%d, pgid=%d\n" [5, 5]) (),
    .call .child (.write .c2p (syncMessage zeros)) (),
    .call .parent (.read .c2p 16) (0 :: (syncMessage zeros).take 15)]

/-- Along every run of either test case in which the parent reads whole
messages and its `setpgid` succeeds, the hand-shake synchronises. -/
theorem handshake_synchronises (beyond : Nat → UInt8) (test : SyncTest)
    (trace : List SyncEvent) (config : SyncConfig)
    (run : GuardedRun system.step wholeMessages (start beyond test) trace config) :
    Synchronised trace config := by
  have invariant := run.invariant (start_invariant beyond test)
    fun _ _ _ _ kept guarded step => invariant_step kept guarded step
  exact invariant.synchronised

/-- A complete hand-shake meets the condition. -/
theorem handshake_synchronises_complete : ∃ config,
    syncReads (firstMessage ++ secondMessage) = 2 ∧
      Synchronised (firstMessage ++ secondMessage) config :=
  ⟨_, by decide, handshake_synchronises zeros .setpgid0 _ _ (GuardedRun.of_execute rfl)⟩

/-- The parent's second sync read returns with the byte left over by the
first, and the parent is done before the child's second message. -/
theorem parent_overtakes_child : ∃ trace config,
    Run system.step (start zeros .setpgid0) trace config ∧ ¬Synchronised trace config := by
  refine ⟨firstMessage ++ [.call .parent (.read .c2p 16) [0]], _, GuardedRun.of_execute rfl, ?_⟩
  intro synchronised
  exact absurd synchronised.1 (by decide)

end McKernelTest.PipeSync
