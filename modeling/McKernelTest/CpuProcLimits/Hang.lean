import McKernelTest.CpuProcLimits.Step

/-!
# Reading the answer of a dead child

The parent closes its copy of a child's answer pipe before it forks the next
child, so the write end is held by that child alone and a read ends when the
child is gone.  The pipe of the last child is not closed in the parent: when
that child is killed before it has answered, the parent waits for itself.
-/

namespace McKernelTest.CpuProcLimits

open Posix Process Transition

/-- The parent is blocked in the read of child `i`'s answer: the pipe is empty,
the child is gone, and some process still holds a write end. -/
structure HangsOn (config : LimitsConfig) (i : Nat) : Prop where
  living : config.world.alive .parent = true
  reading : ∃ count next, config.code .parent = some (.call (.read (c2pRead i) count) next)
  empty : config.world.queue (.c2p i) = []
  started : config.code (.child i) ≠ none
  gone : config.world.alive (.child i) = false
  writable : config.world.isOpen (c2pWrite i) = true

/-- A parent that hangs waits for the last child, which was killed before it
answered. -/
theorem Invariant.of_hangsOn {last : Nat} {trace : List LimitsEvent} {config : LimitsConfig}
    {i : Nat} (invariant : Invariant last trace config) (hangs : HangsOn config i) :
    i = last ∧ KilledSilent i trace := by
  rcases invariant with ⟨stage, phases, isParent, tracks, descriptors, children⟩
  rcases hangs.reading with ⟨count, next, found⟩
  rcases tracks.call found with ⟨current, state, accepted, -⟩
  cases state
  cases stage with
  | parent lo hi write =>
      rcases accepted with ⟨same, rfl⟩
      cases same
      have notPast : ¬ParentPast config.world (.parent i hi (some last)) i := by
        rintro (dead | past)
        · rw [hangs.living] at dead
          contradiction
        · exact Nat.lt_irrefl i past
      constructor
      · rcases (isOpen_iff _ _).mp hangs.writable with ⟨pid, held⟩
        cases pid with
        | parent =>
            have holds : some last = some i := descriptors.parentWrites i held
            exact (Option.some.inj holds).symm
        | child id =>
            have same := descriptors.childWrites id i held
            have living := descriptors.living _ _ held
            rw [← same, hangs.gone] at living
            contradiction
      · have tracked := tracks (.child i)
        cases current : phases i with
        | none =>
            simp only [stagesOf, current, Option.map_none] at tracked
            cases missing : config.code (.child i) with
            | none => exact absurd missing hangs.started
            | some code =>
                rw [missing] at tracked
                cases tracked
        | some phase =>
            rcases children.killed i phase current hangs.gone with killed | rfl | rfl
            · exact killed
            · rcases children.answered i current with nonempty | past
              · exact absurd hangs.empty nonempty
              · exact absurd past notPast
            · exact absurd (children.leaving i current) notPast
  | piping => cases accepted
  | ready => cases accepted
  | lost => cases accepted
  | child => exact isParent.elim

/-- No run hangs in which the last child is not killed before its answer,
whatever happens to the other children. -/
theorem read_never_hangs (beyond : Nat → UInt8) (procNum cpuNum : Int)
    (trace : List LimitsEvent) (config : LimitsConfig)
    (run : Run system.step (start beyond procNum cpuNum) trace config)
    (lastAnswers : ¬KilledSilent (procNum.toNat - 1) trace) (i : Nat) :
    ¬HangsOn config i := by
  intro hangs
  have invariant := run.invariant (start_invariant beyond procNum cpuNum)
    fun _ _ _ _ kept _ step => invariant_step kept step
  rcases invariant.of_hangsOn hangs with ⟨rfl, killed⟩
  exact lastAnswers killed

/-! ## Schedules -/

/-- Zeros behind the message of the parent. -/
def zeros : Nat → UInt8 :=
  fun _ => 0

/-- The calls before the forks. -/
def opening (procNum : Int) : List LimitsEvent :=
  [.call .parent .getrlimit (1 : Nat), .call .parent (.setrlimit 1) (0 : Int),
    .call .parent (.calloc procNum) (4096 : Nat)]

/-- The parent makes the pipes of child `i` and forks it. -/
def forks (i : Nat) (pid : Int) : List LimitsEvent :=
  [.call .parent (.pipe (.p2c i)) (0 : Int), .call .parent (.pipe (.c2p i)) (0 : Int),
    .call .parent (.fork i) pid]

/-- The bytes of a kick. -/
def kickBytes : List UInt8 :=
  literalBytes "1234567890" zeros 17

/-- The parent's steps from the last fork to the first read. -/
def kicks (procNum : Nat) : List LimitsEvent :=
  .call .parent .getpid (6 : Nat) ::
    (List.range procNum).map (fun i => .call .parent (.write (p2cWrite i) kickBytes) ()) ++
    [.call .parent (.printf "Wait children's process will be finished. (about %dsec...)\n" [3]) ()]

/-- The steps of a child up to its kick. -/
def kicked (i : Nat) : List LimitsEvent :=
  [.call (.child i) (.close (p2cWrite i)) (), .call (.child i) (.close (c2pRead i)) (),
    .call (.child i) (.read (p2cRead i) 16) (kickBytes.take 16)]

/-- The steps of a child from its kick to its answer. -/
def answers (i pid : Nat) : List LimitsEvent :=
  [.call (.child i) (.sleep 3) (), .call (.child i) .getpid pid,
    .call (.child i) (.write (c2pWrite i) (answerBytes pid)) ()]

/-- Of two children the first is killed after its kick, and the last one answers. -/
def firstKilled : List LimitsEvent :=
  opening 2 ++ forks 0 7 ++
    [.call .parent (.close (p2cRead 0)) (), .call .parent (.close (c2pWrite 0)) ()] ++
    forks 1 8 ++ kicks 2 ++ kicked 0 ++ [.external 0] ++ kicked 1 ++ answers 1 8

theorem read_never_hangs_answered : ∃ config,
    Run system.step (start zeros 2 1) firstKilled config ∧
      config.world.alive (.child 0) = false ∧ config.world.queue (.c2p 0) = [] ∧
      ∀ i, ¬HangsOn config i := by
  refine ⟨_, GuardedRun.of_execute rfl, rfl, rfl,
    read_never_hangs zeros 2 1 firstKilled _ (GuardedRun.of_execute rfl) ?_⟩
  rintro ⟨before, after, split, -⟩
  have killed : Event.external 1 ∈ firstKilled := by
    rw [split]
    simp
  simp [firstKilled, opening, forks, kicks, kicked, answers] at killed

/-- The only child is killed before its kick, and the parent waits for its own
write end. -/
theorem killed_child_hangs_parent : ∃ trace config,
    Run system.step (start zeros 1 1) trace config ∧ HangsOn config 0 := by
  refine ⟨opening 1 ++ forks 0 7 ++ [.external 0] ++ kicks 1, _, GuardedRun.of_execute rfl, ?_⟩
  exact ⟨rfl, ⟨_, _, rfl⟩, rfl, nofun, rfl, rfl⟩

end McKernelTest.CpuProcLimits
