import McKernelTest.Lv07.Invariant

/-!
# Runs of `lv07-pth`

The invariant is established by the start of the program and kept by every step
of every thread, so it holds in all interleavings.
-/

namespace McKernelTest.Lv07

open Posix Process Transition

section After

variable {env : Environment} {threadNum num : Nat} {stage following : Stage} {op : Op}
  {result : Res op} {world target : World}

theorem progress_afterFopen (num : Nat) (opened : Bool) :
    (afterFopen num opened).progress = .init := by
  cases opened <;> rfl

theorem progress_afterReadWrite (num : Nat) (progress : Progress) :
    (afterReadWrite num progress).progress = progress := by
  unfold afterReadWrite
  split <;> rfl

/-- Calls that a thread makes no progress with at the barrier, and that do not
print its line. -/
def Op.aside : Op → Prop
  | .arrive | .await _ | .printLine _ _ => False
  | _ => True

/-- Calls after which the thread runs on, and that start no other thread. -/
def Op.plain : Op → Prop
  | .pthreadCreate _ _ | .threadReturn | .exit _ => False
  | _ => True

theorem Move.progress_eq (move : Move threadNum stage op result following) (aside : op.aside) :
    following.progress = stage.progress := by
  cases move with
  | prepare => rfl
  | barrierInit => rfl
  | create => rfl
  | mainOpen opened => exact progress_afterFopen 0 opened
  | threadOpen other opened => exact progress_afterFopen other opened
  | read => rfl
  | arrive => exact aside.elim
  | await => exact aside.elim
  | print => exact aside.elim
  | close other => exact progress_afterReadWrite other _
  | report other => exact progress_afterReadWrite other _
  | threadReturn => rfl
  | join => rfl
  | exit => rfl

theorem afterFopen_running (threadNum num : Nat) (opened : Bool) :
    (afterFopen num opened).Running ∧ (afterFopen num opened).created threadNum = threadNum ∧
      (afterFopen num opened).joined threadNum = 1 := by
  cases opened <;> exact ⟨trivial, rfl, rfl⟩

theorem afterReadWrite_running (threadNum num : Nat) (progress : Progress) :
    (afterReadWrite num progress).Running ∧
      (afterReadWrite num progress).created threadNum = threadNum ∧
      (afterReadWrite num progress).joined threadNum = 1 := by
  unfold afterReadWrite
  split <;> exact ⟨trivial, rfl, rfl⟩

/-- A plain move is made by a running thread, which runs on, and does not change
which threads exist. -/
theorem Move.running (move : Move threadNum stage op result following) (plain : op.plain) :
    stage.Running ∧ following.Running ∧
      following.created threadNum = stage.created threadNum := by
  cases move with
  | prepare => exact ⟨trivial, trivial, rfl⟩
  | barrierInit => exact ⟨trivial, trivial, rfl⟩
  | create => exact plain.elim
  | mainOpen opened =>
      rcases afterFopen_running threadNum 0 opened with ⟨running, created, -⟩
      exact ⟨trivial, running, created⟩
  | threadOpen other opened =>
      rcases afterFopen_running threadNum other opened with ⟨running, created, -⟩
      exact ⟨trivial, running, created⟩
  | read => exact ⟨trivial, trivial, rfl⟩
  | arrive => exact ⟨trivial, trivial, rfl⟩
  | await => exact ⟨trivial, trivial, rfl⟩
  | print => exact ⟨trivial, trivial, rfl⟩
  | close other =>
      rcases afterReadWrite_running threadNum other (.complete threadNum) with
        ⟨running, created, -⟩
      exact ⟨trivial, running, created⟩
  | report other =>
      rcases afterReadWrite_running threadNum other .init with ⟨running, created, -⟩
      exact ⟨trivial, running, created⟩
  | threadReturn => exact plain.elim
  | join => exact ⟨trivial, trivial, rfl⟩
  | exit => exact plain.elim

/-- A thread counts as joined only after it has returned. -/
theorem Move.joined {other : Nat} (move : Move threadNum stage op result following)
    (plain : op.plain) (performed : performRunning env world num op result = some target)
    (positive : 0 < other) (joined : other < following.joined threadNum) :
    other < stage.joined threadNum ∨ world.returned other = true := by
  have nobody : ¬other < 1 := Nat.not_lt.mpr positive
  cases move with
  | prepare => exact absurd joined nobody
  | barrierInit => exact absurd joined nobody
  | create => exact plain.elim
  | mainOpen =>
      rw [(afterFopen_running ..).2.2] at joined
      exact absurd joined nobody
  | threadOpen =>
      rw [(afterFopen_running ..).2.2] at joined
      exact absurd joined nobody
  | read => exact absurd joined nobody
  | arrive => exact absurd joined nobody
  | await => exact absurd joined nobody
  | print => exact absurd joined nobody
  | close =>
      rw [(afterReadWrite_running ..).2.2] at joined
      exact absurd joined nobody
  | report =>
      rw [(afterReadWrite_running ..).2.2] at joined
      exact absurd joined nobody
  | threadReturn => exact plain.elim
  | join next =>
      have returned : world.returned next = true :=
        (Option.ite_none_right_eq_some.mp performed).1.1
      rcases Nat.lt_succ_iff_lt_or_eq.mp joined with before | rfl
      · exact Or.inl before
      · exact Or.inr returned
  | exit => exact plain.elim

/-- What a plain call leaves of the world. -/
theorem world_after_plain (plain : op.plain)
    (performed : performRunning env world num op result = some target) :
    target.returned = world.returned ∧ target.exited = world.exited := by
  cases op
  all_goals
    simp only [performRunning, Option.ite_none_right_eq_some, Option.some.injEq] at performed
    first
      | exact plain.elim
      | (cases performed; exact ⟨rfl, rfl⟩)
      | (cases performed.2; exact ⟨rfl, rfl⟩)

/-- A call without progress does not touch an initialised barrier or the
lines. -/
theorem world_after_aside (aside : op.aside) (initialised : ∀ count, op ≠ .barrierInit count)
    (performed : performRunning env world num op result = some target) :
    target.barrier = world.barrier ∧ target.lines = world.lines := by
  cases op
  all_goals
    simp only [performRunning, Option.ite_none_right_eq_some, Option.some.injEq] at performed
    first
      | exact aside.elim
      | exact absurd rfl (initialised _)
      | (cases performed; exact ⟨rfl, rfl⟩)
      | (cases performed.2; exact ⟨rfl, rfl⟩)

/-- Only `pthread_barrier_init` ends the setup. -/
theorem Move.setup_iff (move : Move threadNum stage op result following)
    (initialised : ∀ count, op ≠ .barrierInit count) : following = .setup ↔ stage = .setup := by
  cases move with
  | prepare => exact Iff.rfl
  | barrierInit => exact absurd rfl (initialised _)
  | mainOpen opened => cases opened <;> simp [afterFopen]
  | threadOpen _ opened => cases opened <;> simp [afterFopen]
  | close => simp [afterReadWrite, apply_ite (· = Stage.setup)]
  | report => simp [afterReadWrite, apply_ite (· = Stage.setup)]
  | _ => simp

theorem isPass_of_aside (aside : op.aside) (other : Nat) :
    isPass other (.call num op result) = false := by
  cases op
  all_goals first | exact aside.elim | rfl

end After

/-! ## The invariant -/

/-- The progress of every thread, started or not. -/
def progressOf (stages : Nat → Option Stage) (num : Nat) : Progress :=
  (stages num).elim .init Stage.progress

theorem progressOf_update (stages : Nat → Option Stage) (num : Nat) (stage : Stage) :
    progressOf (Function.update stages num (some stage)) =
      Function.update (progressOf stages) num stage.progress := by
  funext other
  by_cases same : other = num
  · subst same
    simp [progressOf]
  · simp [progressOf, same]

/-- Until the main thread has made the barrier nothing is printed or passed; then
the phase invariant holds. -/
structure Coherent (env : Environment) (threadNum : Nat) (trace : List ThreadEvent)
    (world : World) (stages : Nat → Option Stage) : Prop where
  roster : Roster env threadNum world stages
  before : stages 0 = some .setup → (∀ num, passes num trace = 0) ∧ world.lines = []
  phases : stages 0 ≠ some .setup →
    Phases threadNum trace world.barrier world.lines (progressOf stages)

/-- The stages after a call. -/
def stagesAfter (stages : Nat → Option Stage) (num : Nat) (stage : Stage) (op : Op)
    (result : Res op) : Nat → Option Stage :=
  let moved := Function.update stages num (some (stageAfter stage op result))
  match op with
  | .pthreadCreate other _ => Function.update moved other (some (.opening other))
  | _ => moved

section Coherent

variable {env : Environment} {threadNum num : Nat} {trace : List ThreadEvent}
  {world target : World} {stages following : Nat → Option Stage} {stage next : Stage} {op : Op}
  {result : Res op}

/-- The phase invariant looks at the progress of the threads only. -/
theorem Coherent.keep {event : ThreadEvent} (coherent : Coherent env threadNum trace world stages)
    (roster : Roster env threadNum target following)
    (sameProgress : progressOf following = progressOf stages)
    (sameSetup : following 0 = some .setup ↔ stages 0 = some .setup)
    (sameBarrier : target.barrier = world.barrier) (sameLines : target.lines = world.lines)
    (noPass : ∀ num, isPass num event = false) :
    Coherent env threadNum (trace ++ [event]) target following := by
  constructor
  · exact roster
  · intro setup
    rcases coherent.before (sameSetup.mp setup) with ⟨noPasses, noLines⟩
    constructor
    · intro other
      rw [passes_snoc, noPass other, noPasses other]
      rfl
    · exact sameLines.trans noLines
  · intro started
    rw [sameBarrier, sameLines, sameProgress]
    exact (coherent.phases fun setup => started (sameSetup.mpr setup)).idle noPass

/-- The roster after a plain move. -/
theorem Coherent.roster_plain (coherent : Coherent env threadNum trace world stages)
    (current : stages num = some stage) (move : Move threadNum stage op result next)
    (plain : op.plain) (performed : performRunning env world num op result = some target) :
    Roster env threadNum target (Function.update stages num (some next)) := by
  rcases move.running plain with ⟨running, stillRunning, created⟩
  rcases world_after_plain plain performed with ⟨sameReturned, sameExited⟩
  have fits := (coherent.roster.fits num stage current).2
  exact coherent.roster.move current running (move.fits fits performed) stillRunning created
    (fun _ positive => move.joined plain performed positive) sameReturned sameExited

theorem progressOf_update_self (current : stages num = some stage) (next : Stage)
    (same : next.progress = stage.progress) :
    progressOf (Function.update stages num (some next)) = progressOf stages := by
  have here : progressOf stages num = stage.progress := by simp [progressOf, current]
  rw [progressOf_update, same, ← here, Function.update_eq_self]

theorem update_setup_iff (current : stages num = some stage) {next : Stage}
    (same : next = .setup ↔ stage = .setup) :
    Function.update stages num (some next) 0 = some .setup ↔ stages 0 = some .setup := by
  by_cases isMain : 0 = num
  · subst isMain
    rw [Function.update_self, current, Option.some.injEq, Option.some.injEq]
    exact same
  · rw [Function.update_of_ne isMain]

/-- A step of one thread that is no progress. -/
theorem Coherent.move {event : ThreadEvent}
    (coherent : Coherent env threadNum trace world stages) (current : stages num = some stage)
    (roster : Roster env threadNum target (Function.update stages num (some next)))
    (sameProgress : next.progress = stage.progress) (sameSetup : next = .setup ↔ stage = .setup)
    (sameBarrier : target.barrier = world.barrier) (sameLines : target.lines = world.lines)
    (noPass : ∀ num, isPass num event = false) :
    Coherent env threadNum (trace ++ [event]) target (Function.update stages num (some next)) :=
  coherent.keep roster (progressOf_update_self current next sameProgress)
    (update_setup_iff current sameSetup) sameBarrier sameLines noPass

/-- A move that is neither progress nor the start or end of a thread. -/
theorem Coherent.aside (coherent : Coherent env threadNum trace world stages)
    (current : stages num = some stage) (move : Move threadNum stage op result next)
    (plain : op.plain) (aside : op.aside) (initialised : ∀ count, op ≠ .barrierInit count)
    (performed : performRunning env world num op result = some target) :
    Coherent env threadNum (trace ++ [.call num op result]) target
      (Function.update stages num (some next)) := by
  rcases world_after_aside aside initialised performed with ⟨sameBarrier, sameLines⟩
  exact coherent.move current (coherent.roster_plain current move plain performed)
    (move.progress_eq aside) (move.setup_iff initialised) sameBarrier sameLines
    (isPass_of_aside aside)

/-- A thread with the file open runs after the setup. -/
theorem Coherent.made {progress : Progress} (coherent : Coherent env threadNum trace world stages)
    (current : stages num = some (.active num progress)) : stages 0 ≠ some .setup := by
  intro setup
  by_cases isMain : num = 0
  · subst isMain
    rw [current] at setup
    cases setup
  · have unborn := (coherent.roster.created _ setup num).mpr (Nat.pos_of_ne_zero isMain)
    rw [current] at unborn
    cases unborn

theorem progressOf_active {progress : Progress}
    (current : stages num = some (.active num progress)) : progressOf stages num = progress := by
  simp [progressOf, current, Stage.progress]

/-- A move of a thread in `read_write` with the file open that is progress. -/
theorem Coherent.progress {progress made : Progress}
    (coherent : Coherent env threadNum trace world stages)
    (current : stages num = some (.active num progress))
    (move : Move threadNum (.active num progress) op result (.active num made)) (plain : op.plain)
    (performed : performRunning env world num op result = some target)
    (phases : Phases threadNum trace world.barrier world.lines (progressOf stages) →
      progressOf stages num = progress → num < threadNum →
      Phases threadNum (trace ++ [.call num op result]) target.barrier target.lines
        (Function.update (progressOf stages) num made)) :
    Coherent env threadNum (trace ++ [.call num op result]) target
      (Function.update stages num (some (.active num made))) := by
  have afterSetup := coherent.made current
  have sameSetup : Function.update stages num (some (.active num made)) 0 = some .setup ↔
      stages 0 = some .setup := update_setup_iff current (by simp)
  constructor
  · exact coherent.roster_plain current move plain performed
  · exact fun setup => absurd (sameSetup.mp setup) afterSetup
  · intro _
    rw [progressOf_update]
    exact phases (coherent.phases afterSetup) (progressOf_active current)
      (coherent.roster.fits num _ current).1

/-- Before the main thread has made the barrier there is no other thread. -/
theorem Coherent.progressOf_setup (coherent : Coherent env threadNum trace world stages)
    (setup : stages 0 = some .setup) : progressOf stages = fun _ => .init := by
  funext other
  by_cases isMain : other = 0
  · subst isMain
    simp [progressOf, setup, Stage.progress]
  · have unborn := (coherent.roster.created _ setup other).mpr (Nat.pos_of_ne_zero isMain)
    simp [progressOf, unborn]

/-- A new barrier has seen no arrivals. -/
theorem phases_init (positive : 0 < threadNum) (noPasses : ∀ num, passes num trace = 0) :
    Phases threadNum trace ⟨threadNum, 0, 0⟩ [] fun _ => .init where
  serves := by
    constructor
    · exact (Finset.card_range threadNum).symm
    · exact fun _ _ => Nat.zero_le _
    · exact fun _ _ => Nat.zero_le _
    · simp [Progress.init, Progress.arrivals]
    · exact positive
  ticket := fun _ _ waiting => by cases waiting
  passed := fun _ => Nat.le_refl 0
  counted := noPasses
  ordered := ⟨0, rfl, fun num => by simp [Progress.init]⟩
  early := fun num _ => Nat.zero_le num
  late := fun _ printed => by cases printed

theorem Coherent.barrierInit {result : Int}
    (coherent : Coherent env threadNum trace world stages)
    (current : stages num = some .setup)
    (performed : performRunning env world num (.barrierInit threadNum) result = some target) :
    Coherent env threadNum (trace ++ [.call num (.barrierInit threadNum) result]) target
      (Function.update stages num (some (.creating 1))) := by
  rcases coherent.roster.fits num _ current with ⟨known, rfl⟩
  have roster := coherent.roster_plain current (.barrierInit result) trivial performed
  rcases coherent.before current with ⟨noPasses, noLines⟩
  cases (Option.ite_none_right_eq_some.mp performed).2
  have created : Function.update stages 0 (some (Stage.creating 1)) 0 ≠ some .setup := by
    rw [Function.update_self]
    simp
  constructor
  · exact roster
  · exact fun setup => absurd setup created
  · intro _
    rw [progressOf_update_self current (.creating 1) rfl,
      coherent.progressOf_setup current, noLines]
    apply phases_init known
    intro other
    rw [passes_snoc, noPasses other]
    rfl

/-- The main thread creates the next thread, which has made no progress. -/
theorem Coherent.create {created : Nat} {event : ThreadEvent}
    (coherent : Coherent env threadNum trace world stages)
    (current : stages 0 = some (.creating created)) (room : created < threadNum)
    (noPass : ∀ num, isPass num event = false) :
    Coherent env threadNum (trace ++ [event]) world
      (Function.update (Function.update stages 0 (some (.creating (created + 1)))) created
        (some (.opening created))) := by
  have unborn := (coherent.roster.created _ current created).mpr (Nat.le_refl created)
  have notMain : 0 ≠ created := by
    rintro rfl
    rw [current] at unborn
    cases unborn
  apply coherent.keep (coherent.roster.create current room)
  · have unstarted : progressOf stages created = .init := by simp [progressOf, unborn]
    rw [progressOf_update, progressOf_update_self current (.creating (created + 1)) rfl]
    exact Function.update_eq_self_iff.mpr unstarted.symm
  · rw [Function.update_of_ne notMain]
    exact update_setup_iff current (by simp)
  · rfl
  · rfl
  · exact noPass

/-- Every call of every thread keeps the invariant. -/
theorem Coherent.step (coherent : Coherent env threadNum trace world stages)
    (current : stages num = some stage) (accepted : allowed threadNum op stage)
    (performed : performRunning env world num op result = some target) :
    Coherent env threadNum (trace ++ [.call num op result]) target
      (stagesAfter stages num stage op result) := by
  have fits := (coherent.roster.fits num stage current).2
  have move := move_of_allowed accepted result
  generalize stageAfter stage op result = next at move
  cases move with
  | prepare result early =>
      cases op
      all_goals
        first
        | exact early.elim
        | exact coherent.aside current (.prepare result trivial) trivial trivial nofun performed
  | barrierInit => exact coherent.barrierInit current performed
  | create created result room =>
      cases fits
      cases (Option.ite_none_right_eq_some.mp performed).2
      exact coherent.create current room fun _ => rfl
  | mainOpen opened =>
      exact coherent.aside current (.mainOpen opened) trivial trivial nofun performed
  | threadOpen other opened =>
      exact coherent.aside current (.threadOpen other opened) trivial trivial nofun performed
  | read other progress count bytes =>
      exact coherent.aside current
        (.read other progress count bytes) trivial trivial nofun performed
  | arrive other progress ticket idle room =>
      cases fits.1
      apply coherent.progress current (.arrive num progress ticket idle room) trivial performed
      rcases Option.ite_none_right_eq_some.mp performed with ⟨rfl, arrived⟩
      cases arrived
      rintro phases rfl known
      exact phases.arrive known idle room fun _ => rfl
  | await other progress ticket done waiting =>
      cases fits.1
      apply coherent.progress current (.await num progress ticket done waiting) trivial performed
      rcases Option.ite_none_right_eq_some.mp performed with ⟨opened, same⟩
      cases same
      rintro phases rfl known
      exact phases.await waiting opened
  | print other line done =>
      cases fits.1
      apply coherent.progress current (.print num line done) trivial performed
      cases performed
      intro phases here known
      have printed : Phases threadNum (trace ++ [.call num (.printLine num line) done])
          world.barrier (world.lines ++ [(num, line)]) _ := phases.print known here fun _ => rfl
      rw [here] at printed
      exact printed
  | close other done =>
      exact coherent.aside current (.close other done) trivial trivial nofun performed
  | report other text done =>
      exact coherent.aside current (.report other text done) trivial trivial nofun performed
  | threadReturn other progress =>
      cases fits.1
      cases performed
      exact coherent.move current (coherent.roster.threadReturn current) rfl (by simp) rfl rfl
        fun _ => rfl
  | join joined progress result room =>
      exact coherent.aside current (.join joined progress result room) trivial trivial nofun
        performed
  | exit progress =>
      cases fits.1
      cases performed
      exact coherent.move current (coherent.roster.exit current) rfl (by simp) rfl rfl
        fun _ => rfl

end Coherent

/-! ## All runs -/

/-- Every thread follows the protocol, and the stages fit the world. -/
def Invariant (env : Environment) (threadNum : Nat) (ncpu : Int) (trace : List ThreadEvent)
    (config : ThreadConfig) : Prop :=
  ∃ stages, (protocol threadNum ncpu).Tracks finished stages config.code ∧
    Coherent env threadNum trace config.world stages

section Runs

variable {env : Environment} {threadNum : Nat} {ncpu : Int} {trace : List ThreadEvent}
  {config target : ThreadConfig} {event : ThreadEvent}

theorem Regular.result (regular : Regular env ncpu) {world after : World} {num : Nat} {op : Op}
    {result : Res op} (performed : performRunning env world num op result = some after) :
    regularResult ncpu op result = true := by
  cases op
  all_goals
    simp only [performRunning, Option.ite_none_right_eq_some] at performed
    simp [regularResult]
  · simp [performed.1, regular.limit]
  · simp [performed.1, regular.setrlimit]
  · simp [performed.1, regular.barrierInit]
  · simp [performed.1, regular.pthreadCreate]
  · exact performed.1.2

/-- The main thread starts a thread that does not exist yet. -/
theorem Coherent.creates {world : World} {stages : Nat → Option Stage} {num other total : Nat}
    {stage : Stage} (coherent : Coherent env threadNum trace world stages)
    (current : stages num = some stage)
    (accepted : allowed threadNum (.pthreadCreate other total) stage) :
    num = 0 ∧ 0 < other ∧ other < threadNum ∧ total = threadNum ∧ stages other = none := by
  cases stage with
  | creating next =>
      rcases coherent.roster.fits num _ current with ⟨known, rfl⟩
      rcases accepted with ⟨rfl, rfl, room⟩
      have unborn := (coherent.roster.created _ current other).mpr (Nat.le_refl other)
      refine ⟨rfl, Nat.pos_of_ne_zero ?_, room, rfl, unborn⟩
      rintro rfl
      rw [current] at unborn
      cases unborn
  | _ => simp [allowed] at accepted

theorem Invariant.step (regular : Regular env ncpu)
    (invariant : Invariant env threadNum ncpu trace config)
    (stepped : (system env).step config event = some target) :
    Invariant env threadNum ncpu (trace ++ [event]) target := by
  rcases invariant with ⟨stages, tracks, coherent⟩
  cases event with
  | external cause => exact cause.elim
  | call num op result =>
      rcases (System.step_call_eq_some_iff _ _ _ _ _ _).mp stepped with
        ⟨next, world, found, performed, rfl⟩
      rcases tracks.call found with ⟨stage, current, accepted, -⟩
      have running := (Option.ite_none_left_eq_some.mp performed).2
      have after : (protocol threadNum ncpu).after stage op result =
          some (stageAfter stage op result) := by
        rw [protocol_after, if_pos (regular.result running)]
      refine ⟨stagesAfter stages num stage op result, ?_, coherent.step current accepted running⟩
      cases op with
      | pthreadCreate other total =>
          rcases coherent.creates current accepted with ⟨-, positive, room, rfl, -⟩
          have created : createdThread other total result =
              some (other, threadFunction total other) := by
            have zero : result = 0 := by simpa [regularResult] using regular.result running
            rw [createdThread, if_pos zero]
          exact tracks.resume_spawn found current after created
            (threadFunction_follows total ncpu room positive)
      | _ => exact tracks.resume (system env) found current after rfl

theorem Invariant.start {argv : List (List Char)} (program : main argv = mainWith threadNum ncpu)
    (positive : 0 < threadNum) (most : threadNum ≤ maxThreadNum) (regular : Regular env ncpu) :
    Invariant env threadNum ncpu [] (start argv) := by
  refine ⟨fun num => if num = 0 then some .setup else none, ?_, ?_, ?_, ?_⟩
  · intro num
    by_cases isMain : num = 0
    · subst isMain
      simp only [Lv07.start, program]
      exact Option.Rel.some (mainWith_follows threadNum ncpu positive most regular.positive)
    · simp only [Lv07.start, if_neg isMain]
      exact Option.Rel.none
  · constructor
    · intro num stage current
      simp only [Option.ite_none_right_eq_some, Option.some.injEq] at current
      rcases current with ⟨rfl, rfl⟩
      exact ⟨positive, rfl⟩
    · exact ⟨.setup, rfl⟩
    · intro stage current num
      cases current
      simp [Stage.created, Nat.one_le_iff_ne_zero]
    · intro stage current num numPositive joined
      cases current
      exact absurd joined (by simp only [Stage.joined]; omega)
    · intro num
      simp [Lv07.start]
    · simp [Lv07.start]
  · exact fun _ => ⟨fun _ => rfl, rfl⟩
  · exact fun started => absurd rfl started

/-- The invariant holds in every run. -/
theorem Invariant.of_run {argv : List (List Char)} (program : main argv = mainWith threadNum ncpu)
    (positive : 0 < threadNum) (most : threadNum ≤ maxThreadNum) (regular : Regular env ncpu)
    (run : Run (system env).step (Lv07.start argv) trace config) :
    Invariant env threadNum ncpu trace config :=
  run.invariant (Invariant.start program positive most regular)
    fun _ _ _ _ invariant _ stepped => invariant.step regular stepped

end Runs

end McKernelTest.Lv07
