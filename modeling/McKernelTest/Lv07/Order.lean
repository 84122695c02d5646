import McKernelTest.Lv07.Terminal

/-!
# The lines of `lv07-pth` appear in thread order

When every thread can open the file, the barrier keeps all threads in step: no
thread is stuck at it, and thread `k` prints after the threads below it.
-/

namespace McKernelTest.Lv07

open Posix Process Transition

/-- Thread `num` is blocked in `pthread_barrier_wait`, and whatever happens, the
barrier will not open for it. -/
def Stuck (env : Environment) (config : ThreadConfig) (num : Nat) : Prop :=
  config.world.exited = false ∧
    ∃ ticket next, config.code num = some (.call (.await ticket) next) ∧
      ∀ trace final, Run (system env).step config trace final →
        final.world.barrier.generation ≤ ticket

section Order

variable {env : Environment} {threadNum : Nat} {ncpu : Int} {argv : List (List Char)}
  {trace : List ThreadEvent} {config : ThreadConfig} {stages : Nat → Option Stage}

/-- At the end of `main` every thread has ended. -/
theorem Coherent.ended_of_exited (coherent : Coherent env threadNum trace config.world stages)
    (exited : config.world.exited = true) :
    stages 0 ≠ some .setup ∧
      ∀ num < threadNum, Ended env threadNum num (progressOf stages num) := by
  rcases coherent.roster.exited.mp exited with ⟨progress, gone⟩
  constructor
  · rw [gone]
    simp
  · intro num known
    by_cases isMain : num = 0
    · subst isMain
      have ended := (coherent.roster.fits 0 _ gone).2.2
      simpa [progressOf, gone, Stage.progress] using ended
    · have returned := coherent.roster.joined _ gone num (Nat.pos_of_ne_zero isMain) known
      rcases (coherent.roster.returned num).mp returned with ⟨progress, found⟩
      have ended := (coherent.roster.fits num _ found).2.2.2
      simpa [progressOf, found, Stage.progress] using ended

/-- There is no progress beyond the threads. -/
theorem Coherent.progressOf_unknown (coherent : Coherent env threadNum trace config.world stages)
    {num : Nat} (unknown : threadNum ≤ num) : progressOf stages num = .init := by
  cases found : stages num with
  | none => simp [progressOf, found]
  | some stage =>
      have known := (coherent.roster.fits num stage found).1
      omega

/-- The lines printed so far are those of the first threads. -/
theorem Coherent.lines_eq (coherent : Coherent env threadNum trace config.world stages) :
    ∃ count ≤ threadNum, config.world.lines.map Prod.fst = List.range count ∧
      ∀ num, (progressOf stages num).printed = true ↔ num < count := by
  by_cases setup : stages 0 = some .setup
  · refine ⟨0, Nat.zero_le _, ?_, ?_⟩
    · rw [(coherent.before setup).2]
      rfl
    · simp [coherent.progressOf_setup setup, Progress.init]
  · rcases (coherent.phases setup).ordered with ⟨count, lines, printed⟩
    refine ⟨count, ?_, lines, printed⟩
    by_contra more
    have last := (printed threadNum).mpr (Nat.not_le.mp more)
    rw [coherent.progressOf_unknown (Nat.le_refl threadNum)] at last
    cases last

/-- If all threads open the file, then `main` has returned when nothing can move
any more: the thread that the barrier misses could move. -/
theorem exited_of_terminal (opened : ∀ num < threadNum, env.fopen num = true)
    (terminal : (system env).Terminal config)
    (invariant : Invariant env threadNum ncpu trace config) : config.world.exited = true := by
  rcases invariant with ⟨stages, tracks, coherent⟩
  by_contra notExited
  have running : config.world.exited = false := by simpa using notExited
  have atRest : ∀ num stage, stages num = some stage → AtRest threadNum config num stage :=
    fun num stage current => at_rest_of_terminal terminal running tracks coherent current
  rcases exists_waiting_of_terminal terminal running tracks coherent with
    ⟨waiting, progress, current, ticket, -⟩
  have phases := coherent.phases (coherent.made current)
  have early : config.world.barrier.generation < threadNum := by
    rcases phases.ticket waiting _ (progressOf_active current ▸ ticket) with ⟨same, less⟩
    omega
  rcases phases.serves.exists_missing with ⟨missing, member, arrivals⟩
  have known := Finset.mem_range.mp member
  rcases coherent.roster.main with ⟨mainStage, mainCurrent⟩
  have born : stages missing ≠ none := by
    intro unborn
    have beyond := (coherent.roster.created _ mainCurrent missing).mp unborn
    rw [(atRest 0 mainStage mainCurrent).created] at beyond
    exact absurd known (Nat.not_lt.mpr beyond)
  rcases Option.ne_none_iff_exists'.mp born with ⟨stage, found⟩
  have rests := atRest missing stage found
  have fits := (coherent.roster.fits missing stage found).2
  have complete : ∀ progress, Ended env threadNum missing progress →
      stage.progress = progress → False := by
    intro progress ended same
    rw [Ended, if_pos (opened missing known)] at ended
    simp only [progressOf, found, Option.elim_some, same, ended] at arrivals
    exact early.ne' arrivals
  cases stage with
  | active other progress =>
      cases fits.1
      have here := progressOf_active found
      have same := (phases.ticket missing _ (here ▸ rests.1)).1
      have waits := Progress.arrivals_of_waiting rests.1
      rw [here] at arrivals same
      omega
  | joining next progress =>
      cases fits.1
      exact complete progress fits.2.2 rfl
  | returned other progress => exact complete progress fits.2.2 rfl
  | gone progress =>
      cases fits.1
      exact complete progress fits.2 rfl
  | _ => exact rests.elim

/-- A run on from any state to the return of `main` opens the barrier for every
thread that waits. -/
theorem Launched.not_stuck (launched : Launched env threadNum ncpu argv)
    (opened : ∀ num < threadNum, env.fopen num = true)
    (run : Run (system env).step (start argv) trace config) :
    (∀ num, ¬Stuck env config num) ∧
      ∃ rest final, Run (system env).step config rest final ∧ final.world.exited = true := by
  rcases launched.exists_terminal run with ⟨rest, final, continued, terminal⟩
  have ending := launched.invariant (run.append continued)
  have exited := exited_of_terminal opened terminal ending
  refine ⟨?_, rest, final, continued, exited⟩
  rintro num ⟨-, ticket, next, found, closed⟩
  have shut := closed rest final continued
  rcases launched.invariant run with ⟨stages, tracks, coherent⟩
  rcases tracks.call found with ⟨stage, current, accepted, -⟩
  cases stage with
  | active other progress =>
      cases (coherent.roster.fits num _ current).2.1
      have phases := coherent.phases (coherent.made current)
      have early := phases.ticket num ticket (progressOf_active current ▸ accepted)
      rcases ending with ⟨lastStages, -, last⟩
      rcases last.ended_of_exited exited with ⟨made, ended⟩
      have mainEnded := ended 0 launched.positive
      rw [Ended, if_pos (opened 0 launched.positive)] at mainEnded
      have passed := (last.phases made).passed 0
      rw [mainEnded] at passed
      have all : threadNum ≤ final.world.barrier.generation := passed
      omega
  | _ => exact absurd accepted (by simp [allowed])

/-- Thread order without deadlock: with the file open in every thread, no thread
is ever stuck at the barrier, the lines printed so far are always those of the
first threads in order, `main` can always get to its end and nothing stops before
that, and there every thread has passed the barrier `thread_num` times and printed
its line. -/
theorem lines_in_thread_order (program path threadArg ncpuArg : List Char) (threadNum : Nat)
    (given : Text.atoi threadArg = threadNum) (least : 1 ≤ threadNum)
    (most : threadNum ≤ maxThreadNum) (regular : Regular env (Text.atoi ncpuArg))
    (opened : ∀ num < threadNum, env.fopen num = true)
    (run : Run (system env).step (start [program, path, threadArg, ncpuArg]) trace config) :
    (∀ num, ¬Stuck env config num) ∧
      (∃ count ≤ threadNum, config.world.lines.map Prod.fst = List.range count) ∧
      (config.world.exited = true →
        (∀ num < threadNum, passes num trace = threadNum) ∧
          config.world.lines.map Prod.fst = List.range threadNum) ∧
      ((system env).Terminal config → config.world.exited = true) ∧
      ∃ rest final, Run (system env).step config rest final ∧ final.world.exited = true := by
  have launched : Launched env threadNum (Text.atoi ncpuArg) [program, path, threadArg, ncpuArg] :=
    ⟨by rw [main, given], least, most, regular⟩
  rcases launched.not_stuck opened run with ⟨notStuck, finishes⟩
  have invariant := launched.invariant run
  have noDeadlock := fun terminal => exited_of_terminal opened terminal invariant
  rcases invariant with ⟨stages, -, coherent⟩
  rcases coherent.lines_eq with ⟨count, bound, lines, printed⟩
  refine ⟨notStuck, ⟨count, bound, lines⟩, ?_, noDeadlock, finishes⟩
  intro exited
  rcases coherent.ended_of_exited exited with ⟨made, ended⟩
  have complete : ∀ num < threadNum, progressOf stages num = .complete threadNum := by
    intro num known
    have here := ended num known
    rwa [Ended, if_pos (opened num known)] at here
  constructor
  · intro num known
    rw [(coherent.phases made).counted num, complete num known]
    rfl
  · have all : threadNum ≤ count := by
      by_contra fewer
      have unprinted := (printed count).mp (by rw [complete count (by omega)]; rfl)
      exact Nat.lt_irrefl count unprinted
    rw [lines, Nat.le_antisymm bound all]

end Order

/-- A system where everything works and the file is empty. -/
def emptyFile : Environment :=
  ⟨8, 0, 0, fun _ => 0, fun _ => true, fun _ => []⟩

/-- The command line `lv07-pth f 2 8`. -/
def twoThreads : List (List Char) :=
  [['p'], ['f'], ['2'], ['8']]

/-- `main` up to the creation of the second thread. -/
def mainCreates : List ThreadEvent :=
  [.call 0 (.printf "use thread_num = %d.\n" [2]) (), .call 0 .getrlimit (8 : Nat),
    .call 0 (.setrlimit 8) (0 : Int), .call 0 (.barrierInit 2) (0 : Int),
    .call 0 (.pthreadCreate 1 2) (0 : Int)]

/-- The two threads take turns at the barrier. -/
def twoThreadsPrint : List ThreadEvent :=
  [.call 0 .fopen true, .call 1 .fopen true, .call 0 (.fread 254) [], .call 1 (.fread 254) [],
    .call 1 .arrive (0 : Nat), .call 0 (.printLine 0 [65, 58]) (), .call 0 .arrive (0 : Nat),
    .call 1 (.await 0) (), .call 1 (.printLine 1 [66, 58]) (), .call 0 (.await 0) (),
    .call 0 .arrive (1 : Nat), .call 1 .arrive (1 : Nat), .call 0 (.await 1) (), .call 0 .fclose (),
    .call 1 (.await 1) (), .call 1 .fclose (), .call 1 .threadReturn (),
    .call 0 (.pthreadJoin 1) (0 : Int), .call 0 (.exit 0) ()]

theorem lines_in_thread_order_two : ∃ config,
    Run (system emptyFile).step (start twoThreads) (mainCreates ++ twoThreadsPrint) config ∧
      config.world.exited = true ∧ passes 0 (mainCreates ++ twoThreadsPrint) = 2 ∧
      passes 1 (mainCreates ++ twoThreadsPrint) = 2 ∧
      config.world.lines.map Prod.fst = [0, 1] := by
  have run : Run (system emptyFile).step (start twoThreads) (mainCreates ++ twoThreadsPrint) _ :=
    GuardedRun.of_execute rfl
  have regular : Regular emptyFile (Text.atoi ['8']) :=
    ⟨by decide, by decide, rfl, rfl, fun _ => rfl⟩
  have ended := (lines_in_thread_order ['p'] ['f'] ['2'] ['8'] 2 (by decide) (by decide) (by decide)
    regular (fun _ _ => rfl) run).2.2.1 rfl
  exact ⟨_, run, rfl, ended.1 0 (by decide), ended.1 1 (by decide), ended.2⟩

end McKernelTest.Lv07
