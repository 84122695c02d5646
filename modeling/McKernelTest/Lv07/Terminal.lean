import McKernelTest.Lv07.Run
import McKernelTest.Process.Termination

/-!
# How runs of `lv07-pth` end

The program has no unbounded loop, so every state has a run after which nothing
can move.  There `main` has returned, or some thread is waiting at the barrier.
-/

namespace McKernelTest.Lv07

open Posix Process Transition

section Within

theorem waitTimes_within (times : Nat) : Code.Within (2 * times) (waitTimes times) := by
  induction times with
  | zero => exact trivial
  | succ times ih => exact fun _ _ => ih

theorem readWrite_within {threadNum num : Nat} (known : num < threadNum) :
    Code.Within (2 * threadNum + 4) (readWrite threadNum num) := by
  have fclose : Code.Within 1 fclose := fun _ => trivial
  have printed : ∀ line, Code.Within (2 * (threadNum - num) + 1 + 1) (do
      printLine num line
      waitTimes (threadNum - num)
      Lv07.fclose) :=
    fun _ _ => (waitTimes_within (threadNum - num)).bind fun _ => fclose
  have opened : Code.Within (2 * num + (2 * (threadNum - num) + 1 + 1) + 1)
      (readOpened threadNum num) :=
    fun data => (waitTimes_within num).bind fun _ => printed (bufText num data)
  intro result
  cases result with
  | true => exact opened.mono (by omega)
  | false => exact fun _ => trivial

theorem threadFunction_within {threadNum num : Nat} (known : num < threadNum) :
    Code.Within (2 * threadNum + 4 + 1) (threadFunction threadNum num) :=
  (readWrite_within known).bind fun _ _ => trivial

theorem joinThreads_within (i remaining : Nat) :
    Code.Within (remaining + 2) (joinThreads i remaining) := by
  induction remaining generalizing i with
  | zero => exact fun _ => trivial
  | succ remaining ih =>
      rw [Nat.add_right_comm]
      intro ret
      change Code.Within (remaining + 2) (ite _ _ _)
      split
      · exact fun _ _ => Code.within_ret remaining ()
      · exact ih (i + 1)

theorem createThreads_within {threadNum : Nat} (i remaining : Nat) (known : 0 < threadNum) :
    Code.Within (remaining + (3 * threadNum + 6)) (createThreads threadNum i remaining) := by
  induction remaining generalizing i with
  | zero =>
      have joins := joinThreads_within 1 (threadNum - 1)
      have both := (readWrite_within known).bind fun _ => joins
      exact both.mono (by omega)
  | succ remaining ih =>
      rw [Nat.add_right_comm]
      intro ret
      change Code.Within (remaining + (3 * threadNum + 6)) (ite _ _ _)
      split
      · exact fun _ _ => Code.within_ret _ ()
      · exact ih (i + 1)

theorem mainWith_within {threadNum : Nat} (ncpu : Int) (known : 0 < threadNum) :
    Code.Within (threadNum - 1 + (3 * threadNum + 6) + 4) (mainWith threadNum ncpu) := by
  have rest := createThreads_within 1 (threadNum - 1) known
  have message : ∀ budget format values, Code.Within (budget + 2) (do
      printf format values
      exit 0) := fun budget _ _ _ _ => Code.within_ret budget ()
  unfold mainWith
  split
  · exact message _ _ _
  · intro _ rlimMax
    change Code.Within _ (ite _ _ _)
    split
    · exact message _ _ _
    · intro ret
      change Code.Within _ (ite _ _ _)
      split
      · exact message _ _ _
      · intro ret
        change Code.Within _ (ite _ _ _)
        split
        · exact message _ _ _
        · exact rest

end Within

section Terminal

variable {env : Environment} {threadNum num : Nat} {ncpu : Int} {trace : List ThreadEvent}
  {config : ThreadConfig} {stages : Nat → Option Stage} {stage : Stage}

/-- In a running program only a wait for the barrier or for a thread blocks. -/
theorem blocked_of_terminal {op : Op} {next : Res op → Program Unit}
    (terminal : (system env).Terminal config) (running : config.world.exited = false)
    (found : config.code num = some (.call op next)) :
    (∃ ticket, op = .await ticket ∧ config.world.barrier.generation ≤ ticket) ∨
      ∃ other, op = .pthreadJoin other ∧ config.world.returned other = false := by
  have refuses : ∀ result, performRunning env config.world num op result = none := by
    intro result
    have refused : perform env config.world num op result = none :=
      terminal.perform_eq_none found result
    rwa [perform, running, if_neg Bool.false_ne_true] at refused
  cases op with
  | await ticket => exact Or.inl ⟨ticket, rfl, by simpa [performRunning] using refuses ()⟩
  | pthreadJoin other => exact Or.inr ⟨other, rfl, by simpa [performRunning] using refuses 0⟩
  | getrlimit => simpa [performRunning] using refuses env.rlimMax
  | setrlimit cur => simpa [performRunning] using refuses env.setrlimit
  | barrierInit count => simpa [performRunning] using refuses env.barrierInit
  | pthreadCreate other total => simpa [performRunning] using refuses (env.pthreadCreate other)
  | fopen => simpa [performRunning] using refuses (env.fopen num)
  | fread count => simpa [performRunning] using refuses ((env.contents num).take count)
  | arrive => simpa [performRunning] using refuses config.world.barrier.generation
  | _ => exact absurd (refuses ()) (by simp [performRunning])

/-- The threads that can be found in a state where nothing moves: at the closed
barrier, at their end, or joining a thread that is still there. -/
def AtRest (threadNum : Nat) (config : ThreadConfig) (num : Nat) : Stage → Prop
  | .active _ progress =>
      progress.ticket = some config.world.barrier.generation ∧
        ∃ next, config.code num = some (.call (.await config.world.barrier.generation) next)
  | .joining next _ => next < threadNum ∧ config.world.returned next = false
  | .returned _ _ | .gone _ => True
  | _ => False

theorem at_rest_of_terminal (terminal : (system env).Terminal config)
    (running : config.world.exited = false)
    (tracks : (protocol threadNum ncpu).Tracks finished stages config.code)
    (coherent : Coherent env threadNum trace config.world stages)
    (current : stages num = some stage) : AtRest threadNum config num stage := by
  have related := tracks num
  rw [current] at related
  generalize located : config.code num = code at related
  cases related with
  | some follows =>
      rename_i code
      cases code with
      | ret value =>
          cases stage with
          | returned => exact trivial
          | gone => exact trivial
          | _ => exact follows.elim
      | call op next =>
          rcases blocked_of_terminal terminal running located with
            ⟨ticket, rfl, closed⟩ | ⟨other, rfl, missing⟩
          · cases stage with
            | active other progress =>
                have waiting : progress.ticket = some ticket := follows.1
                cases (coherent.roster.fits num _ current).2.1
                have here := progressOf_active current
                have phases := coherent.phases (coherent.made current)
                have passed := phases.passed num
                have isPassed := (phases.ticket num ticket (here ▸ waiting)).1
                have last : ticket = config.world.barrier.generation := by omega
                subst last
                exact ⟨waiting, next, located⟩
            | _ => exact absurd follows.1 (by simp [allowed])
          · cases stage with
            | joining next progress =>
                rcases follows.1 with ⟨rfl, known⟩
                exact ⟨known, missing⟩
            | _ => exact absurd follows.1 (by simp [allowed])

/-- The main thread comes to rest only after it has created all threads. -/
theorem AtRest.created (rests : AtRest threadNum config num stage) :
    stage.created threadNum = threadNum := by
  cases stage with
  | setup => exact rests.elim
  | creating next => exact rests.elim
  | _ => rfl

/-- If nothing moves and `main` has not returned, then some thread waits at the
barrier. -/
theorem exists_waiting_of_terminal (terminal : (system env).Terminal config)
    (running : config.world.exited = false)
    (tracks : (protocol threadNum ncpu).Tracks finished stages config.code)
    (coherent : Coherent env threadNum trace config.world stages) :
    ∃ num progress, stages num = some (.active num progress) ∧
      AtRest threadNum config num (.active num progress) := by
  have atRest : ∀ num stage, stages num = some stage → AtRest threadNum config num stage :=
    fun num stage current => at_rest_of_terminal terminal running tracks coherent current
  rcases coherent.roster.main with ⟨stage, current⟩
  have rests := atRest 0 stage current
  have fits := (coherent.roster.fits 0 stage current).2
  cases stage with
  | active other progress =>
      cases fits.1
      exact ⟨0, progress, current, rests⟩
  | joining next progress =>
      rcases rests with ⟨known, missing⟩
      have born : stages next ≠ none := fun unborn =>
        absurd ((coherent.roster.created _ current next).mp unborn) (Nat.not_le.mpr known)
      rcases Option.ne_none_iff_exists'.mp born with ⟨stage, found⟩
      have nextRests := atRest next stage found
      have nextFits := (coherent.roster.fits next stage found).2
      cases stage with
      | active other progress =>
          cases nextFits.1
          exact ⟨next, progress, found, nextRests⟩
      | returned other progress =>
          cases nextFits.1
          have returned := (coherent.roster.returned next).mpr ⟨progress, found⟩
          rw [missing] at returned
          cases returned
      | joining other progress =>
          exact absurd nextFits.1 fits.2.1.ne'
      | gone progress =>
          have isOver := nextFits.1
          subst isOver
          cases current.symm.trans found
      | _ => exact nextRests.elim
  | returned other progress => exact absurd fits.2.1 (Nat.lt_irrefl 0)
  | gone progress =>
      have exited := coherent.roster.exited.mpr ⟨progress, current⟩
      rw [running] at exited
      cases exited
  | _ => exact rests.elim

end Terminal

/-! ## Reaching the end -/

/-- The program is started with two valid numbers in a regular environment. -/
structure Launched (env : Environment) (threadNum : Nat) (ncpu : Int) (argv : List (List Char)) :
    Prop where
  program : main argv = mainWith threadNum ncpu
  positive : 0 < threadNum
  most : threadNum ≤ maxThreadNum
  regular : Regular env ncpu

section Reaching

variable {env : Environment} {threadNum : Nat} {ncpu : Int} {argv : List (List Char)}
  {trace : List ThreadEvent} {config : ThreadConfig}

theorem Launched.invariant (launched : Launched env threadNum ncpu argv)
    (run : Run (system env).step (start argv) trace config) :
    Invariant env threadNum ncpu trace config :=
  Invariant.of_run launched.program launched.positive launched.most launched.regular run

theorem Invariant.startsFresh (invariant : Invariant env threadNum ncpu trace config) :
    (system env).StartsFresh (Finset.range threadNum) (threadFunction threadNum) config := by
  rcases invariant with ⟨stages, tracks, coherent⟩
  intro num op result next world started begins found performed spawned
  rcases tracks.call found with ⟨stage, current, accepted, -⟩
  cases op with
  | pthreadCreate other total =>
      rcases coherent.creates current accepted with ⟨rfl, positive, room, rfl, unborn⟩
      rcases Option.ite_none_right_eq_some.mp spawned with ⟨-, created⟩
      cases created
      refine ⟨Finset.mem_range.mpr room, positive.ne', ?_, rfl⟩
      have related := tracks started
      rw [unborn] at related
      generalize config.code started = code at related ⊢
      cases related
      rfl
  | _ => cases spawned

theorem Launched.bounded_start (launched : Launched env threadNum ncpu argv) :
    ∃ budget, System.Bounded (Finset.range threadNum) (threadFunction threadNum) budget
      (start argv).code := by
  refine ⟨fun _ => threadNum - 1 + (3 * threadNum + 6) + 4, ?_, ?_⟩
  · intro num foreign
    have notMain : num ≠ 0 := by
      rintro rfl
      exact foreign (Finset.mem_range.mpr launched.positive)
    simp [start, notMain]
  · intro num member
    by_cases isMain : num = 0
    · subst isMain
      have within := mainWith_within ncpu launched.positive
      rw [← launched.program] at within
      exact within
    · simp only [start, if_neg isMain, Option.getD_none]
      exact (threadFunction_within (Finset.mem_range.mp member)).mono (by omega)

/-- The invariant and a bound on what the threads have left to do. -/
def Reachable (env : Environment) (threadNum : Nat) (ncpu : Int) (config : ThreadConfig) : Prop :=
  (∃ trace, Invariant env threadNum ncpu trace config) ∧
    ∃ budget, System.Bounded (Finset.range threadNum) (threadFunction threadNum) budget config.code

theorem Reachable.startsFresh (reachable : Reachable env threadNum ncpu config) :
    (system env).StartsFresh (Finset.range threadNum) (threadFunction threadNum) config := by
  rcases reachable with ⟨⟨trace, invariant⟩, -⟩
  exact invariant.startsFresh

theorem Reachable.step {event : ThreadEvent} {target : ThreadConfig} (regular : Regular env ncpu)
    (reachable : Reachable env threadNum ncpu config)
    (stepped : (system env).step config event = some target) :
    Reachable env threadNum ncpu target := by
  have startsFresh := reachable.startsFresh
  rcases reachable with ⟨⟨trace, invariant⟩, budget, bounded⟩
  rcases bounded.step startsFresh stepped with ⟨smaller, within, -⟩
  exact ⟨⟨_, invariant.step regular stepped⟩, smaller, within⟩

theorem Launched.reachable (launched : Launched env threadNum ncpu argv)
    (run : Run (system env).step (start argv) trace config) :
    Reachable env threadNum ncpu config := by
  apply run.preserves
  · exact ⟨⟨[], launched.invariant GuardedRun.nil⟩, launched.bounded_start⟩
  · exact fun _ _ _ reachable _ stepped => reachable.step launched.regular stepped

/-- Every reachable state has a run to a state where nothing moves. -/
theorem Launched.exists_terminal (launched : Launched env threadNum ncpu argv)
    (run : Run (system env).step (start argv) trace config) :
    ∃ rest final, Run (system env).step config rest final ∧ (system env).Terminal final := by
  have reachable := launched.reachable run
  rcases reachable.2 with ⟨budget, bounded⟩
  rcases bounded.exists_terminal reachable (fun _ reachable => reachable.startsFresh)
      (fun _ _ _ reachable stepped => reachable.step launched.regular stepped) with
    ⟨rest, final, continued, -, terminal⟩
  exact ⟨rest, final, continued, terminal⟩

end Reaching

end McKernelTest.Lv07
