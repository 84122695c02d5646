import McKernelTest.Lv07.Order

/-!
# `lv07-pth` when `fopen` fails

The barrier is made for `thread_num` threads, but a thread that cannot open the
file leaves `read_write` without a single arrival.  The others then wait for it
for ever, and `main` with them.  The program survives only if all threads fail,
none does, or it is refused at the start.
-/

namespace McKernelTest.Lv07

open Posix Process Transition

section Failing

variable {env : Environment} {threadNum num : Nat} {ncpu : Int} {argv : List (List Char)}
  {trace : List ThreadEvent} {config : ThreadConfig} {stages : Nat → Option Stage}

/-- A thread that cannot open the file never arrives. -/
theorem Coherent.progressOf_failing (coherent : Coherent env threadNum trace config.world stages)
    (failing : env.fopen num = false) : progressOf stages num = .init := by
  cases found : stages num with
  | none => simp [progressOf, found]
  | some stage =>
      have fits := (coherent.roster.fits num stage found).2
      have ended : ∀ progress, Ended env threadNum num progress → progress = .init := by
        intro progress ended
        rwa [Ended, failing, if_neg Bool.false_ne_true] at ended
      simp only [progressOf, found, Option.elim_some]
      cases stage with
      | active other progress =>
          have opened : env.fopen num = true := fits.2
          rw [failing] at opened
          cases opened
      | done other progress => exact ended progress fits.2.2
      | returned other progress => exact ended progress fits.2.2
      | joining next progress =>
          cases fits.1
          exact ended progress fits.2.2
      | gone progress =>
          cases fits.1
          exact ended progress fits.2
      | _ => rfl

/-- The barrier never opens without it. -/
theorem Coherent.generation_of_failing
    (coherent : Coherent env threadNum trace config.world stages)
    (made : stages 0 ≠ some .setup) (known : num < threadNum) (failing : env.fopen num = false) :
    config.world.barrier.generation = 0 := by
  have lower := (coherent.phases made).serves.lower num (Finset.mem_range.mpr known)
  rw [coherent.progressOf_failing failing] at lower
  exact Nat.le_zero.mp lower

/-- With one thread that opens the file and one that does not, `main` does not
return. -/
theorem Invariant.not_exited {other : Nat} (invariant : Invariant env threadNum ncpu trace config)
    (known : num < threadNum) (failing : env.fopen num = false)
    (otherKnown : other < threadNum) (opened : env.fopen other = true) :
    config.world.exited = false := by
  rcases invariant with ⟨stages, -, coherent⟩
  by_contra notRunning
  rcases coherent.ended_of_exited (by simpa using notRunning) with ⟨made, ended⟩
  have closed := coherent.generation_of_failing made known failing
  have complete := ended other otherKnown
  rw [Ended, if_pos opened] at complete
  have passed := (coherent.phases made).passed other
  rw [complete, closed] at passed
  have none : threadNum ≤ 0 := passed
  omega

/-- A thread at rest at the barrier of a state where nothing moves is stuck. -/
theorem stuck_of_terminal (terminal : (system env).Terminal config)
    (running : config.world.exited = false)
    (invariant : Invariant env threadNum ncpu trace config) : ∃ num, Stuck env config num := by
  rcases invariant with ⟨stages, tracks, coherent⟩
  rcases exists_waiting_of_terminal terminal running tracks coherent with
    ⟨waiting, progress, -, -, next, found⟩
  refine ⟨waiting, running, _, next, found, ?_⟩
  intro trace final run
  rw [(run.eq_nil_of_stuck terminal).2]

/-- If no thread opens the file, none comes to the barrier. -/
theorem Coherent.not_active {progress : Progress}
    (coherent : Coherent env threadNum trace config.world stages)
    (failing : ∀ num < threadNum, env.fopen num = false) :
    stages num ≠ some (.active num progress) := by
  intro current
  rcases coherent.roster.fits num _ current with ⟨known, -, opened⟩
  rw [failing num known] at opened
  cases opened

theorem Launched.not_stuck_of_failing (launched : Launched env threadNum ncpu argv)
    (failing : ∀ num < threadNum, env.fopen num = false)
    (run : Run (system env).step (start argv) trace config) :
    (∀ num, ¬Stuck env config num) ∧
      ∃ rest final, Run (system env).step config rest final ∧ final.world.exited = true := by
  constructor
  · rintro num ⟨-, ticket, next, found, -⟩
    rcases launched.invariant run with ⟨stages, tracks, coherent⟩
    rcases tracks.call found with ⟨stage, current, accepted, -⟩
    cases stage with
    | active other progress =>
        cases (coherent.roster.fits num _ current).2.1
        exact coherent.not_active failing current
    | _ => exact absurd accepted (by simp [allowed])
  · rcases launched.exists_terminal run with ⟨rest, final, continued, terminal⟩
    rcases launched.invariant (run.append continued) with ⟨stages, tracks, coherent⟩
    refine ⟨rest, final, continued, ?_⟩
    by_contra notExited
    have running : final.world.exited = false := by simpa using notExited
    rcases exists_waiting_of_terminal terminal running tracks coherent with
      ⟨waiting, progress, current, -⟩
    exact coherent.not_active failing current

end Failing

/-! ## Too many threads -/

/-- The message for an invalid number of threads. -/
def refusalMessage : Op :=
  .printf "thread_number invalid, 1 <= thread_num <= %d\n" [maxThreadNum]

/-- What `main` does with an invalid number of threads. -/
def refusal : Program Unit :=
  .call refusalMessage fun _ => exit 0

theorem mainWith_of_many {threadNum : Nat} (ncpu : Int) (many : maxThreadNum < threadNum) :
    mainWith threadNum ncpu = refusal := by
  have invalid : (threadNum : Int) < 1 ∨ (maxThreadNum : Int) < threadNum :=
    Or.inr (Int.ofNat_lt.mpr many)
  rw [mainWith, if_pos invalid]
  rfl

/-- `main` is alone and on its way out. -/
structure Refused (config : ThreadConfig) : Prop where
  alone : ∀ num, num ≠ 0 → config.code num = none
  main : config.code 0 = some refusal ∧ config.world.exited = false ∨
    config.code 0 = some (exit 0) ∧ config.world.exited = false ∨
    config.code 0 = some (.ret ()) ∧ config.world.exited = true

section Refused

variable {env : Environment} {config target : ThreadConfig} {event : ThreadEvent}

/-- The main thread stays alone. -/
theorem resume_alone (env : Environment) (op : Op) (result : Res op)
    (next : Res op → Program Unit) (alone : ∀ num, num ≠ 0 → config.code num = none)
    (single : (system env).spawn 0 op result next = none) :
    (∀ num, num ≠ 0 → (system env).resume config.code 0 op result next num = none) ∧
      (system env).resume config.code 0 op result next 0 = some (next result) := by
  rw [System.resume_self single]
  constructor
  · intro num notMain
    rw [Function.update_of_ne notMain]
    exact alone num notMain
  · exact Function.update_self ..

theorem Refused.step (refused : Refused config)
    (stepped : (system env).step config event = some target) : Refused target := by
  cases event with
  | external cause => exact cause.elim
  | call num op result =>
      rcases (System.step_call_eq_some_iff _ _ _ _ _ _).mp stepped with
        ⟨next, world, found, performed, rfl⟩
      have isMain : num = 0 := by
        by_contra notMain
        rw [refused.alone num notMain] at found
        cases found
      subst isMain
      rcases Option.ite_none_left_eq_some.mp performed with ⟨running, performed⟩
      rcases refused.main with ⟨now, -⟩ | ⟨now, -⟩ | ⟨now, exited⟩
      · rw [now] at found
        cases found
        cases performed
        rcases resume_alone env _ result (fun _ => exit 0) refused.alone rfl with ⟨alone, here⟩
        exact ⟨alone, Or.inr (Or.inl ⟨here, by simpa using running⟩)⟩
      · rw [now] at found
        cases found
        cases performed
        rcases resume_alone env _ result .ret refused.alone rfl with ⟨alone, here⟩
        exact ⟨alone, Or.inr (Or.inr ⟨here, rfl⟩)⟩
      · exact absurd exited running

theorem Refused.not_stuck (refused : Refused config) (num : Nat) : ¬Stuck env config num := by
  rintro ⟨running, ticket, next, found, -⟩
  by_cases isMain : num = 0
  · subst isMain
    rcases refused.main with ⟨now, -⟩ | ⟨now, -⟩ | ⟨now, -⟩
    all_goals
      rw [now] at found
      cases found
  · rw [refused.alone num isMain] at found
    cases found

theorem Refused.exits (refused : Refused config) :
    ∃ rest final, Run (system env).step config rest final ∧ final.world.exited = true := by
  have leaves : ∀ config : ThreadConfig, config.code 0 = some (exit 0) →
      config.world.exited = false →
      ∃ final, Run (system env).step config [.call 0 (.exit 0) ()] final ∧
        final.world.exited = true := by
    intro config now running
    have performed : (system env).perform config.world 0 (.exit 0) () =
        some { config.world with exited := true } := by
      simp [system, perform, running, performRunning]
    have stepped := (System.step_call_eq_some_iff _ _ _ _ _ _).mpr
      ⟨_, _, now, performed, rfl⟩
    exact ⟨_, GuardedRun.single trivial stepped, rfl⟩
  rcases refused.main with ⟨now, running⟩ | ⟨now, running⟩ | ⟨now, exited⟩
  · have performed : (system env).perform config.world 0 refusalMessage () =
        some config.world := by
      simp [system, perform, running, performRunning, refusalMessage]
    have stepped := (System.step_call_eq_some_iff _ _ _ _ _ _).mpr
      ⟨_, _, now, performed, rfl⟩
    have here := (resume_alone env refusalMessage () (fun _ => exit 0) refused.alone rfl).2
    rcases leaves ⟨config.world, (system env).resume config.code 0 refusalMessage ()
      fun _ => exit 0⟩ here running with ⟨final, left, exited⟩
    exact ⟨_, final, (GuardedRun.single trivial stepped).append left, exited⟩
  · rcases leaves config now running with ⟨final, left, exited⟩
    exact ⟨_, final, left, exited⟩
  · exact ⟨[], config, GuardedRun.nil, exited⟩

end Refused

/-! ## Which failures the program survives -/

/-- With a failing `fopen` the program is safe exactly if the number of threads is
refused, all threads open the file, or none does: then no thread is ever stuck at
the barrier and `main` can always get to its end.  In every other case some
reachable state has a thread at the barrier that can never go on. -/
theorem survives_fopen_iff (env : Environment) (program path threadArg ncpuArg : List Char)
    (threadNum : Nat) (given : Text.atoi threadArg = threadNum) (least : 1 ≤ threadNum)
    (regular : Regular env (Text.atoi ncpuArg)) :
    (∀ trace config,
      Run (system env).step (start [program, path, threadArg, ncpuArg]) trace config →
        (∀ num, ¬Stuck env config num) ∧
          ∃ rest final, Run (system env).step config rest final ∧ final.world.exited = true) ↔
      maxThreadNum < threadNum ∨ (∀ num < threadNum, env.fopen num = true) ∨
        ∀ num < threadNum, env.fopen num = false := by
  have launched (most : threadNum ≤ maxThreadNum) :
      Launched env threadNum (Text.atoi ncpuArg) [program, path, threadArg, ncpuArg] :=
    ⟨by rw [main, given], least, most, regular⟩
  constructor
  · intro safe
    by_contra mixed
    push Not at mixed
    rcases mixed with ⟨most, ⟨failing, known, fails⟩, opening, openingKnown, opens⟩
    rcases (launched most).exists_terminal GuardedRun.nil with ⟨trace, final, run, terminal⟩
    have invariant := (launched most).invariant run
    have running := invariant.not_exited known (by simpa using fails) openingKnown
      (by simpa using opens)
    rcases stuck_of_terminal terminal running invariant with ⟨num, stuck⟩
    exact (safe trace final run).1 num stuck
  · intro condition trace config run
    by_cases many : maxThreadNum < threadNum
    · have refused : Refused config := by
        apply run.preserves
        · constructor
          · intro num notMain
            simp [start, notMain]
          · have main : main [program, path, threadArg, ncpuArg] = refusal := by
              rw [main, given, mainWith_of_many _ many]
            simp [start, main]
        · exact fun _ _ _ refused _ stepped => refused.step stepped
      exact ⟨refused.not_stuck, refused.exits⟩
    · have ready := launched (Nat.not_lt.mp many)
      rcases condition with tooMany | opened | failing
      · exact absurd tooMany many
      · exact ready.not_stuck opened run
      · exact ready.not_stuck_of_failing failing run

/-- A system where only the main thread can open the file. -/
def secondFails : Environment :=
  { emptyFile with fopen := fun num => num = 0 }

theorem survives_fopen_iff_two :
    ¬∀ trace config,
      Run (system secondFails).step (start [['p'], ['f'], ['2'], ['8']]) trace config →
        (∀ num, ¬Stuck secondFails config num) ∧
          ∃ rest final, Run (system secondFails).step config rest final ∧
            final.world.exited = true := by
  have regular : Regular secondFails (Text.atoi ['8']) :=
    ⟨by decide, by decide, rfl, rfl, fun _ => rfl⟩
  rw [survives_fopen_iff secondFails ['p'] ['f'] ['2'] ['8'] 2 (by decide) (by decide) regular]
  decide

/-- The second thread leaves, and `main` arrives alone. -/
def mainArrives : List ThreadEvent :=
  [.call 1 .fopen false, .call 1 (.perror "fopen failed: ") (), .call 1 .threadReturn (),
    .call 0 .fopen true, .call 0 (.fread 254) [], .call 0 (.printLine 0 [65, 58]) (),
    .call 0 .arrive (0 : Nat)]

/-- Two threads of which one is at the closed barrier and the other has ended do
not move. -/
theorem terminal_of_waiting {env : Environment} {config : ThreadConfig} {ticket : Nat}
    {next : Unit → Program Unit} (waits : config.code 0 = some (.call (.await ticket) next))
    (closed : config.world.barrier.generation ≤ ticket) (ended : config.code 1 = some (.ret ()))
    (others : ∀ num, config.code (num + 2) = none) : (system env).Terminal config := by
  apply System.step_eq_none_of_refused
  intro num op following result found
  match num with
  | 0 =>
      rw [waits] at found
      cases found
      change perform env config.world 0 (.await ticket) result = none
      simp [perform, performRunning, closed]
  | 1 =>
      rw [ended] at found
      cases found
  | num + 2 =>
      rw [others num] at found
      cases found

/-- With two threads of which the second cannot open the file, `main` waits at the
barrier for ever. -/
theorem failing_thread_blocks_main : ∃ config,
    Run (system secondFails).step (start twoThreads) (mainCreates ++ mainArrives) config ∧
      Stuck secondFails config 0 := by
  refine ⟨_, GuardedRun.of_execute rfl, rfl, 0, _, rfl, ?_⟩
  intro trace final run
  rcases run.eq_nil_of_stuck (terminal_of_waiting rfl (Nat.le_refl 0) rfl fun _ => rfl) with
    ⟨-, same⟩
  rw [same]
  exact Nat.le_refl 0

end McKernelTest.Lv07
