import McKernelTest.Lv07.Protocol

/-!
# What holds in every state of `lv07-pth`

`Phases` is the phase invariant of the barrier: a thread that is not waiting has
passed it exactly as often as it has opened, and the threads that have printed
are an initial segment, because thread `k` prints in generation `k`.

`Roster` says which threads exist and which of them have returned.
-/

namespace McKernelTest.Lv07

open Posix Process Transition

/-- The number that becomes the limit of processes is positive and at most the hard limit,
and `setrlimit`, `pthread_barrier_init` and every `pthread_create` succeed. -/
structure Regular (env : Environment) (ncpu : Int) : Prop where
  positive : 0 < ncpu
  limit : ncpu ≤ env.rlimMax
  setrlimit : env.setrlimit = 0
  barrierInit : env.barrierInit = 0
  pthreadCreate : ∀ num, env.pthreadCreate num = 0

/-- Thread `num` passes the barrier. -/
def isPass (num : Nat) : ThreadEvent → Bool
  | .call other (.await _) _ => other = num
  | _ => false

/-- How often thread `num` has passed the barrier. -/
def passes (num : Nat) (trace : List ThreadEvent) : Nat :=
  trace.countP (isPass num)

theorem passes_snoc (num : Nat) (trace : List ThreadEvent) (event : ThreadEvent) :
    passes num (trace ++ [event]) = passes num trace + if isPass num event then 1 else 0 := by
  simp [passes, List.countP_singleton]

/-- Updating a function where a projection does not see it. -/
theorem apply_update_of_eq {ι α β : Type} [DecidableEq ι] (project : α → β) (values : ι → α)
    {index : ι} {value : α} (same : project value = project (values index)) (other : ι) :
    project (Function.update values index value other) = project (values other) := by
  by_cases equal : other = index
  · subst equal
    rw [Function.update_self, same]
  · rw [Function.update_of_ne equal]

/-! ## The phase invariant -/

/-- The progress of all threads, the barrier and the lines printed fit
together. -/
structure Phases (threadNum : Nat) (trace : List ThreadEvent) (barrier : Barrier)
    (lines : List (Nat × List UInt8)) (progress : Nat → Progress) : Prop where
  serves : barrier.Serves (Finset.range threadNum) fun num => (progress num).arrivals
  ticket : ∀ num ticket, (progress num).ticket = some ticket →
    ticket = (progress num).passed ∧ (progress num).passed < threadNum
  passed : ∀ num, (progress num).passed ≤ barrier.generation
  counted : ∀ num, passes num trace = (progress num).passed
  ordered : ∃ count, lines.map Prod.fst = List.range count ∧
    ∀ num, (progress num).printed = true ↔ num < count
  early : ∀ num, (progress num).printed = false → (progress num).arrivals ≤ num
  late : ∀ num, (progress num).printed = true → num ≤ (progress num).passed

section Phases

variable {threadNum : Nat} {trace : List ThreadEvent} {barrier : Barrier}
  {lines : List (Nat × List UInt8)} {progress : Nat → Progress}

/-- A thread that is not waiting is in step with the barrier. -/
theorem Phases.passed_eq {num : Nat} (phases : Phases threadNum trace barrier lines progress)
    (known : num < threadNum) (idle : (progress num).ticket = none) :
    (progress num).passed = barrier.generation ∧
      (progress num).arrivals = barrier.generation := by
  have lower := phases.serves.lower num (Finset.mem_range.mpr known)
  have upper := phases.passed num
  have arrivals := Progress.arrivals_of_idle idle
  omega

/-- A step that no thread makes progress with. -/
theorem Phases.idle {event : ThreadEvent}
    (phases : Phases threadNum trace barrier lines progress)
    (noPass : ∀ num, isPass num event = false) :
    Phases threadNum (trace ++ [event]) barrier lines progress where
  serves := phases.serves
  ticket := phases.ticket
  passed := phases.passed
  counted := fun num => by
    rw [passes_snoc, noPass num, phases.counted num]
    rfl
  ordered := phases.ordered
  early := phases.early
  late := phases.late

/-- No thread has to pass the barrier more often than there are threads. -/
theorem Progress.goal_le {num : Nat} (known : num < threadNum) (printed : Bool) :
    Progress.goal threadNum num printed ≤ threadNum := by
  unfold Progress.goal
  split
  · exact Nat.le_refl _
  · exact known.le

/-- The order of the lines depends on who has printed only. -/
theorem Phases.ordered_of_printed {next : Nat → Progress}
    (phases : Phases threadNum trace barrier lines progress)
    (printedSame : ∀ other, (next other).printed = (progress other).printed) :
    ∃ count, lines.map Prod.fst = List.range count ∧
      ∀ num, (next num).printed = true ↔ num < count := by
  rcases phases.ordered with ⟨count, linesEq, printed⟩
  refine ⟨count, linesEq, fun other => ?_⟩
  rw [printedSame]
  exact printed other

/-- An arrival at the barrier. -/
theorem Phases.arrive {num : Nat} {event : ThreadEvent}
    (phases : Phases threadNum trace barrier lines progress) (known : num < threadNum)
    (idle : (progress num).ticket = none)
    (room : (progress num).passed < Progress.goal threadNum num (progress num).printed)
    (noPass : ∀ num, isPass num event = false) :
    Phases threadNum (trace ++ [event]) barrier.arrive lines
      (Function.update progress num
        { progress num with ticket := some barrier.generation }) := by
  rcases phases.passed_eq known idle with ⟨passedEq, arrivalsEq⟩
  have member := Finset.mem_range.mpr known
  have arrivals : (fun other => (Function.update progress num
      { progress num with ticket := some barrier.generation } other).arrivals) =
      Function.update (fun other => (progress other).arrivals) num
        ((progress num).arrivals + 1) := by
    funext other
    by_cases same : other = num
    · subst same
      rw [Function.update_self, Function.update_self, arrivalsEq, ← passedEq]
      rfl
    · rw [Function.update_of_ne same, Function.update_of_ne same]
  have passedSame : ∀ other, (Function.update progress num
      { progress num with ticket := some barrier.generation } other).passed =
      (progress other).passed :=
    apply_update_of_eq Progress.passed progress rfl
  have printedSame : ∀ other, (Function.update progress num
      { progress num with ticket := some barrier.generation } other).printed =
      (progress other).printed :=
    apply_update_of_eq Progress.printed progress rfl
  constructor
  · rw [arrivals]
    exact phases.serves.arrive member arrivalsEq
  · intro other ticket waiting
    rw [passedSame]
    by_cases same : other = num
    · subst same
      rw [Function.update_self] at waiting
      cases waiting
      exact ⟨passedEq.symm, room.trans_le (Progress.goal_le known _)⟩
    · rw [Function.update_of_ne same] at waiting
      exact phases.ticket other ticket waiting
  · intro other
    rw [passedSame]
    exact (phases.passed other).trans barrier.generation_le_arrive
  · intro other
    rw [passedSame, passes_snoc, noPass other, phases.counted other]
    rfl
  · exact phases.ordered_of_printed printedSame
  · intro other unprinted
    rw [printedSame] at unprinted
    by_cases same : other = num
    · subst same
      rw [unprinted] at room
      simp only [Function.update_self, Progress.arrivals]
      exact room
    · rw [Function.update_of_ne same]
      exact phases.early other unprinted
  · intro other printed
    rw [printedSame] at printed
    rw [passedSame]
    exact phases.late other printed

/-- A pass through the open barrier. -/
theorem Phases.await {num ticket : Nat} {done : Unit}
    (phases : Phases threadNum trace barrier lines progress)
    (waiting : (progress num).ticket = some ticket) (opened : ticket < barrier.generation) :
    Phases threadNum (trace ++ [.call num (.await ticket) done]) barrier lines
      (Function.update progress num
        { progress num with passed := (progress num).passed + 1, ticket := none }) := by
  rcases phases.ticket num ticket waiting with ⟨rfl, -⟩
  have arrivals : ∀ other, (Function.update progress num
      { progress num with passed := (progress num).passed + 1, ticket := none } other).arrivals =
      (progress other).arrivals := by
    apply apply_update_of_eq Progress.arrivals
    exact (Progress.arrivals_of_waiting waiting).symm
  have printedSame : ∀ other, (Function.update progress num
      { progress num with passed := (progress num).passed + 1, ticket := none } other).printed =
      (progress other).printed :=
    apply_update_of_eq Progress.printed progress rfl
  constructor
  · simp only [arrivals]
    exact phases.serves
  · intro other ticket found
    by_cases same : other = num
    · subst same
      rw [Function.update_self] at found
      cases found
    · rw [Function.update_of_ne same] at found ⊢
      exact phases.ticket other ticket found
  · intro other
    by_cases same : other = num
    · subst same
      rw [Function.update_self]
      exact opened
    · rw [Function.update_of_ne same]
      exact phases.passed other
  · intro other
    rw [passes_snoc, phases.counted other]
    by_cases same : other = num
    · subst same
      simp [isPass]
    · simp [isPass, Ne.symm same, Function.update_of_ne same]
  · exact phases.ordered_of_printed printedSame
  · intro other unprinted
    rw [printedSame] at unprinted
    rw [arrivals]
    exact phases.early other unprinted
  · intro other printed
    rw [printedSame] at printed
    have before := phases.late other printed
    by_cases same : other = num
    · subst same
      rw [Function.update_self]
      exact before.trans (Nat.le_succ _)
    · rw [Function.update_of_ne same]
      exact before

/-- In the generation of a thread that has not printed yet, all threads below it have
printed and no other has. -/
theorem Phases.printed_of_current {num : Nat}
    (phases : Phases threadNum trace barrier lines progress) (known : num < threadNum)
    (current : progress num = ⟨num, none, false⟩) :
    lines.map Prod.fst = List.range num ∧
      ∀ other, (progress other).printed = true ↔ other < num := by
  have generation : barrier.generation = num := by
    have inStep := (phases.passed_eq known (by rw [current])).1
    rw [current] at inStep
    exact inStep.symm
  have below : ∀ other, other < num → (progress other).printed = true := by
    intro other less
    by_contra unprinted
    have early := phases.early other (by simpa using unprinted)
    have lower := phases.serves.lower other (Finset.mem_range.mpr (less.trans known))
    omega
  rcases phases.ordered with ⟨count, linesEq, printed⟩
  have least : num ≤ count := by
    by_contra less
    have last := (printed count).mp (below count (by omega))
    exact Nat.lt_irrefl count last
  have most : count ≤ num := by
    by_contra more
    have already := (printed num).mpr (by omega)
    rw [current] at already
    contradiction
  have countEq : count = num := by omega
  subst countEq
  exact ⟨linesEq, printed⟩

/-- Thread `num` prints in generation `num`. -/
theorem Phases.print {num : Nat} {line : List UInt8} {event : ThreadEvent}
    (phases : Phases threadNum trace barrier lines progress) (known : num < threadNum)
    (current : progress num = ⟨num, none, false⟩)
    (noPass : ∀ num, isPass num event = false) :
    Phases threadNum (trace ++ [event]) barrier (lines ++ [(num, line)])
      (Function.update progress num { progress num with printed := true }) := by
  rcases phases.printed_of_current known current with ⟨linesEq, printed⟩
  have arrivals : ∀ other, (Function.update progress num
      { progress num with printed := true } other).arrivals = (progress other).arrivals := by
    apply apply_update_of_eq Progress.arrivals
    rw [current]
    rfl
  have passedSame : ∀ other, (Function.update progress num
      { progress num with printed := true } other).passed = (progress other).passed :=
    apply_update_of_eq Progress.passed progress rfl
  have ticketSame : ∀ other, (Function.update progress num
      { progress num with printed := true } other).ticket = (progress other).ticket :=
    apply_update_of_eq Progress.ticket progress rfl
  constructor
  · simp only [arrivals]
    exact phases.serves
  · intro other ticket waiting
    rw [ticketSame] at waiting
    rw [passedSame]
    exact phases.ticket other ticket waiting
  · intro other
    rw [passedSame]
    exact phases.passed other
  · intro other
    rw [passedSame, passes_snoc, noPass other, phases.counted other]
    rfl
  · refine ⟨num + 1, ?_, fun other => ?_⟩
    · rw [List.map_append, linesEq, List.range_succ]
      rfl
    · by_cases same : other = num
      · subst same
        simp
      · rw [Function.update_of_ne same, printed other]
        omega
  · intro other unprinted
    rw [arrivals]
    by_cases same : other = num
    · subst same
      rw [Function.update_self] at unprinted
      contradiction
    · rw [Function.update_of_ne same] at unprinted
      exact phases.early other unprinted
  · intro other printed
    rw [passedSame]
    by_cases same : other = num
    · subst same
      rw [current]
    · rw [Function.update_of_ne same] at printed
      exact phases.late other printed

end Phases

/-! ## The threads -/

/-- The progress with which a thread ends. -/
def Ended (env : Environment) (threadNum num : Nat) (progress : Progress) : Prop :=
  progress = if env.fopen num then .complete threadNum else .init

namespace Stage

/-- The progress of a thread; without a stage for it there is none. -/
def progress : Stage → Progress
  | .active _ progress | .done _ progress | .returned _ progress | .joining _ progress
  | .gone progress => progress
  | .setup | .creating _ | .opening _ | .unopened _ => .init

/-- The stages thread `num` can be in. -/
def Fits (env : Environment) (threadNum num : Nat) : Stage → Prop
  | .setup | .creating _ => num = 0
  | .opening other => other = num ∧ 0 < num
  | .active other _ => other = num ∧ env.fopen num = true
  | .unopened other => other = num ∧ env.fopen num = false
  | .done other progress | .returned other progress =>
      other = num ∧ 0 < num ∧ Ended env threadNum num progress
  | .joining next progress => num = 0 ∧ 0 < next ∧ Ended env threadNum 0 progress
  | .gone progress => num = 0 ∧ Ended env threadNum 0 progress

/-- The threads below this number exist when the main thread is in the given
stage. -/
def created (threadNum : Nat) : Stage → Nat
  | .setup => 1
  | .creating next => next
  | _ => threadNum

/-- The threads below this number have been joined. -/
def joined (threadNum : Nat) : Stage → Nat
  | .joining next _ => next
  | .gone _ => threadNum
  | _ => 1

/-- A thread that has not ended. -/
def Running : Stage → Prop
  | .returned _ _ | .gone _ => False
  | _ => True

theorem Running.ne_returned {stage : Stage} {num : Nat} {progress : Progress}
    (running : stage.Running) : stage ≠ .returned num progress := by
  rintro rfl
  exact running

theorem Running.ne_gone {stage : Stage} {progress : Progress} (running : stage.Running) :
    stage ≠ .gone progress := by
  rintro rfl
  exact running

theorem fits_afterReadWrite {env : Environment} {threadNum num : Nat} {progress : Progress}
    (ended : Ended env threadNum num progress) :
    (afterReadWrite num progress).Fits env threadNum num := by
  unfold afterReadWrite
  split
  · rename_i isMain
    subst isMain
    exact ⟨rfl, Nat.one_pos, ended⟩
  · rename_i isThread
    exact ⟨rfl, Nat.pos_of_ne_zero isThread, ended⟩

theorem fits_afterFopen {env : Environment} {threadNum num : Nat} :
    (afterFopen num (env.fopen num)).Fits env threadNum num := by
  unfold afterFopen
  split
  · rename_i opened
    exact ⟨rfl, opened⟩
  · rename_i failed
    exact ⟨rfl, by simpa using failed⟩

end Stage

/-- Every move leaves a thread in a stage that it can be in. -/
theorem Move.fits {env : Environment} {threadNum num : Nat} {stage following : Stage} {op : Op}
    {result : Res op} {world target : World} (move : Move threadNum stage op result following)
    (fits : stage.Fits env threadNum num)
    (performed : performRunning env world num op result = some target) :
    following.Fits env threadNum num := by
  have told : ∀ opened : Bool, performRunning env world num .fopen opened = some target →
      opened = env.fopen num := by
    intro opened performed
    exact (Option.ite_none_right_eq_some.mp performed).1
  cases move with
  | prepare => exact fits
  | barrierInit => exact fits
  | create => exact fits
  | mainOpen opened =>
      cases fits
      rw [told opened performed]
      exact Stage.fits_afterFopen
  | threadOpen other opened =>
      cases fits.1
      rw [told opened performed]
      exact Stage.fits_afterFopen
  | read => exact fits
  | arrive => exact fits
  | await => exact fits
  | print => exact fits
  | close =>
      cases fits.1
      apply Stage.fits_afterReadWrite
      rw [Ended, if_pos fits.2]
  | report =>
      cases fits.1
      apply Stage.fits_afterReadWrite
      rw [Ended, fits.2, if_neg Bool.false_ne_true]
  | threadReturn => exact fits
  | join next => exact ⟨fits.1, Nat.succ_pos next, fits.2.2⟩
  | exit => exact ⟨fits.1, fits.2.2⟩

/-- Which threads exist, which have returned, and whether `main` has. -/
structure Roster (env : Environment) (threadNum : Nat) (world : World)
    (stages : Nat → Option Stage) : Prop where
  fits : ∀ num stage, stages num = some stage → num < threadNum ∧ stage.Fits env threadNum num
  main : ∃ stage, stages 0 = some stage
  created : ∀ stage, stages 0 = some stage →
    ∀ num, stages num = none ↔ stage.created threadNum ≤ num
  joined : ∀ stage, stages 0 = some stage →
    ∀ num, 0 < num → num < stage.joined threadNum → world.returned num = true
  returned : ∀ num, world.returned num = true ↔
    ∃ progress, stages num = some (.returned num progress)
  exited : world.exited = true ↔ ∃ progress, stages 0 = some (.gone progress)

section Roster

variable {env : Environment} {threadNum num : Nat} {world target : World}
  {stages : Nat → Option Stage} {stage following : Stage}

/-- A thread gets a stage that it can be in. -/
theorem Roster.fits_update (roster : Roster env threadNum world stages) (known : num < threadNum)
    (fits : following.Fits env threadNum num) (other : Nat) (found : Stage)
    (now : Function.update stages num (some following) other = some found) :
    other < threadNum ∧ found.Fits env threadNum other := by
  rcases update_eq_some_iff.mp now with ⟨rfl, rfl⟩ | ⟨-, before⟩
  · exact ⟨known, fits⟩
  · exact roster.fits other found before

/-- A step after which the thread is still running, and that starts no other
thread. -/
theorem Roster.move (roster : Roster env threadNum world stages)
    (current : stages num = some stage) (running : stage.Running)
    (fits : following.Fits env threadNum num) (stillRunning : following.Running)
    (created : following.created threadNum = stage.created threadNum)
    (joined : ∀ other, 0 < other → other < following.joined threadNum →
      other < stage.joined threadNum ∨ world.returned other = true)
    (sameReturned : target.returned = world.returned)
    (sameExited : target.exited = world.exited) :
    Roster env threadNum target (Function.update stages num (some following)) := by
  have main : ∀ found, Function.update stages num (some following) 0 = some found →
      ∃ before, stages 0 = some before ∧
        found.created threadNum = before.created threadNum ∧
        ∀ other, 0 < other → other < found.joined threadNum →
          other < before.joined threadNum ∨ world.returned other = true := by
    intro found now
    rcases update_eq_some_iff.mp now with ⟨rfl, rfl⟩ | ⟨-, before⟩
    · exact ⟨stage, current, created, joined⟩
    · exact ⟨found, before, rfl, fun _ _ less => Or.inl less⟩
  constructor
  · exact roster.fits_update (roster.fits num stage current).1 fits
  · rw [← Option.ne_none_iff_exists', Ne, update_eq_none_iff current]
    exact Option.ne_none_iff_exists'.mpr roster.main
  · intro found now other
    rcases main found now with ⟨before, mainStage, sameCreated, -⟩
    rw [sameCreated, ← roster.created before mainStage other]
    exact update_eq_none_iff current
  · intro found now other positive less
    rcases main found now with ⟨before, mainStage, -, joinedBefore⟩
    rw [sameReturned]
    exact (joinedBefore other positive less).elim
      (roster.joined before mainStage other positive) fun returned => returned
  · intro other
    rw [sameReturned, roster.returned other]
    apply exists_congr
    intro progress
    rw [update_eq_some_iff_of_ne _ stillRunning.ne_returned]
    rw [current]
    exact fun same => running.ne_returned (Option.some.inj same)
  · rw [sameExited, roster.exited]
    apply exists_congr
    intro progress
    rw [update_eq_some_iff_of_ne _ stillRunning.ne_gone]
    rw [current]
    exact fun same => running.ne_gone (Option.some.inj same)

/-- A thread returns. -/
theorem Roster.threadReturn {progress : Progress} (roster : Roster env threadNum world stages)
    (current : stages num = some (.done num progress)) :
    Roster env threadNum { world with returned := Function.update world.returned num true }
      (Function.update stages num (some (.returned num progress))) := by
  rcases roster.fits num _ current with ⟨known, -, positive, ended⟩
  have notMain : 0 ≠ num := positive.ne
  constructor
  · exact roster.fits_update known ⟨rfl, positive, ended⟩
  · rw [Function.update_of_ne notMain]
    exact roster.main
  · intro found now other
    rw [Function.update_of_ne notMain] at now
    rw [← roster.created found now other]
    exact update_eq_none_iff current
  · intro found now other otherPositive less
    rw [Function.update_of_ne notMain] at now
    have before := roster.joined found now other otherPositive less
    change Function.update world.returned num true other = true
    rw [Function.update_apply, before, ite_self]
  · intro other
    change Function.update world.returned num true other = true ↔ _
    by_cases same : other = num
    · subst same
      simp
    · rw [Function.update_of_ne same, Function.update_of_ne same]
      exact roster.returned other
  · rw [Function.update_of_ne notMain]
    exact roster.exited

/-- `main` returns after it has joined all threads. -/
theorem Roster.exit {progress : Progress} (roster : Roster env threadNum world stages)
    (current : stages 0 = some (.joining threadNum progress)) :
    Roster env threadNum { world with exited := true }
      (Function.update stages 0 (some (.gone progress))) := by
  rcases roster.fits 0 _ current with ⟨known, -, -, ended⟩
  constructor
  · exact roster.fits_update known ⟨rfl, ended⟩
  · exact ⟨_, Function.update_self ..⟩
  · intro found now other
    rw [Function.update_self, Option.some.injEq] at now
    subst now
    rw [update_eq_none_iff current]
    exact roster.created _ current other
  · intro found now other positive less
    rw [Function.update_self, Option.some.injEq] at now
    subst now
    exact roster.joined _ current other positive less
  · intro other
    rw [roster.returned other]
    apply exists_congr
    intro progress
    exact (update_eq_some_iff_of_ne (by simp [current]) (by simp)).symm
  · simp

/-- The main thread creates the next thread. -/
theorem Roster.create {next : Nat} (roster : Roster env threadNum world stages)
    (current : stages 0 = some (.creating next)) (room : next < threadNum) :
    Roster env threadNum world
      (Function.update (Function.update stages 0 (some (.creating (next + 1)))) next
        (some (.opening next))) := by
  have unborn : stages next = none := (roster.created _ current next).mpr (Nat.le_refl next)
  have notMain : next ≠ 0 := by
    rintro rfl
    rw [current] at unborn
    cases unborn
  have mainNow : Function.update (Function.update stages 0 (some (Stage.creating (next + 1)))) next
      (some (.opening next)) 0 = some (.creating (next + 1)) := by
    rw [Function.update_of_ne notMain.symm, Function.update_self]
  have known : 0 < threadNum := Nat.zero_lt_of_lt room
  constructor
  · intro other found now
    rcases update_eq_some_iff.mp now with ⟨rfl, rfl⟩ | ⟨-, before⟩
    · exact ⟨room, rfl, Nat.pos_of_ne_zero notMain⟩
    · have mainFits : (Stage.creating (next + 1)).Fits env threadNum 0 := rfl
      exact roster.fits_update known mainFits other found before
  · exact ⟨_, mainNow⟩
  · intro found now other
    rw [mainNow, Option.some.injEq] at now
    subst now
    change _ ↔ next + 1 ≤ other
    have before : stages other = none ↔ next ≤ other := roster.created _ current other
    by_cases isNext : other = next
    · subst isNext
      rw [Function.update_self]
      simp
    · rw [Function.update_of_ne isNext, update_eq_none_iff current, before]
      omega
  · intro found now other positive less
    rw [mainNow, Option.some.injEq] at now
    subst now
    exact absurd less (by simp only [Stage.joined]; omega)
  · intro other
    rw [roster.returned other]
    apply exists_congr
    intro progress
    rw [update_eq_some_iff_of_ne _ (by simp),
      update_eq_some_iff_of_ne (by simp [current]) (by simp)]
    simp [Function.update_of_ne notMain, unborn]
  · rw [roster.exited, mainNow, current]
    simp

end Roster

end McKernelTest.Lv07
