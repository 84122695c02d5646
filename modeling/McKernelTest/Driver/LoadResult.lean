import McKernelTest.Driver.Lifetime

/-!
# What the load reports

One variable carries the result of every step of `test_mck_setup`, and every
failure jumps to the same label.  A failing `class_create` is the one step that
does not store its result: the variable still holds the 0 of the step before.
-/

namespace McKernelTest.Driver

/-- Every step of the load whose result the code looks at succeeds. -/
structure LoadSucceeds (kernel : KernelCalls) (devlist : List TestMckDev) : Prop where
  region : ∃ devno, kernel.allocChrdevRegion = .ok devno
  devices : ForDevs (DevAccepted kernel) 0 devlist
  procDir : kernel.procMkdir = true
  procFiles : ∀ i < (DriverState.initial devlist).procEnts.length, kernel.procCreateData i = true

/-- The device loop from device `i` on gets as far as a `class_create` that
fails. -/
def ClassCreateStops (kernel : KernelCalls) (i : Nat) (devs : List TestMckDev) : Prop :=
  ∃ j < devs.length, ForDevs (DevAccepted kernel) i (devs.take j) ∧
    kernel.classCreate (i + j) = false

/-- The load fails at a `class_create`. -/
def FailsAtClassCreate (kernel : KernelCalls) (devlist : List TestMckDev) : Prop :=
  (∃ devno, kernel.allocChrdevRegion = .ok devno) ∧ ClassCreateStops kernel 0 devlist

/-- The load returns 0 exactly if every step has succeeded, and a negative error
code otherwise. -/
def Truthful (kernel : KernelCalls) (devlist : List TestMckDev) : Prop :=
  ((testMckInit kernel (.initial devlist)).1 = 0 ↔ LoadSucceeds kernel devlist) ∧
    (¬LoadSucceeds kernel devlist → (testMckInit kernel (.initial devlist)).1 < 0)

section DeviceLoop

variable {kernel : KernelCalls} {i : Nat} {dev : TestMckDev} {devs : List TestMckDev}
  {loop : LoopState}

theorem classCreateStops_cons :
    ClassCreateStops kernel i (dev :: devs) ↔
      kernel.classCreate i = false ∨
        DevAccepted kernel i dev ∧ ClassCreateStops kernel (i + 1) devs := by
  constructor
  · rintro ⟨j, bound, accepted, fails⟩
    cases j with
    | zero => exact Or.inl fails
    | succ j =>
        rw [List.take_succ_cons, forDevs_cons] at accepted
        rw [Nat.add_comm j 1, ← Nat.add_assoc] at fails
        exact Or.inr ⟨accepted.1, j, Nat.lt_of_succ_lt_succ bound, accepted.2, fails⟩
  · rintro (fails | ⟨accepted, j, bound, others, fails⟩)
    · exact ⟨0, Nat.succ_pos _, forDevs_nil _ _, fails⟩
    · refine ⟨j + 1, Nat.succ_lt_succ bound, ?_, ?_⟩
      · rw [List.take_succ_cons, forDevs_cons]
        exact ⟨accepted, others⟩
      · rw [Nat.add_comm j 1, ← Nat.add_assoc]
        exact fails

theorem cdevAddResult_neg (notAdded : kernel.cdevAdd i ≠ none) : kernel.cdevAddResult i < 0 := by
  unfold KernelCalls.cdevAddResult
  cases added : kernel.cdevAdd i with
  | none => exact absurd added notAdded
  | some error => exact error.negative

theorem init_neg {allocated : Option VmallocArea} (failed : (dev.init allocated).1 ≠ 0) :
    (dev.init allocated).1 < 0 := by
  cases ops : dev.ops with
  | mmapDev => simp [TestMckDev.init, ops, testMckMmapDevInit] at failed
  | mmapDev2 =>
      cases allocated with
      | none => simp [TestMckDev.init, ops, testMckMmapDev2Init, enomem]
      | some area => simp [TestMckDev.init, ops, testMckMmapDev2Init] at failed

/-- What the loop body leaves in `res`: 0 after a device that is accepted, the
old value after a failing `class_create`, and an error code after any other
failure. -/
theorem setupDev_res (kernel : KernelCalls) (i : Nat) (dev : TestMckDev) (loop : LoopState)
    (sizeof majorNumber : Nat) :
    (DevAccepted kernel i dev → (setupDev kernel sizeof majorNumber i loop dev).2.1.res = 0) ∧
      (kernel.classCreate i = false →
        (setupDev kernel sizeof majorNumber i loop dev).2.1.res = loop.res) ∧
      (kernel.classCreate i = true → ¬DevAccepted kernel i dev →
        (setupDev kernel sizeof majorNumber i loop dev).2.1.res < 0) := by
  refine ⟨fun accepted => ?_, fun fails => ?_, fun created refused => ?_⟩
  · have added := (cdevAddResult_eq_zero_iff kernel i).mpr accepted.cdevAdd
    simp only [setupDev, accepted.classCreate, if_true, added, ne_eq, not_true_eq_false, if_false]
    exact (init_eq_zero_iff _ _).mpr accepted.init
  · simp [setupDev, fails]
  · by_cases added : kernel.cdevAdd i = none
    · have zero := (cdevAddResult_eq_zero_iff kernel i).mpr added
      simp only [setupDev, created, if_true, zero, ne_eq, not_true_eq_false, if_false]
      apply init_neg
      rw [ne_eq, init_eq_zero_iff]
      exact fun allocated => refused ⟨created, added, allocated⟩
    · have negative := cdevAddResult_neg added
      simp only [setupDev, created, if_true, ne_eq, negative.ne, not_false_eq_true]
      exact negative

/-- The device loop, entered with 0 in `res`, is left with 0 if it finishes or
stops at a `class_create`, and with an error code otherwise. -/
theorem setupDevs_res (sizeof majorNumber : Nat) (zero : loop.res = 0) :
    (ForDevs (DevAccepted kernel) i devs ∨ ClassCreateStops kernel i devs →
        (setupDevs kernel sizeof majorNumber i loop devs).2.1.res = 0) ∧
      (¬ForDevs (DevAccepted kernel) i devs → ¬ClassCreateStops kernel i devs →
        (setupDevs kernel sizeof majorNumber i loop devs).2.1.res < 0) := by
  induction devs generalizing i loop with
  | nil => exact ⟨fun _ => zero, fun unfinished => absurd (forDevs_nil _ _) unfinished⟩
  | cons dev rest ih =>
      obtain ⟨done, kept, failed⟩ :=
        setupDev_res kernel i dev loop sizeof majorNumber
      have finished := setupDev_finished_iff kernel sizeof majorNumber i loop dev
      rw [forDevs_cons, classCreateStops_cons, setupDevs]
      rcases body : setupDev kernel sizeof majorNumber i loop dev with ⟨_ | _, next, dev'⟩
      · rw [body] at done kept failed finished
        have refused : ¬DevAccepted kernel i dev :=
          fun accepted => by simpa using finished.mpr accepted
        refine ⟨?_, fun _ noStop => failed ?_ refused⟩
        · rintro (⟨accepted, _⟩ | fails | ⟨accepted, _⟩)
          · exact absurd accepted refused
          · exact (kept fails).trans zero
          · exact absurd accepted refused
        · by_contra fails
          exact noStop (Or.inl (by simpa using fails))
      · rw [body] at done finished
        have accepted := finished.mp rfl
        obtain ⟨finishes, fails⟩ := ih (i := i + 1) (done accepted)
        refine ⟨?_, fun unfinished noStop => fails ?_ ?_⟩
        · rintro (⟨_, others⟩ | impossible | ⟨_, stops⟩)
          · exact finishes (Or.inl others)
          · simp [accepted.classCreate] at impossible
          · exact finishes (Or.inr stops)
        · exact fun others => unfinished ⟨accepted, others⟩
        · exact fun stops => noStop (Or.inr ⟨accepted, stops⟩)

end DeviceLoop

/-- `test_mck_init_procfs` returns 0 if the directory and all files are created,
and `-ENOMEM` otherwise. -/
theorem testMckInitProcfs_res (kernel : KernelCalls) (state : DriverState) :
    (testMckInitProcfs kernel state).1 =
      if kernel.procMkdir = true ∧ ∀ j < state.procEnts.length, kernel.procCreateData j = true
      then 0 else enomem.code := by
  have finished := initProcEnts_finished_iff kernel 0 state.procEnts
  simp only [Nat.zero_add] at finished
  by_cases made : kernel.procMkdir = true
  · simp only [testMckInitProcfs, made, if_true, true_and, finished]
  · simp [testMckInitProcfs, made]

/-- The result of a load whose device loop finishes is that of the proc files. -/
theorem testMckInit_of_finished {kernel : KernelCalls} {devlist : List TestMckDev} {devno : Nat}
    (region : kernel.allocChrdevRegion = .ok devno)
    (accepted : ForDevs (DevAccepted kernel) 0 devlist) :
    (testMckInit kernel (.initial devlist)).1 =
      (testMckInitProcfs kernel (afterDevLoop kernel (major devno) (.initial devlist))).1 := by
  have finished : (runDevLoop kernel (major devno) (.initial devlist)).1 = true :=
    (setupDevs_finished_iff _ _ _ _ _ _).mpr accepted
  simp only [testMckInit, testMckSetup, region, finished, if_true]
  split
  · rfl
  · rename_i zero
    exact (not_not.mp zero).symm

/-- The result of a load that leaves the device loop early is what `res` holds
there. -/
theorem testMckInit_of_unfinished {kernel : KernelCalls} {devlist : List TestMckDev} {devno : Nat}
    (region : kernel.allocChrdevRegion = .ok devno)
    (refused : ¬ForDevs (DevAccepted kernel) 0 devlist) :
    (testMckInit kernel (.initial devlist)).1 =
      (runDevLoop kernel (major devno) (.initial devlist)).2.1.res := by
  have unfinished : ¬(runDevLoop kernel (major devno) (.initial devlist)).1 = true :=
    fun finished => refused ((setupDevs_finished_iff _ _ _ _ _ _).mp finished)
  simp only [testMckInit, testMckSetup, region, unfinished]
  rfl

/-- A failing `class_create` is reported as success. -/
theorem testMckInit_failsAtClassCreate {kernel : KernelCalls} {devlist : List TestMckDev}
    (fails : FailsAtClassCreate kernel devlist) :
    (testMckInit kernel (.initial devlist)).1 = 0 ∧ ¬LoadSucceeds kernel devlist := by
  obtain ⟨⟨devno, region⟩, stops⟩ := fails
  have refused : ¬ForDevs (DevAccepted kernel) 0 devlist := by
    obtain ⟨j, bound, _, failed⟩ := stops
    intro accepted
    have created := (accepted j devlist[j] (List.getElem?_eq_getElem bound)).classCreate
    rw [failed] at created
    exact Bool.false_ne_true created
  refine ⟨?_, fun success => refused success.devices⟩
  rw [testMckInit_of_unfinished region refused]
  exact (setupDevs_res _ _ rfl).1 (Or.inr stops)

theorem testMckInit_loadSucceeds {kernel : KernelCalls} {devlist : List TestMckDev}
    (success : LoadSucceeds kernel devlist) : (testMckInit kernel (.initial devlist)).1 = 0 := by
  obtain ⟨devno, region⟩ := success.region
  rw [testMckInit_of_finished region success.devices, testMckInitProcfs_res, if_pos]
  exact ⟨success.procDir, success.procFiles⟩

/-- Every failure but that of a `class_create` is reported by an error code. -/
theorem testMckInit_neg {kernel : KernelCalls} {devlist : List TestMckDev}
    (failure : ¬LoadSucceeds kernel devlist) (noClass : ¬FailsAtClassCreate kernel devlist) :
    (testMckInit kernel (.initial devlist)).1 < 0 := by
  cases region : kernel.allocChrdevRegion with
  | error error =>
      simp only [testMckInit, testMckSetup, region]
      exact error.negative
  | ok devno =>
      by_cases accepted : ForDevs (DevAccepted kernel) 0 devlist
      · rw [testMckInit_of_finished region accepted, testMckInitProcfs_res, if_neg]
        · exact enomem.negative
        · rintro ⟨made, files⟩
          exact failure ⟨⟨devno, region⟩, accepted, made, files⟩
      · rw [testMckInit_of_unfinished region accepted]
        exact (setupDevs_res _ _ rfl).2 accepted fun stops => noClass ⟨⟨devno, region⟩, stops⟩

/-- The load result is truthful exactly if the load does not fail at a
`class_create`. -/
theorem truthful_iff (kernel : KernelCalls) (devlist : List TestMckDev) :
    Truthful kernel devlist ↔ ¬FailsAtClassCreate kernel devlist := by
  constructor
  · rintro ⟨zero, _⟩ fails
    obtain ⟨returned, failure⟩ := testMckInit_failsAtClassCreate fails
    exact failure (zero.mp returned)
  · intro noClass
    have negative : ¬LoadSucceeds kernel devlist →
        (testMckInit kernel (.initial devlist)).1 < 0 :=
      fun failure => testMckInit_neg failure noClass
    refine ⟨⟨fun returned => ?_, testMckInit_loadSucceeds⟩, negative⟩
    by_contra failure
    exact (negative failure).ne returned

/-- A load in which only the second `class_create` fails. -/
def secondClassFails : KernelCalls where
  allocChrdevRegion := .ok (mkdev 240 0)
  classCreate := fun i => decide (i = 0)
  cdevAdd := fun _ => none
  deviceCreate := fun _ => true
  vmallocUser := fun _ => none
  procMkdir := true
  procCreateData := fun _ => true

/-- The driver's own devices with the second `class_create` failing: the load is
reported as a success. -/
theorem classCreate_failure_not_truthful : ¬Truthful secondClassFails testMckDevlist := by
  rintro ⟨zero, _⟩
  have accepted := (zero.mp (by decide)).devices 1 _ rfl
  exact Bool.false_ne_true accepted.classCreate

end McKernelTest.Driver
