import McKernelTest.Driver.Setup
import Mathlib.Data.List.Perm.Basic

/-!
# The resource ledger of the driver's life

One cleanup routine serves both the failing paths of `test_mck_setup` and
`test_mck_exit`.  It removes the proc directory unconditionally and walks over
all devices, so it matches the acquisitions only once the directory exists and
every device went through the whole loop body.  From then on it is exact: the
proc files are guarded by their pointers.
-/

namespace McKernelTest.Driver

open Ledger

/-! ## What cleaning up books -/

/-- The bookings of `test_mck_cleanup` in a given state. -/
def cleanupEntries (state : DriverState) : List (Entry Resource) :=
  (cleanupProcEnts 0 state.procEnts).1 ++ [.release .procDir] ++
    (cleanupDevs 0 state.devlist).1 ++ [.release .chrdevRegion]

theorem testMckCleanup_ledger (state : DriverState) :
    (testMckCleanup state).ledger = state.ledger ++ cleanupEntries state := by
  simp [testMckCleanup, testMckCleanupProcfs, DriverState.book, cleanupEntries]

theorem cleanupProcEnts_release {i : Nat} {ents : List ProcEnt} {entry : Entry Resource}
    (member : entry ∈ (cleanupProcEnts i ents).1) : ∃ resource, entry = .release resource := by
  induction ents generalizing i with
  | nil => simp [cleanupProcEnts] at member
  | cons ent rest ih =>
      simp only [cleanupProcEnts] at member
      split at member
      · rcases List.mem_cons.mp member with rfl | member
        · exact ⟨_, rfl⟩
        · exact ih member
      · exact ih member

theorem fin_release {i : Nat} {dev : TestMckDev} {entry : Entry Resource}
    (member : entry ∈ (dev.fin i).1) : ∃ resource, entry = .release resource := by
  unfold TestMckDev.fin at member
  split at member
  · exact ⟨_, List.mem_singleton.mp member⟩
  · simp at member

theorem cleanupDev_release {i : Nat} {dev : TestMckDev} {entry : Entry Resource}
    (member : entry ∈ (cleanupDev i dev).1) : ∃ resource, entry = .release resource := by
  simp only [cleanupDev, List.mem_append, List.mem_singleton] at member
  rcases member with (member | rfl) | member
  · exact fin_release member
  · exact ⟨_, rfl⟩
  · split at member
    · simp at member
    · rcases List.mem_cons.mp member with rfl | member
      · exact ⟨_, rfl⟩
      · exact ⟨_, List.mem_singleton.mp member⟩

theorem cleanupDevs_release {i : Nat} {devs : List TestMckDev} {entry : Entry Resource}
    (member : entry ∈ (cleanupDevs i devs).1) : ∃ resource, entry = .release resource := by
  induction devs generalizing i with
  | nil => simp [cleanupDevs] at member
  | cons dev rest ih =>
      simp only [cleanupDevs, List.mem_append] at member
      rcases member with member | member
      · exact cleanupDev_release member
      · exact ih member

/-- Cleaning up never acquires anything. -/
theorem acquire_not_mem_cleanupEntries (state : DriverState) (resource : Resource) :
    Entry.acquire resource ∉ cleanupEntries state := by
  intro member
  simp only [cleanupEntries, List.mem_append, List.mem_singleton] at member
  rcases member with ((member | member) | member) | member
  · obtain ⟨_, equal⟩ := cleanupProcEnts_release member
    cases equal
  · cases member
  · obtain ⟨_, equal⟩ := cleanupDevs_release member
    cases equal
  · cases member

theorem release_procDir_mem_cleanupEntries (state : DriverState) :
    Entry.release .procDir ∈ cleanupEntries state := by
  simp [cleanupEntries]

/-! ## What setting up books -/

/-- The calls of the loop body whose failure the code notices all succeed for
device `i`. -/
structure DevAccepted (kernel : KernelCalls) (i : Nat) (dev : TestMckDev) : Prop where
  classCreate : kernel.classCreate i = true
  cdevAdd : kernel.cdevAdd i = none
  init : dev.ops = .mmapDev2 → (kernel.vmallocUser i).isSome

/-- What device `i` holds after the loop body, in the order of acquisition. -/
def devResources (kernel : KernelCalls) (i : Nat) (ops : SuiteOps) : List Resource :=
  [.devClass i, .cdev i] ++ (if kernel.deviceCreate i then [.deviceNode i] else []) ++
    (if ops = .mmapDev2 then [.privateBuffer i] else [])

/-- A booking the device loop can make. -/
def LoopEntry (kernel : KernelCalls) : Entry Resource → Prop
  | .acquire (.deviceNode i) => kernel.deviceCreate i = true
  | .acquire (.devClass _) | .acquire (.cdev _) | .acquire (.privateBuffer _) => True
  | _ => False

/-- A device that went through the whole loop body. -/
structure DevReady (i : Nat) (dev : TestMckDev) : Prop where
  cls : dev.cls = some i
  buffer : dev.ops = .mmapDev2 → dev.privateData.isSome

theorem cdevAddResult_eq_zero_iff (kernel : KernelCalls) (i : Nat) :
    kernel.cdevAddResult i = 0 ↔ kernel.cdevAdd i = none := by
  unfold KernelCalls.cdevAddResult
  cases result : kernel.cdevAdd i with
  | none => simp
  | some error =>
      have negative := error.negative
      simp only [reduceCtorEq, iff_false]
      omega

theorem init_eq_zero_iff (dev : TestMckDev) (allocated : Option VmallocArea) :
    (dev.init allocated).1 = 0 ↔ (dev.ops = .mmapDev2 → allocated.isSome) := by
  cases ops : dev.ops with
  | mmapDev => simp [TestMckDev.init, ops, testMckMmapDevInit]
  | mmapDev2 =>
      cases allocated <;>
        simp [TestMckDev.init, ops, testMckMmapDev2Init, enomem]

theorem init_ops (dev : TestMckDev) (allocated : Option VmallocArea) :
    (dev.init allocated).2.ops = dev.ops := by
  cases ops : dev.ops with
  | mmapDev => simp [TestMckDev.init, ops, testMckMmapDevInit]
  | mmapDev2 =>
      cases allocated <;>
        simp [TestMckDev.init, ops, testMckMmapDev2Init]

theorem init_cls (dev : TestMckDev) (allocated : Option VmallocArea) :
    (dev.init allocated).2.cls = dev.cls := by
  cases ops : dev.ops with
  | mmapDev => simp [TestMckDev.init, ops, testMckMmapDevInit]
  | mmapDev2 =>
      cases allocated <;>
        simp [TestMckDev.init, ops, testMckMmapDev2Init]

theorem init_privateData {dev : TestMckDev} {allocated : Option VmallocArea}
    (ops : dev.ops = .mmapDev2) :
    (dev.init allocated).2.privateData.isSome = allocated.isSome := by
  cases allocated <;> simp [TestMckDev.init, ops, testMckMmapDev2Init]

theorem setupDev_finished_iff (kernel : KernelCalls) (sizeof majorNumber i : Nat)
    (loop : LoopState) (dev : TestMckDev) :
    (setupDev kernel sizeof majorNumber i loop dev).1 = true ↔ DevAccepted kernel i dev := by
  unfold setupDev
  by_cases created : kernel.classCreate i = true
  · by_cases added : kernel.cdevAddResult i = 0
    · simp only [created, if_true, added, ne_eq, not_true_eq_false, if_false,
        decide_eq_true_eq, init_eq_zero_iff]
      exact ⟨fun initialized => ⟨created, (cdevAddResult_eq_zero_iff kernel i).mp added,
        initialized⟩, fun accepted => accepted.init⟩
    · simp only [created, if_true, added, ne_eq, not_false_eq_true]
      refine ⟨fun impossible => by simp at impossible, fun accepted => ?_⟩
      exact absurd ((cdevAddResult_eq_zero_iff kernel i).mpr accepted.cdevAdd) added
  · simp only [created]
    exact ⟨fun impossible => by simp at impossible,
      fun accepted => absurd accepted.classCreate created⟩

/-- The loop body keeps the bookings made before it. -/
theorem setupDev_entries_loopEntry {kernel : KernelCalls} {loop : LoopState}
    (sizeof majorNumber i : Nat) (dev : TestMckDev)
    (before : ∀ entry ∈ loop.entries, LoopEntry kernel entry) :
    ∀ entry ∈ (setupDev kernel sizeof majorNumber i loop dev).2.1.entries,
      LoopEntry kernel entry := by
  intro entry member
  by_cases created : kernel.classCreate i = true
  · by_cases added : kernel.cdevAddResult i = 0
    · simp only [setupDev, created, if_true, added, ne_eq, not_true_eq_false, if_false,
        publish, TestMckDev.initEntries, List.mem_append, List.mem_singleton] at member
      rcases member with (((member | rfl) | rfl) | member) | member
      · exact before entry member
      · exact trivial
      · exact trivial
      · split at member
        · rename_i node
          rw [List.mem_singleton.mp member]
          exact node
        · simp at member
      · split at member
        · rw [List.mem_singleton.mp member]
          exact trivial
        · simp at member
    · simp only [setupDev, created, if_true, added, ne_eq, not_false_eq_true,
        List.mem_append, List.mem_singleton] at member
      rcases member with member | rfl
      · exact before entry member
      · exact trivial
  · simp only [setupDev, created] at member
    exact before entry member

theorem setupDev_entries {kernel : KernelCalls} {i : Nat} {dev : TestMckDev}
    (sizeof majorNumber : Nat) (loop : LoopState) (accepted : DevAccepted kernel i dev) :
    (setupDev kernel sizeof majorNumber i loop dev).2.1.entries =
      loop.entries ++ (devResources kernel i dev.ops).map .acquire := by
  have added := (cdevAddResult_eq_zero_iff kernel i).mpr accepted.cdevAdd
  have created := accepted.classCreate
  have allocated := accepted.init
  unfold setupDev devResources
  simp only [created, if_true, added, ne_eq, not_true_eq_false, if_false, publish,
    TestMckDev.initEntries, init_ops]
  cases ops : dev.ops with
  | mmapDev => by_cases node : kernel.deviceCreate i = true <;> simp [node]
  | mmapDev2 =>
      obtain ⟨area, area_eq⟩ := Option.isSome_iff_exists.mp (allocated ops)
      by_cases node : kernel.deviceCreate i = true <;> simp [node, area_eq]

theorem setupDev_ready {kernel : KernelCalls} {i : Nat} {dev : TestMckDev}
    (sizeof majorNumber : Nat) (loop : LoopState) (accepted : DevAccepted kernel i dev) :
    DevReady i (setupDev kernel sizeof majorNumber i loop dev).2.2 ∧
      (setupDev kernel sizeof majorNumber i loop dev).2.2.ops = dev.ops := by
  have added := (cdevAddResult_eq_zero_iff kernel i).mpr accepted.cdevAdd
  unfold setupDev
  simp only [accepted.classCreate, if_true, added, ne_eq, not_true_eq_false, if_false]
  refine ⟨⟨?_, ?_⟩, ?_⟩
  · simp [init_cls]
  · intro ops
    rw [init_ops] at ops
    rw [init_privateData ops]
    exact accepted.init ops
  · simp [init_ops]

/-- A statement about every device of a list, numbered from `i` on. -/
def ForDevs (holds : Nat → TestMckDev → Prop) (i : Nat) (devs : List TestMckDev) : Prop :=
  ∀ j dev, devs[j]? = some dev → holds (i + j) dev

theorem forDevs_nil (holds : Nat → TestMckDev → Prop) (i : Nat) : ForDevs holds i [] := by
  intro j dev found
  simp at found

theorem forDevs_cons {holds : Nat → TestMckDev → Prop} {i : Nat} {dev : TestMckDev}
    {rest : List TestMckDev} :
    ForDevs holds i (dev :: rest) ↔ holds i dev ∧ ForDevs holds (i + 1) rest := by
  constructor
  · intro all
    refine ⟨all 0 dev rfl, fun j other found => ?_⟩
    have shifted := all (j + 1) other (by simpa using found)
    rwa [Nat.add_comm j 1, ← Nat.add_assoc] at shifted
  · rintro ⟨first, others⟩ j other found
    cases j with
    | zero =>
        cases found
        exact first
    | succ j =>
        have shifted := others j other (by simpa using found)
        rwa [Nat.add_assoc, Nat.add_comm 1 j] at shifted

theorem setupDevs_finished_iff (kernel : KernelCalls) (sizeof majorNumber i : Nat)
    (loop : LoopState) (devs : List TestMckDev) :
    (setupDevs kernel sizeof majorNumber i loop devs).1 = true ↔
      ForDevs (DevAccepted kernel) i devs := by
  induction devs generalizing i loop with
  | nil => simp [setupDevs, forDevs_nil]
  | cons dev rest ih =>
      rw [forDevs_cons, ← setupDev_finished_iff kernel sizeof majorNumber i loop dev, setupDevs]
      rcases body : setupDev kernel sizeof majorNumber i loop dev with ⟨_ | _, loop, dev⟩
      · simp
      · simp [ih]

theorem setupDevs_entries_loopEntry {kernel : KernelCalls} {loop : LoopState}
    (sizeof majorNumber i : Nat) (devs : List TestMckDev)
    (before : ∀ entry ∈ loop.entries, LoopEntry kernel entry) :
    ∀ entry ∈ (setupDevs kernel sizeof majorNumber i loop devs).2.1.entries,
      LoopEntry kernel entry := by
  induction devs generalizing i loop with
  | nil => exact before
  | cons dev rest ih =>
      have after := setupDev_entries_loopEntry sizeof majorNumber i dev before
      rw [setupDevs]
      rcases body : setupDev kernel sizeof majorNumber i loop dev with ⟨_ | _, loop, dev⟩
      · simpa [body] using after
      · exact ih (i + 1) (by simpa [body] using after)

/-- The resources of all devices, in the order of acquisition. -/
def devsResources (kernel : KernelCalls) : Nat → List SuiteOps → List Resource
  | _, [] => []
  | i, ops :: rest => devResources kernel i ops ++ devsResources kernel (i + 1) rest

/-- Once every device is accepted, the loop has booked exactly their resources
and left every device ready. -/
theorem setupDevs_accepted {kernel : KernelCalls} {i : Nat} {devs : List TestMckDev}
    (sizeof majorNumber : Nat) (loop : LoopState)
    (accepted : ForDevs (DevAccepted kernel) i devs) :
    (setupDevs kernel sizeof majorNumber i loop devs).2.1.entries =
        loop.entries ++ (devsResources kernel i (devs.map (·.ops))).map .acquire ∧
      (setupDevs kernel sizeof majorNumber i loop devs).2.2.map (·.ops) = devs.map (·.ops) ∧
      ForDevs DevReady i (setupDevs kernel sizeof majorNumber i loop devs).2.2 := by
  induction devs generalizing i loop with
  | nil => simp [setupDevs, devsResources, forDevs_nil]
  | cons dev rest ih =>
      obtain ⟨first, others⟩ := forDevs_cons.mp accepted
      have finished := (setupDev_finished_iff kernel sizeof majorNumber i loop dev).mpr first
      have entries := setupDev_entries sizeof majorNumber loop first
      obtain ⟨ready, ops⟩ := setupDev_ready sizeof majorNumber loop first
      rw [setupDevs]
      rcases body : setupDev kernel sizeof majorNumber i loop dev with ⟨flag, next, dev'⟩
      rw [body] at finished entries ready ops
      cases finished
      dsimp only at entries ops
      obtain ⟨restEntries, restOps, restReady⟩ := ih next others
      refine ⟨?_, ?_, forDevs_cons.mpr ⟨ready, restReady⟩⟩
      · simp only [restEntries, entries, List.map_cons, devsResources, List.map_append,
          List.append_assoc]
      · simp only [List.map_cons, ops, restOps]

/-! ## Matching releases with acquisitions -/

/-- What cleaning up releases for a ready device, in the order of release. -/
def devReleases (i : Nat) (ops : SuiteOps) : List Resource :=
  (if ops = .mmapDev2 then [.privateBuffer i] else []) ++
    [.cdev i, .deviceNode i, .devClass i]

/-- What cleaning up releases for a list of ready devices. -/
def devsReleases : Nat → List SuiteOps → List Resource
  | _, [] => []
  | i, ops :: rest => devReleases i ops ++ devsReleases (i + 1) rest

theorem cleanupDev_ready {i : Nat} {dev : TestMckDev} (ready : DevReady i dev) :
    (cleanupDev i dev).1 = (devReleases i dev.ops).map .release := by
  have cls := ready.cls
  cases ops : dev.ops with
  | mmapDev => simp [cleanupDev, TestMckDev.fin, ops, cls, devReleases]
  | mmapDev2 =>
      obtain ⟨area, area_eq⟩ := Option.isSome_iff_exists.mp (ready.buffer ops)
      simp [cleanupDev, TestMckDev.fin, ops, cls, area_eq, devReleases]

theorem cleanupDevs_ready {i : Nat} {devs : List TestMckDev} (ready : ForDevs DevReady i devs) :
    (cleanupDevs i devs).1 = (devsReleases i (devs.map (·.ops))).map .release := by
  induction devs generalizing i with
  | nil => rfl
  | cons dev rest ih =>
      obtain ⟨first, others⟩ := forDevs_cons.mp ready
      simp [cleanupDevs, cleanupDev_ready first, ih others, devsReleases]

theorem deviceNode_mem_devsReleases {i j : Nat} {opsList : List SuiteOps}
    (bound : j < opsList.length) : .deviceNode (i + j) ∈ devsReleases i opsList := by
  induction opsList generalizing i j with
  | nil => simp at bound
  | cons ops rest ih =>
      rw [devsReleases, List.mem_append]
      cases j with
      | zero => exact Or.inl (by simp [devReleases])
      | succ j =>
          have later := ih (i := i + 1) (Nat.lt_of_succ_lt_succ bound)
          rw [Nat.add_assoc, Nat.add_comm 1 j] at later
          exact Or.inr later

theorem devResources_perm_devReleases {kernel : KernelCalls} {i : Nat} (ops : SuiteOps)
    (node : kernel.deviceCreate i = true) :
    (devResources kernel i ops).Perm (devReleases i ops) := by
  rw [devResources, devReleases, if_pos node]
  have rotated : [Resource.devClass i, .cdev i, .deviceNode i].Perm
      [.cdev i, .deviceNode i, .devClass i] :=
    @List.perm_append_comm _ [Resource.devClass i] [.cdev i, .deviceNode i]
  exact List.perm_append_comm.trans (rotated.append_left _)

theorem devsResources_perm_devsReleases {kernel : KernelCalls} {i : Nat}
    {opsList : List SuiteOps}
    (nodes : ∀ j < opsList.length, kernel.deviceCreate (i + j) = true) :
    (devsResources kernel i opsList).Perm (devsReleases i opsList) := by
  induction opsList generalizing i with
  | nil => exact List.Perm.refl _
  | cons ops rest ih =>
      have first := devResources_perm_devReleases ops (nodes 0 (by simp))
      have others := ih (i := i + 1) fun j bound => by
        rw [Nat.add_assoc, Nat.add_comm 1 j]
        exact nodes (j + 1) (by simpa using bound)
      exact first.append others

/-- The device a resource belongs to. -/
def Resource.device : Resource → Option Nat
  | .devClass i | .cdev i | .deviceNode i | .privateBuffer i => some i
  | .chrdevRegion | .procDir | .procFile _ => none

theorem device_of_mem_devResources {kernel : KernelCalls} {i : Nat} {ops : SuiteOps}
    {resource : Resource} (member : resource ∈ devResources kernel i ops) :
    resource.device = some i := by
  simp only [devResources, List.mem_append, List.mem_cons, List.not_mem_nil, or_false] at member
  rcases member with ((rfl | rfl) | member) | member
  · rfl
  · rfl
  · split at member
    · rw [List.mem_singleton.mp member]
      rfl
    · simp at member
  · split at member
    · rw [List.mem_singleton.mp member]
      rfl
    · simp at member

theorem device_of_mem_devsResources {kernel : KernelCalls} {i : Nat} {opsList : List SuiteOps}
    {resource : Resource} (member : resource ∈ devsResources kernel i opsList) :
    ∃ j, i ≤ j ∧ resource.device = some j := by
  induction opsList generalizing i with
  | nil => simp [devsResources] at member
  | cons ops rest ih =>
      rw [devsResources, List.mem_append] at member
      rcases member with member | member
      · exact ⟨i, Nat.le_refl i, device_of_mem_devResources member⟩
      · obtain ⟨j, bound, device⟩ := ih member
        exact ⟨j, Nat.le_of_succ_le bound, device⟩

theorem deviceCreate_of_mem {kernel : KernelCalls} {i j : Nat} {opsList : List SuiteOps}
    (member : .deviceNode j ∈ devsResources kernel i opsList) :
    kernel.deviceCreate j = true := by
  induction opsList generalizing i with
  | nil => simp [devsResources] at member
  | cons ops rest ih =>
      rw [devsResources, List.mem_append] at member
      rcases member with member | member
      · have device := device_of_mem_devResources member
        cases device
        by_contra absent
        cases ops <;> simp [devResources, absent] at member
      · exact ih member

theorem devResources_nodup (kernel : KernelCalls) (i : Nat) (ops : SuiteOps) :
    (devResources kernel i ops).Nodup := by
  unfold devResources
  by_cases node : kernel.deviceCreate i = true <;> cases ops <;> simp [node]

theorem devsResources_nodup (kernel : KernelCalls) (i : Nat) (opsList : List SuiteOps) :
    (devsResources kernel i opsList).Nodup := by
  induction opsList generalizing i with
  | nil => exact List.nodup_nil
  | cons ops rest ih =>
      refine (devResources_nodup kernel i ops).append (ih (i + 1)) ?_
      intro resource inFirst inRest
      have first := device_of_mem_devResources inFirst
      obtain ⟨j, bound, other⟩ := device_of_mem_devsResources inRest
      rw [first] at other
      cases other
      omega

/-- All proc files are created exactly if each of the calls succeeds. -/
theorem initProcEnts_finished_iff (kernel : KernelCalls) (i : Nat) (ents : List ProcEnt) :
    (initProcEnts kernel i ents).1 = true ↔
      ∀ j < ents.length, kernel.procCreateData (i + j) = true := by
  induction ents generalizing i with
  | nil => simp [initProcEnts]
  | cons ent rest ih =>
      rw [initProcEnts, List.length_cons, Nat.forall_lt_succ_left]
      by_cases created : kernel.procCreateData i = true
      · have others := ih (i + 1)
        simp only [created, if_true, others, Nat.add_zero, true_and, Nat.add_assoc, Nat.add_comm 1]
      · simp [created]

/-- The proc files that are created are exactly those that cleaning up will
remove, whether the creation loop finished or stopped at a failure. -/
theorem initProcEnts_cleanup (kernel : KernelCalls) (i : Nat) {ents : List ProcEnt}
    (unset : ∀ ent ∈ ents, ent.pent = false) :
    ∃ files : List Nat, files.Nodup ∧ (∀ file ∈ files, i ≤ file) ∧
      (initProcEnts kernel i ents).2.1 = files.map (.acquire ∘ .procFile) ∧
      (cleanupProcEnts i (initProcEnts kernel i ents).2.2).1 =
        files.map (.release ∘ .procFile) := by
  have untouched : ∀ i (ents : List ProcEnt), (∀ ent ∈ ents, ent.pent = false) →
      (cleanupProcEnts i ents).1 = [] := by
    intro i ents unset
    induction ents generalizing i with
    | nil => rfl
    | cons ent rest ih =>
        have restUnset := fun other member => unset other (List.mem_cons_of_mem _ member)
        simp [cleanupProcEnts, unset ent List.mem_cons_self, ih (i + 1) restUnset]
  induction ents generalizing i with
  | nil => exact ⟨[], by simp [initProcEnts, cleanupProcEnts]⟩
  | cons ent rest ih =>
      have restUnset := fun other member => unset other (List.mem_cons_of_mem _ member)
      by_cases created : kernel.procCreateData i = true
      · obtain ⟨files, distinct, bound, acquired, released⟩ := ih (i + 1) restUnset
        refine ⟨i :: files, ?_, ?_, ?_, ?_⟩
        · refine List.nodup_cons.mpr ⟨fun member => ?_, distinct⟩
          exact Nat.not_succ_le_self i (bound i member)
        · intro file member
          rcases List.mem_cons.mp member with rfl | member
          · exact Nat.le_refl _
          · exact Nat.le_of_succ_le (bound file member)
        · simp [initProcEnts, created, acquired]
        · simp [initProcEnts, cleanupProcEnts, created, released]
      · refine ⟨[], List.nodup_nil, by simp, ?_, ?_⟩
        · simp [initProcEnts, created]
        · simp [initProcEnts, cleanupProcEnts, created, untouched (i + 1) rest restUnset]

/-! ## The life of the driver -/

/-- Everything up to the creation of the proc files succeeds: the device
numbers, the whole loop body of every device, and the proc directory. -/
structure ReachesProcFiles (kernel : KernelCalls) (devlist : List TestMckDev) : Prop where
  region : ∃ devno, kernel.allocChrdevRegion = .ok devno
  accepted : ForDevs (DevAccepted kernel) 0 devlist
  nodes : ∀ i < devlist.length, kernel.deviceCreate i = true
  procDir : kernel.procMkdir = true

/-- A life in which the setup bookings do not create the proc directory is
never balanced, however often the driver cleans up afterwards. -/
theorem not_balanced_of_no_procDir {state : DriverState} {later : List (Entry Resource)}
    (noDir : Entry.acquire .procDir ∉ state.ledger)
    (onlyCleanup : later = [] ∨ ∃ other, later = cleanupEntries other) :
    ¬ Balanced (state.ledger ++ cleanupEntries state ++ later) := by
  intro balanced
  have released : Entry.release .procDir ∈ state.ledger ++ cleanupEntries state ++ later := by
    simp [release_procDir_mem_cleanupEntries]
  have acquired := balanced.acquire_mem released
  simp only [List.mem_append] at acquired
  rcases acquired with (acquired | acquired) | acquired
  · exact noDir acquired
  · exact acquire_not_mem_cleanupEntries _ _ acquired
  · rcases onlyCleanup with rfl | ⟨other, rfl⟩
    · simp at acquired
    · exact acquire_not_mem_cleanupEntries _ _ acquired

/-- Unloading after a failed load that nevertheless returned 0 cleans up a
second time. -/
theorem lifetime_of_failed {kernel : KernelCalls} {devlist : List TestMckDev} {res : Int}
    {state : DriverState}
    (failed : testMckSetup kernel (.initial devlist) = (res, testMckCleanup state)) :
    ∃ later, (later = [] ∨ ∃ other, later = cleanupEntries other) ∧
      lifetime kernel devlist = state.ledger ++ cleanupEntries state ++ later := by
  simp only [lifetime, testMckInit, failed, testMckExit, testMckCleanup_ledger]
  by_cases zero : res = 0
  · exact ⟨_, Or.inr ⟨testMckCleanup state, rfl⟩, by simp [zero]⟩
  · exact ⟨[], Or.inl rfl, by simp [zero]⟩

theorem afterDevLoop_ledger (kernel : KernelCalls) (majorNumber : Nat)
    (devlist : List TestMckDev) :
    (afterDevLoop kernel majorNumber (.initial devlist)).ledger =
      .acquire .chrdevRegion :: (runDevLoop kernel majorNumber (.initial devlist)).2.1.entries := by
  simp [afterDevLoop, DriverState.book, DriverState.initial]

theorem runDevLoop_loopEntry (kernel : KernelCalls) (majorNumber : Nat)
    (devlist : List TestMckDev) :
    ∀ entry ∈ (runDevLoop kernel majorNumber (.initial devlist)).2.1.entries,
      LoopEntry kernel entry := by
  apply setupDevs_entries_loopEntry
  simp

theorem acquire_procDir_not_mem_afterDevLoop (kernel : KernelCalls) (majorNumber : Nat)
    (devlist : List TestMckDev) :
    Entry.acquire .procDir ∉ (afterDevLoop kernel majorNumber (.initial devlist)).ledger := by
  rw [afterDevLoop_ledger, List.mem_cons, not_or]
  refine ⟨by simp, fun member => ?_⟩
  exact runDevLoop_loopEntry kernel majorNumber devlist _ member

/-- The acquisitions of a life that creates the proc directory, with the proc
files it goes on to create. -/
def lifeAcquires (kernel : KernelCalls) (devlist : List TestMckDev) (files : List Nat) :
    List Resource :=
  [.chrdevRegion] ++ devsResources kernel 0 (devlist.map (·.ops)) ++
    ([.procDir] ++ files.map .procFile)

/-- The releases of such a life. -/
def lifeReleases (devlist : List TestMckDev) (files : List Nat) : List Resource :=
  files.map .procFile ++ [.procDir] ++ devsReleases 0 (devlist.map (·.ops)) ++ [.chrdevRegion]

/-- From the end of the device loop on, both the failing path and unloading
amount to one cleanup. -/
theorem lifetime_of_finished {kernel : KernelCalls} {devlist : List TestMckDev} {devno : Nat}
    (region : kernel.allocChrdevRegion = .ok devno)
    (finished : (runDevLoop kernel (major devno) (.initial devlist)).1 = true) :
    lifetime kernel devlist =
      (testMckCleanup (testMckInitProcfs kernel
        (afterDevLoop kernel (major devno) (.initial devlist))).2).ledger := by
  simp only [lifetime, testMckInit, testMckSetup, region, finished, if_true, testMckExit]
  by_cases created : (testMckInitProcfs kernel
      (afterDevLoop kernel (major devno) (.initial devlist))).1 = 0 <;>
    simp [created]

theorem lifetime_of_procDir {kernel : KernelCalls} {devlist : List TestMckDev} {devno : Nat}
    (region : kernel.allocChrdevRegion = .ok devno)
    (accepted : ForDevs (DevAccepted kernel) 0 devlist) (procDir : kernel.procMkdir = true) :
    ∃ files : List Nat, files.Nodup ∧
      lifetime kernel devlist =
        (lifeAcquires kernel devlist files).map .acquire ++
          (lifeReleases devlist files).map .release := by
  have finished : (runDevLoop kernel (major devno) (.initial devlist)).1 = true :=
    (setupDevs_finished_iff _ _ _ _ _ _).mpr accepted
  obtain ⟨entries, ops, ready⟩ := setupDevs_accepted (sizeofMajmin devlist.length)
    (major devno) ⟨0, 0, (DriverState.initial devlist).testMckMajmin, [], []⟩ accepted
  have unset : ∀ ent ∈ (DriverState.initial devlist).procEnts, ent.pent = false := by
    simp [DriverState.initial]
  obtain ⟨files, distinct, -, acquired, released⟩ := initProcEnts_cleanup kernel 0 unset
  refine ⟨files, distinct, ?_⟩
  rw [lifetime_of_finished region finished, testMckCleanup_ledger]
  have booked : (runDevLoop kernel (major devno) (.initial devlist)).2.1.entries = _ := entries
  have devices : (cleanupDevs 0 (runDevLoop kernel (major devno) (.initial devlist)).2.2).1 =
      (devsReleases 0 (devlist.map (·.ops))).map .release := by
    rw [← ops]
    exact cleanupDevs_ready ready
  have unbooked : (DriverState.initial devlist).ledger = [] := rfl
  simp [testMckInitProcfs, procDir, afterDevLoop, DriverState.book, cleanupEntries,
    lifeAcquires, lifeReleases, booked, devices, acquired, released, unbooked]

theorem lifeAcquires_perm_lifeReleases {kernel : KernelCalls} {devlist : List TestMckDev}
    (files : List Nat) (nodes : ∀ i < devlist.length, kernel.deviceCreate i = true) :
    (lifeAcquires kernel devlist files).Perm (lifeReleases devlist files) := by
  have devices : (devsResources kernel 0 (devlist.map (·.ops))).Perm
      (devsReleases 0 (devlist.map (·.ops))) := by
    apply devsResources_perm_devsReleases
    intro i bound
    rw [Nat.zero_add]
    exact nodes i (by simpa using bound)
  have proc : ([Resource.procDir] ++ files.map Resource.procFile).Perm
      (files.map Resource.procFile ++ [Resource.procDir]) := List.perm_append_comm
  rw [lifeAcquires, lifeReleases, List.append_assoc]
  exact List.perm_append_comm.trans
    (((devices.append proc).trans List.perm_append_comm).append_right _)

theorem lifeAcquires_nodup (kernel : KernelCalls) (devlist : List TestMckDev)
    {files : List Nat} (distinct : files.Nodup) :
    (lifeAcquires kernel devlist files).Nodup := by
  have noDevice : ∀ resource ∈ devsResources kernel 0 (devlist.map (·.ops)),
      resource.device ≠ none := by
    intro resource member none
    obtain ⟨_, _, device⟩ := device_of_mem_devsResources member
    simp [none] at device
  have procNodup : ([Resource.procDir] ++ files.map Resource.procFile).Nodup := by
    refine List.nodup_cons.mpr ⟨by simp, distinct.map fun first second equal => ?_⟩
    exact Resource.procFile.inj equal
  rw [lifeAcquires, List.append_assoc, List.singleton_append, List.nodup_cons]
  refine ⟨?_, (devsResources_nodup _ _ _).append procNodup ?_⟩
  · intro member
    rcases List.mem_append.mp member with member | member
    · exact noDevice _ member rfl
    · simp at member
  · intro resource inDevices inProc
    apply noDevice resource inDevices
    simp only [List.cons_append, List.nil_append, List.mem_cons, List.mem_map] at inProc
    rcases inProc with rfl | ⟨file, _, rfl⟩ <;> rfl

/-- The life of the driver is balanced exactly when the load gets as far as
the proc files.  A failure of `proc_create_data` itself does no harm: the
files are guarded by their pointers and everything else exists. -/
theorem lifetime_balanced_iff (kernel : KernelCalls) (devlist : List TestMckDev) :
    Balanced (lifetime kernel devlist) ↔ ReachesProcFiles kernel devlist := by
  constructor
  · intro balanced
    cases region : kernel.allocChrdevRegion with
    | error error =>
        have failed : testMckSetup kernel (.initial devlist) =
            (error.code, testMckCleanup (.initial devlist)) := by
          simp [testMckSetup, region]
        obtain ⟨later, onlyCleanup, life⟩ := lifetime_of_failed failed
        rw [life] at balanced
        exact absurd balanced
          (not_balanced_of_no_procDir (by simp [DriverState.initial]) onlyCleanup)
    | ok devno =>
        have noDir := acquire_procDir_not_mem_afterDevLoop kernel (major devno) devlist
        by_cases finished : (runDevLoop kernel (major devno) (.initial devlist)).1 = true
        · have accepted : ForDevs (DevAccepted kernel) 0 devlist :=
            (setupDevs_finished_iff _ _ _ _ _ _).mp finished
          by_cases procDir : kernel.procMkdir = true
          · refine ⟨⟨devno, region⟩, accepted, fun i bound => ?_, procDir⟩
            obtain ⟨files, -, life⟩ := lifetime_of_procDir region accepted procDir
            have released : Entry.release (.deviceNode i) ∈ lifetime kernel devlist := by
              have node : .deviceNode (0 + i) ∈ devsReleases 0 (devlist.map (·.ops)) :=
                deviceNode_mem_devsReleases (by simpa using bound)
              rw [Nat.zero_add] at node
              simp [life, lifeReleases, node]
            have acquired := balanced.acquire_mem released
            exact deviceCreate_of_mem (by simpa [life, lifeAcquires] using acquired)
          · have failed : testMckSetup kernel (.initial devlist) =
                (enomem.code, testMckCleanup
                  { afterDevLoop kernel (major devno) (.initial devlist) with
                    testMckProcdir := false }) := by
              simp [testMckSetup, region, finished, testMckInitProcfs, procDir, enomem]
            obtain ⟨later, onlyCleanup, life⟩ := lifetime_of_failed failed
            rw [life] at balanced
            exact absurd balanced (not_balanced_of_no_procDir noDir onlyCleanup)
        · have failed : testMckSetup kernel (.initial devlist) =
              ((runDevLoop kernel (major devno) (.initial devlist)).2.1.res,
                testMckCleanup (afterDevLoop kernel (major devno) (.initial devlist))) := by
            simp [testMckSetup, region, finished]
          obtain ⟨later, onlyCleanup, life⟩ := lifetime_of_failed failed
          rw [life] at balanced
          exact absurd balanced (not_balanced_of_no_procDir noDir onlyCleanup)
  · rintro ⟨⟨devno, region⟩, accepted, nodes, procDir⟩
    obtain ⟨files, distinct, life⟩ := lifetime_of_procDir region accepted procDir
    rw [life]
    exact balanced_of_perm (lifeAcquires_nodup kernel devlist distinct)
      (lifeAcquires_perm_lifeReleases files nodes)

/-- A failing `class_create` leaves `res` at 0, so a driver that has already
cleaned up is unloaded and cleans up again. -/
theorem classCreate_failure_not_balanced :
    ¬ Balanced (lifetime
      { allocChrdevRegion := .ok (mkdev 246 0)
        classCreate := fun _ => false
        cdevAdd := fun _ => none
        deviceCreate := fun _ => true
        vmallocUser := fun _ => none
        procMkdir := true
        procCreateData := fun _ => true } testMckDevlist) := by
  decide

end McKernelTest.Driver
