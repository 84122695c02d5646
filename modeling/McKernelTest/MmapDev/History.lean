import McKernelTest.MmapDev.Access

/-!
# The buffer over any history of tests

Every run starts with a reset, so what earlier runs left in the buffer does not
matter: each run succeeds, and the buffer afterwards is known from the last run
alone.
-/

namespace McKernelTest.MmapDev

open Driver Machine Posix Process

/-- The run uses a valid size, and the kernel grants what it asks for. -/
structure TestRun.Valid (run : TestRun) (dev : DevPtr) : Prop where
  positive : 0 < run.size
  most : run.size ≤ testMckMmapDev2BufSize
  opens : ∃ path, run.path = some path ∧ run.answers.openNode path = some dev
  maps : ∃ place, run.answers.mmapPlace = some place ∧
    (place + pagesFor run.size) * pageSize ≤ 2 ^ 64
  peeks : ∃ place, run.answers.peekPlace = some place ∧
    (place + pagesFor run.size) * pageSize ≤ 2 ^ 64
  unmaps : run.answers.munmap ≠ -1
  unpeeks : run.answers.peekMunmap ≠ -1

/-- What a run leaves in the buffer: the pattern of the reset, in which the shared
mapping has replaced the first byte of each of its pages. -/
def TestRun.expected (run : TestRun) (offset : Nat) : UInt8 :=
  match run.number with
  | .mmapDev1 => resetPattern offset
  | .mmapDev2 =>
      if offset % pageSize = 0 ∧ offset / pageSize < (run.size + pageSize - 1) / pageSize then zByte
      else resetPattern offset

section Calls

variable {devs : Devs} {dev : DevPtr} {area : VmallocArea} {answers : Answers} {size : Nat}

theorem tpAssert_returns {test : Bool} (message : String) (holds : test = true) :
    Returns (tpAssert test message) devs () devs := by
  rw [tpAssert, if_pos holds]
  exact Returns.pure

theorem openDev_returns {path : List Char} (opens : answers.openNode path = some dev) :
    Returns (openDev answers path) devs (some ⟨some dev⟩) devs := by
  rw [openDev, opens]
  exact Returns.pure

theorem ioctl_returns :
    Returns (ioctl ⟨some dev⟩ testMckMmapDev2BufReset) devs 0
      (Function.update devs dev (resetDev (devs dev))) := by
  apply Returns.bind Returns.get
  simp only [testMckMmapDev2Ioctl, if_true, Option.map_some]
  exact Returns.bind Returns.set Returns.pure

theorem pages_areaAt {place pages : Nat} (nonempty : 0 < pages)
    (fits : (place + pages) * pageSize ≤ 2 ^ 64) :
    (areaAt place pages nonempty fits).pages = pages := by
  have length : (place + pages) * pageSize - place * pageSize = pages * pageSize := by
    rw [Nat.add_mul, Nat.add_sub_cancel_left]
  change ((place + pages) * pageSize - place * pageSize) / pageSize = pages
  rw [length, Nat.mul_div_cancel _ (by decide)]

/-- A granted mapping shows the pages of the buffer. -/
theorem mmap_returns (devs : Devs) (dev : DevPtr) {place : Nat} (shared : Bool)
    (nonempty : 0 < pagesFor size)
    (fits : (place + pagesFor size) * pageSize ≤ 2 ^ 64) :
    ∃ region, Mapped region dev (pagesFor size) shared ∧
      Returns (mmap (some place) ⟨some dev⟩ size shared) devs (some region) devs ∧
      ∀ j, region.mapping.find some j = some (.object j) := by
  have pages := pages_areaAt nonempty fits
  rw [mmap, dif_pos ⟨nonempty, fits⟩]
  exact ⟨_, ⟨rfl, rfl, rfl, rfl, pages, rfl⟩, Returns.pure, fun _ => rfl⟩

/-- The number of pages of a valid size, as both tests compute it. -/
theorem pagesFor_of_valid (positive : 0 < size) (most : size ≤ testMckMmapDev2BufSize) :
    pagesFor size = (size + pageSize - 1) / pageSize ∧ 0 < pagesFor size ∧ pagesFor size ≤ 3 ∧
      (toInt (toUlong (size + pageSize - 1) / pageSize : Nat)).toNat = pagesFor size := by
  have bound : size ≤ 12288 := most
  have exact : pagesFor size = (size + pageSize - 1) / pageSize := by
    simp only [pagesFor, toUlong, pageSize_eq]
    omega
  have small : pagesFor size ≤ 3 := by
    rw [exact, pageSize_eq]
    omega
  refine ⟨exact, ?_, small, ?_⟩
  · rw [exact, pageSize_eq]
    omega
  · change (toInt (pagesFor size)).toNat = pagesFor size
    rw [toInt_natCast (by omega), Int.toNat_natCast]

end Calls

section Runs

variable {devs : Devs} {dev : DevPtr} {area : VmallocArea} {run : TestRun}

/-- What the validation expects of page `j`. -/
theorem resetPattern_page {j offset : Nat} (small : offset < pageSize) :
    resetPattern (j * pageSize + offset) = UInt8.ofNat (j + 1) := by
  have isPage : (j * pageSize + offset) / pageSize = j := by
    simp only [pageSize_eq] at small ⊢
    omega
  rw [resetPattern, isPage]

theorem markFrom_page {j offset count : Nat} (known : j < count) (small : offset < pageSize) :
    markFrom 0 count resetPattern (j * pageSize + offset) =
      if offset = 0 then zByte else UInt8.ofNat (j + 1) := by
  have isPage : (j * pageSize + offset) / pageSize = j ∧
      (j * pageSize + offset) % pageSize = offset := by
    simp only [pageSize_eq] at small ⊢
    omega
  rw [markFrom, isPage.1, isPage.2, resetPattern_page small]
  apply if_congr _ rfl rfl
  omega

theorem page_inside {j offset : Nat} (known : j < 3) (small : offset < pageSize) :
    j * pageSize + offset < testMckMmapDev2BufSize := by
  have size : testMckMmapDev2BufSize = 12288 := rfl
  simp only [pageSize_eq] at small ⊢
  omega

theorem devmapDoDevmap1_returns (loaded : Loaded devs dev area) (valid : run.Valid dev) :
    ∃ after buffer, Loaded after dev buffer ∧
      Returns (devmapDoDevmap1 run.answers run.buf run.path run.size) devs () after ∧
      ∀ offset < testMckMmapDev2BufSize, buffer.data offset = resetPattern offset := by
  rcases pagesFor_of_valid valid.positive valid.most with ⟨-, nonempty, few, counted⟩
  rcases valid.opens with ⟨path, isPath, opens⟩
  rcases valid.maps with ⟨place, isPlace, fits⟩
  have reset := loaded.reset
  have pattern : ∀ offset < testMckMmapDev2BufSize,
      (testMckMmapDev2BufferReset area).data offset = resetPattern offset :=
    fun _ inside => bufferReset_data area inside
  refine ⟨_, _, reset, ?_, pattern⟩
  rw [devmapDoDevmap1, isPath, isPlace]
  apply Returns.bind (tpAssert_returns _ rfl)
  apply Returns.bind (tpAssert_returns _ (decide_eq_true valid.positive))
  apply Returns.bind (openDev_returns opens)
  apply Returns.bind (tpAssert_returns _ rfl)
  apply Returns.bind ioctl_returns
  apply Returns.bind (tpAssert_returns _ rfl)
  rcases mmap_returns (Function.update devs dev (resetDev (devs dev))) dev false nonempty fits with
    ⟨region, mapped, maps, shows⟩
  apply Returns.bind maps
  simp only [counted]
  rcases accessPages_private reset few 0 (pagesFor run.size) (Nat.zero_add _) mapped
    (fun j _ => shows j) with ⟨accessed, stillMapped, accesses, copies⟩
  apply Returns.bind accesses
  apply Returns.bind
  · apply validatePages_returns reset few run.buf 0 (pagesFor run.size) (Nat.zero_add _) stillMapped
    intro j known
    refine ⟨_, copies j known, fun offset small => ?_⟩
    simp only [Page.read, zPage, Function.update_apply]
    rw [pattern _ (page_inside (Nat.lt_of_lt_of_le known few) small), resetPattern_page small]
  · exact tpAssert_returns _ (decide_eq_true valid.unmaps)

theorem devmapDoDevmap2_returns (loaded : Loaded devs dev area) (valid : run.Valid dev) :
    ∃ after buffer, Loaded after dev buffer ∧
      Returns (devmapDoDevmap2 run.answers run.buf run.path run.size) devs () after ∧
      ∀ offset < testMckMmapDev2BufSize,
        buffer.data offset = markFrom 0 (pagesFor run.size) resetPattern offset := by
  rcases pagesFor_of_valid valid.positive valid.most with ⟨-, nonempty, few, counted⟩
  rcases valid.opens with ⟨path, isPath, opens⟩
  rcases valid.maps with ⟨place, isPlace, fits⟩
  rcases valid.peeks with ⟨peekPlace, isPeekPlace, peekFits⟩
  have reset := loaded.reset
  rcases mmap_returns (Function.update devs dev (resetDev (devs dev))) dev true nonempty fits with
    ⟨region, mapped, maps, shows⟩
  rcases accessPages_shared reset few 0 (pagesFor run.size) (Nat.zero_add _) mapped
    (fun j _ => shows j) with ⟨accessed, after, marked, markedLoaded, accesses, data⟩
  rcases mmap_returns after dev true nonempty peekFits with
    ⟨peek, peekMapped, peekMaps, peekShows⟩
  have pattern : ∀ offset < testMckMmapDev2BufSize,
      marked.data offset = markFrom 0 (pagesFor run.size) resetPattern offset := by
    intro offset inside
    rw [data offset, markFrom, markFrom, bufferReset_data area inside]
  refine ⟨after, marked, markedLoaded, ?_, pattern⟩
  rw [devmapDoDevmap2, isPath, isPlace, isPeekPlace]
  apply Returns.bind (tpAssert_returns _ rfl)
  apply Returns.bind (tpAssert_returns _ (decide_eq_true valid.positive))
  apply Returns.bind (openDev_returns opens)
  apply Returns.bind (tpAssert_returns _ rfl)
  apply Returns.bind ioctl_returns
  apply Returns.bind (tpAssert_returns _ rfl)
  apply Returns.bind maps
  simp only [counted]
  apply Returns.bind accesses
  apply Returns.bind peekMaps
  apply Returns.bind
  · apply validatePages_returns markedLoaded few run.buf 0 (pagesFor run.size) (Nat.zero_add _)
      peekMapped
    intro j known
    refine ⟨_, peekShows j, fun offset small => ?_⟩
    rw [Page.read, pattern _ (page_inside (Nat.lt_of_lt_of_le known few) small)]
    exact markFrom_page known small
  · apply Returns.bind (tpAssert_returns _ (decide_eq_true valid.unmaps))
    exact tpAssert_returns _ (decide_eq_true valid.unpeeks)

/-- A run succeeds whatever the buffer held before. -/
theorem runFunc_returns (loaded : Loaded devs dev area) (valid : run.Valid dev) :
    ∃ after buffer, Loaded after dev buffer ∧ Returns run.runFunc devs () after ∧
      ∀ offset < testMckMmapDev2BufSize, buffer.data offset = run.expected offset := by
  unfold TestRun.runFunc TestRun.expected
  cases run.number with
  | mmapDev1 => exact devmapDoDevmap1_returns loaded valid
  | mmapDev2 =>
      rcases devmapDoDevmap2_returns loaded valid with ⟨after, buffer, afterLoaded, returns, data⟩
      refine ⟨after, buffer, afterLoaded, returns, fun offset inside => ?_⟩
      rw [data offset inside, markFrom, (pagesFor_of_valid valid.positive valid.most).1]
      simp

/-- A run and the runs after it. -/
theorem runTests_cons {after : Devs} {rest : List TestRun}
    (returns : Returns run.runFunc devs () after) :
    runTests (run :: rest) devs =
      (.returned none :: (runTests rest after).1, (runTests rest after).2) := by
  rw [Returns] at returns
  simp only [runTests, returns, outcomeOf]

/-- Driver and tests agree over every history: for any content of the buffer and any
sequence of runs, every run returns NULL, and the buffer then holds what the last
run leaves in it. -/
theorem tests_agree_with_driver (devs : Devs) (dev : DevPtr) (area : VmallocArea)
    (buffer : (devs dev).privateData = some area)
    (sized : area.pages * pageSize = testMckMmapDev2BufSize) (history : List TestRun)
    (last : TestRun) (valid : ∀ run ∈ history ++ [last], run.Valid dev) :
    (runTests (history ++ [last]) devs).1 =
        (history ++ [last]).map (fun _ => Outcome.returned none) ∧
      ∃ left, ((runTests (history ++ [last]) devs).2 dev).privateData = some left ∧
        ∀ offset < testMckMmapDev2BufSize, left.data offset = last.expected offset := by
  induction history generalizing devs area with
  | nil =>
      have loaded : Loaded devs dev area := ⟨buffer, sized⟩
      rcases runFunc_returns loaded (valid last (by simp)) with
        ⟨after, left, afterLoaded, returns, data⟩
      rw [List.nil_append, runTests_cons returns]
      exact ⟨rfl, left, afterLoaded.1, data⟩
  | cons run history ih =>
      have loaded : Loaded devs dev area := ⟨buffer, sized⟩
      rcases runFunc_returns loaded (valid run (by simp)) with
        ⟨after, left, afterLoaded, returns, -⟩
      rcases ih after left afterLoaded.1 afterLoaded.2 (fun other member =>
        valid other (List.mem_cons_of_mem run member)) with ⟨outcomes, data⟩
      rw [List.cons_append, runTests_cons returns]
      exact ⟨by rw [outcomes]; rfl, data⟩

end Runs

/-- A run of a test on a kernel that grants everything. -/
def sampleRun (number : TestNumber) (size : Nat) : TestRun where
  number := number
  path := some "/dev/test_mck/mmap_dev2".toList
  size := size
  answers := ⟨fun _ => some 1, some 16, some 32, 0, 0⟩
  buf := fun _ => 0

theorem tests_agree_with_driver_shared_private :
    (runTests [sampleRun .mmapDev2 5000, sampleRun .mmapDev1 8192] fun _ => sampleDev).1 =
        [.returned none, .returned none] ∧
      ∃ left, ((runTests [sampleRun .mmapDev2 5000, sampleRun .mmapDev1 8192]
          fun _ => sampleDev).2 1).privateData = some left ∧
        ∀ offset < testMckMmapDev2BufSize, left.data offset = resetPattern offset := by
  have valid : ∀ run ∈ [sampleRun .mmapDev2 5000] ++ [sampleRun .mmapDev1 8192], run.Valid 1 := by
    intro run member
    simp only [List.singleton_append, List.mem_cons, List.not_mem_nil, or_false] at member
    rcases member with rfl | rfl
    all_goals
      exact ⟨by decide, by decide, ⟨_, rfl, rfl⟩, ⟨16, rfl, by decide⟩, ⟨32, rfl, by decide⟩,
        by decide, by decide⟩
  have agree := tests_agree_with_driver (fun _ => sampleDev) 1 sampleBuffer rfl rfl
    [sampleRun .mmapDev2 5000] (sampleRun .mmapDev1 8192) valid
  rw [List.singleton_append] at agree
  exact agree

end McKernelTest.MmapDev
