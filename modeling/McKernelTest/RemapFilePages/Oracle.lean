import McKernelTest.Process.Returns
import McKernelTest.RemapFilePages.Core

/-!
# What the comparison of `remap_file_pages#0` decides

The three loops fit together: the remap loop asks for the reversed mapping, and the
comparison passes exactly if every mapped page has the digest of the page that this
mapping has there.  A comparison through a digest is exact only if the digest is
injective, and the digest of a page is its number modulo 256.
-/

namespace McKernelTest.RemapFilePages

open Driver Machine Posix Process
open MmapDev (outcomeOf Outcome)

/-! ## Comparisons through a digest -/

section Digest

variable {I A B : Type} {digest : A → B} {reference : I → A}

/-- A comparison with a reference that meets all values is exact if and only if the digest
is injective. -/
theorem digest_exact_iff [DecidableEq I] (meets : Function.Surjective reference) :
    (∀ f : I → A, (∀ k, digest (f k) = digest (reference k)) ↔ f = reference) ↔
      Function.Injective digest := by
  constructor
  · intro exact first second same
    rcases meets second with ⟨k, rfl⟩
    have passes : ∀ j, digest (Function.update reference k first j) = digest (reference j) := by
      intro j
      by_cases here : j = k
      · rw [here, Function.update_self, same]
      · rw [Function.update_of_ne here]
    have replaced := congrFun ((exact _).mp passes) k
    rwa [Function.update_self] at replaced
  · intro injective f
    constructor
    · intro passes
      funext k
      exact injective (passes k)
    · rintro rfl k
      rfl

end Digest

/-- The digest tells page numbers apart modulo 256. -/
theorem remapFilePagesHash_eq_iff (first second : Nat) :
    remapFilePagesHash first = remapFilePagesHash second ↔ first % 256 = second % 256 := by
  have value : ∀ page : Nat, (remapFilePagesHash page).toNat = page % 256 := by
    intro page
    have remainder : (page : Int).tmod 256 = (page % 256 : Nat) :=
      (Int.ofNat_tmod page 256).symm
    rw [remapFilePagesHash, remainder, UInt8.ofInt, UInt8.toNat_ofNat']
    omega
  rw [← UInt8.toNat_inj, value, value]

/-- The digest tells 256 pages apart, and no more. -/
theorem hash_injective_iff (pages : Nat) :
    Function.Injective (fun page : Fin pages => remapFilePagesHash (page : Nat)) ↔
      pages ≤ 256 := by
  constructor
  · intro injective
    by_contra many
    have collide : (⟨0, by omega⟩ : Fin pages) = ⟨256, by omega⟩ :=
      injective ((remapFilePagesHash_eq_iff 0 256).mpr rfl)
    cases collide
  · intro few first second same
    have remainders := (remapFilePagesHash_eq_iff first second).mp same
    rw [Nat.mod_eq_of_lt (by omega), Nat.mod_eq_of_lt (by omega)] at remainders
    exact Fin.ext remainders

/-! ## The file -/

/-- What the file holds: every page begins with its digest. -/
def pattern (index : Nat) : UInt8 :=
  if index % pageSize = 0 then remapFilePagesHash (index / pageSize : Nat) else 0

theorem pattern_page (page : Nat) : pattern (page * pageSize) = remapFilePagesHash page := by
  rw [pattern, Nat.mul_mod_left, if_pos rfl, Nat.mul_div_cancel page (by decide)]

/-- The world with more pages behind what the file has. -/
def World.append (world : World) (pages : Nat) : World :=
  { world with
    size := world.size + pages * pageSize
    file := fun index =>
      if world.size ≤ index ∧ index < world.size + pages * pageSize then pattern index
      else world.file index }

theorem World.append_zero (world : World) : world.append 0 = world := by
  have outside : ∀ index, ¬(world.size ≤ index ∧ index < world.size) := by
    intro index
    omega
  simp only [append, Nat.zero_mul, Nat.add_zero, outside, if_false]

theorem World.append_append (world : World) (first second : Nat) :
    (world.append first).append second = world.append (first + second) := by
  have middle : (world.append first).size = world.size + first * pageSize := rfl
  have size : world.size + first * pageSize + second * pageSize =
      world.size + (first + second) * pageSize := by
    rw [Nat.add_mul, Nat.add_assoc]
  have file : ((world.append first).append second).file =
      (world.append (first + second)).file := by
    funext index
    change (if _ ∧ _ then pattern index else if _ ∧ _ then pattern index else world.file index) =
      if _ ∧ _ then pattern index else world.file index
    split_ifs <;> first | rfl | omega
  simp only [append] at file ⊢
  rw [file, size]

/-- The page that the loop writes. -/
theorem write_returns {world : World} {buf : Nat → UInt8} {page : Nat}
    (zeros : ∀ index, index ≠ 0 → buf index = 0) (digest : buf 0 = remapFilePagesHash page)
    (full : world.size = page * pageSize) :
    Returns (write buf pageSize) world () (world.append 1) := by
  have same : world.append 1 =
      { world with
        size := world.size + pageSize
        file := fun index =>
          if world.size ≤ index ∧ index < world.size + pageSize then buf (index - world.size)
          else world.file index } := by
    rw [World.append, Nat.one_mul]
    congr 1
    funext index
    by_cases inside : world.size ≤ index ∧ index < world.size + pageSize
    · rw [if_pos inside, if_pos inside, full]
      by_cases first : index = page * pageSize
      · rw [first, pattern_page, Nat.sub_self, digest]
      · have later : index % pageSize ≠ 0 := by
          simp only [pageSize_eq] at full inside first ⊢
          omega
        rw [pattern, if_neg later, zeros _ (by omega)]
    · rw [if_neg inside, if_neg inside]
  rw [same]
  exact returns_modify _

/-- The loop writes its pages behind what the file has. -/
theorem createPages_returns {buf : Nat → UInt8} (zeros : ∀ index, index ≠ 0 → buf index = 0)
    (page remaining : Nat) (world : World) (full : world.size = page * pageSize) :
    Returns (createPages buf page remaining) world () (world.append remaining) := by
  induction remaining generalizing page buf world with
  | zero =>
      rw [World.append_zero]
      exact Returns.pure
  | succ remaining ih =>
      have others : ∀ index, index ≠ 0 →
          Function.update buf 0 (remapFilePagesHash page) index = 0 := by
        intro index notFirst
        rw [Function.update_of_ne notFirst, zeros index notFirst]
      have next : (world.append 1).size = (page + 1) * pageSize := by
        simp only [World.append, full, Nat.add_mul]
      have rest := ih others (page + 1) (world.append 1) next
      rw [World.append_append, Nat.add_comm 1] at rest
      exact (write_returns others (Function.update_self ..) full).bind rest

/-! ## The comparison -/

/-- The mapping is at `start` and shows page `f k` of the file as its page `k`. -/
structure Shows (mapping : Mapping) (start pages : Nat) (f : Nat → Nat) : Prop where
  start : mapping.start = start
  enough : pages ≤ mapping.pages
  table : ∀ k < pages, mapping.table k = some (.object (f k))

/-- The address of a page of a mapping does not wrap around. -/
theorem pgoffToAddr_eq {start pages k : Nat} (fits : start + pages * pageSize ≤ 2 ^ 64)
    (below : k < pages) : remapFilePagesPgoffToAddr start k = start + pageSize * k := by
  simp only [remapFilePagesPgoffToAddr, toUlong, pageSize_eq] at fits ⊢
  omega

/-- With fewer than `2 ^ 31` pages the loops make a round for each of them. -/
theorem lastPage_add_one {size : Nat} (small : size / pageSize < 2 ^ 31) :
    (lastPage size + 1).toNat = size / pageSize := by
  rw [lastPage]
  generalize size / pageSize = pages at small ⊢
  cases pages with
  | zero => rfl
  | succ last =>
      have isLast : ((last + 1 : Nat) : Int) - 1 = last := by omega
      rw [isLast, toUlong_natCast (by omega), toInt_natCast (by omega)]
      omega

section Compare

variable {world after : World} {start pages : Nat} {f : Nat → Nat}

/-- A load from the first byte of a mapped page. -/
theorem loadByte_returns_iff (shows : Shows world.mapping start pages f)
    (fits : start + pages * pageSize ≤ 2 ^ 64) {k : Nat} (below : k < pages) {value : UInt8} :
    Returns (loadByte (remapFilePagesPgoffToAddr start k)) world value after ↔
      world.file (f k * pageSize) = value ∧ world = after := by
  have found : world.mapping.find some k = some (.object (f k)) := by
    rw [Mapping.find, shows.table k below]
    rfl
  have unchanged : world.mapping.enter k (.object (f k)) = world.mapping := by
    rw [Mapping.enter, ← shows.table k below, Function.update_eq_self]
  have loads := Mapping.load_page world.file (Nat.lt_of_lt_of_le below shows.enough)
    (by decide : 0 < pageSize) found
  rw [unchanged, shows.start, Nat.add_zero, ← pgoffToAddr_eq fits below, Page.read,
    Nat.add_zero] at loads
  apply Returns.iff
  apply Returns.get.bind
  simp only [loads]
  exact Returns.set.bind Returns.pure

theorem tpAssert_returns {test : Bool} {message : String} (holds : test = true) :
    Returns (tpAssert test message) world () world := by
  rw [holds]
  exact Returns.pure

theorem tpAssert_returns_iff {test : Bool} {message : String} {value : Unit} :
    Returns (tpAssert test message) world value after ↔ test = true ∧ world = after := by
  cases test with
  | true =>
      rw [(tpAssert_returns rfl).iff]
      simp
  | false =>
      simp only [Bool.false_eq_true, false_and, iff_false]
      intro returns
      cases returns

/-- The loop passes if every page has the digest that belongs there. -/
theorem comparePages_returns_iff (shows : Shows world.mapping start pages f)
    (fits : start + pages * pageSize ≤ 2 ^ 64) {k remaining : Nat} (most : k + remaining ≤ pages) :
    Returns (comparePages start k remaining) world () after ↔
      (∀ i < remaining, world.file (f (k + i) * pageSize) =
        remapFilePagesHash (remaining - 1 - i : Nat)) ∧ world = after := by
  induction remaining generalizing k with
  | zero =>
      have returns : Returns (comparePages start k 0) world () world := Returns.pure
      rw [returns.iff]
      simp
  | succ origPage ih =>
      have first : Returns (comparePages start k (origPage + 1)) world () after ↔
          world.file (f k * pageSize) = remapFilePagesHash origPage ∧
            Returns (comparePages start (k + 1) origPage) world () after := by
        simp only [comparePages, returns_bind_iff, tpAssert_returns_iff,
          loadByte_returns_iff shows fits (by omega : k < pages)]
        simp
      rw [first, ih (by omega), ← and_assoc]
      refine and_congr_left fun _ => ?_
      constructor
      · rintro ⟨here, later⟩ i below
        cases i with
        | zero => exact here
        | succ i =>
            have found := later i (by omega)
            rw [show k + 1 + i = k + (i + 1) by omega] at found
            rw [found, show origPage + 1 - 1 - (i + 1) = origPage - 1 - i by omega]
      · intro all
        refine ⟨all 0 (by omega), fun i below => ?_⟩
        have found := all (i + 1) (by omega)
        rw [show k + (i + 1) = k + 1 + i by omega,
          show origPage + 1 - 1 - (i + 1) = origPage - 1 - i by omega] at found
        exact found

theorem compare_returns_iff {size : Nat} (shows : Shows world.mapping start (size / pageSize) f)
    (small : size / pageSize < 2 ^ 31) (fits : start + size / pageSize * pageSize ≤ 2 ^ 64) :
    Returns (remapFilePagesCompare start size) world () after ↔
      (∀ k < size / pageSize, world.file (f k * pageSize) =
        remapFilePagesHash (size / pageSize - 1 - k : Nat)) ∧ world = after := by
  rw [remapFilePagesCompare, lastPage_add_one small,
    comparePages_returns_iff shows fits (Nat.le_of_eq (Nat.zero_add _))]
  simp only [Nat.zero_add]

end Compare

/-! ## The requests -/

/-- The kernel does what it is asked to do. -/
def Faithful (kernel : Kernel) : Prop :=
  ∀ address pgoff mapping, kernel.remapFilePages address pgoff mapping =
    (0, mapping.enter ((address - mapping.start) / pageSize) (.object pgoff))

/-- The remap loop asks for the reversed mapping. -/
theorem remapPages_returns {kernel : Kernel} (faithful : Faithful kernel) {world : World}
    {pages filePage remaining : Nat} (fits : world.mapping.start + pages * pageSize ≤ 2 ^ 64)
    (enough : pages ≤ world.mapping.pages) (total : filePage + remaining = pages)
    (done : ∀ k, remaining ≤ k → k < pages →
      world.mapping.table k = some (.object (pages - 1 - k))) :
    ∃ mapping, Shows mapping world.mapping.start pages (fun k => pages - 1 - k) ∧
      Returns (remapPages kernel world.mapping.start filePage remaining) world ()
        { world with mapping := mapping } := by
  induction remaining generalizing filePage world with
  | zero =>
      refine ⟨world.mapping, ⟨rfl, enough, fun k below => done k (Nat.zero_le k) below⟩, ?_⟩
      exact Returns.pure
  | succ mmapPage ih =>
      have below : mmapPage < pages := by omega
      have isPage := (Mapping.index_page world.mapping.start mmapPage (by decide : 0 < pageSize)).1
      have remaps : Returns (remapFilePages kernel
          (remapFilePagesPgoffToAddr world.mapping.start mmapPage) filePage) world 0
          { world with mapping := world.mapping.enter mmapPage (.object filePage) } := by
        apply Returns.get.bind
        rw [Nat.add_zero, ← pgoffToAddr_eq fits below] at isPage
        rw [faithful, isPage]
        exact Returns.set.bind Returns.pure
      have next : ∀ k, mmapPage ≤ k → k < pages →
          (world.mapping.enter mmapPage (.object filePage)).table k =
            some (.object (pages - 1 - k)) := by
        intro k least most
        change Function.update world.mapping.table mmapPage _ k = _
        by_cases here : k = mmapPage
        · rw [here, Function.update_self, show filePage = pages - 1 - mmapPage by omega]
        · rw [Function.update_of_ne here]
          exact done k (by omega) most
      rcases @ih { world with mapping := world.mapping.enter mmapPage (.object filePage) }
        (filePage + 1) fits enough (by omega) next with ⟨mapping, shows, rest⟩
      refine ⟨mapping, shows, remaps.bind ?_⟩
      exact (tpAssert_returns rfl).bind rest

/-! ## The oracle -/

/-- Before the test there is no file. -/
def World.empty : World :=
  ⟨0, fun _ => 0, .fresh 0 0 true⟩

theorem createFile_returns {kernel : Kernel} {path : List Char}
    (created : (kernel.mkstemp path).1 ≠ -1) (size : Nat) :
    Returns (remapFilePagesCreateFile kernel path size) World.empty (kernel.mkstemp path).2
      (World.empty.append (size / pageSize)) := by
  apply (tpAssert_returns (decide_eq_true created)).bind
  exact (createPages_returns (fun _ _ => rfl) 0 _ _ (Nat.zero_mul _).symm).bind Returns.pure

/-- The pages of the file. -/
theorem append_page {pages page : Nat} (below : page < pages) :
    (World.empty.append pages).file (page * pageSize) = remapFilePagesHash page := by
  have inside : 0 ≤ page * pageSize ∧ page * pageSize < 0 + pages * pageSize := by
    rw [Nat.zero_add]
    exact ⟨Nat.zero_le _, Nat.mul_lt_mul_of_pos_right below (by decide)⟩
  rw [← pattern_page]
  exact if_pos inside

/-- A kernel that does what it is asked to do passes the test. -/
theorem runFunc_returns {kernel : Kernel} (faithful : Faithful kernel) (dir : List Char)
    {fileSize addr : Nat} (created : (kernel.mkstemp (pathOf dir)).1 ≠ -1)
    (opened : kernel.openFile (kernel.mkstemp (pathOf dir)).2 ≠ -1)
    (placed : kernel.mmapPlace = some addr) (small : fileSize / pageSize < 2 ^ 31)
    (fits : addr + fileSize / pageSize * pageSize ≤ 2 ^ 64) :
    ∃ after, Returns (runFunc kernel dir fileSize) World.empty () after := by
  have enough : fileSize / pageSize ≤ roundUp pageSize fileSize / pageSize := by
    simp only [roundUp, pageSize_eq]
    omega
  let written := World.empty.append (fileSize / pageSize)
  rcases @remapPages_returns kernel faithful
    ⟨written.size, written.file, .fresh addr (roundUp pageSize fileSize / pageSize) true⟩
    (fileSize / pageSize) 0 (fileSize / pageSize) fits enough (Nat.zero_add _)
    (fun k least below => absurd below (Nat.not_lt.mpr least)) with ⟨mapping, shows, remaps⟩
  refine ⟨⟨written.size, written.file, mapping⟩, (createFile_returns created fileSize).bind ?_⟩
  apply (tpAssert_returns (decide_eq_true opened)).bind
  simp only [placed]
  apply (returns_modify _).bind
  rw [lastPage_add_one small]
  apply remaps.bind
  refine (compare_returns_iff shows small fits).mpr ⟨fun k below => ?_, rfl⟩
  exact append_page (by omega)

/-- The mapping that shows a page of the file for each of its pages. -/
def assigned (start : Nat) {pages : Nat} (f : Fin pages → Fin pages) : Mapping where
  start := start
  pages := pages
  shared := true
  table := fun k => if below : k < pages then some (.object (f ⟨k, below⟩)) else none

/-- The file of the test, and a mapping of it. -/
def mappedWorld (kernel : Kernel) (path : List Char) (size start : Nat)
    (f : Fin (size / pageSize) → Fin (size / pageSize)) : World :=
  { ((remapFilePagesCreateFile kernel path size).run World.empty).2 with
    mapping := assigned start f }

theorem returned_none_iff (test : Test Unit) (world : World) :
    outcomeOf (test.run world).1 = .returned none ↔ ∃ after, Returns test world () after := by
  rw [show (∃ after, Returns test world () after) ↔ (test.run world).1 = .ok () from ?_]
  · rcases test.run world with ⟨failure | _, after⟩
    · cases failure <;> simp [outcomeOf]
    · simp [outcomeOf]
  · constructor
    · rintro ⟨after, returns⟩
      rw [returns]
    · intro passes
      exact ⟨(test.run world).2, Prod.ext passes rfl⟩

section Oracle

variable {kernel : Kernel} {path : List Char} {size start : Nat}

/-- The comparison passes if and only if every mapped page has the digest of the page that
the reversed mapping has there. -/
theorem compare_passes_iff (created : (kernel.mkstemp path).1 ≠ -1)
    (small : size / pageSize < 2 ^ 31) (fits : start + size / pageSize * pageSize ≤ 2 ^ 64)
    (f : Fin (size / pageSize) → Fin (size / pageSize)) :
    outcomeOf ((remapFilePagesCompare start size).run (mappedWorld kernel path size start f)).1 =
        .returned none ↔
      ∀ k, remapFilePagesHash (f k : Nat) = remapFilePagesHash (Fin.rev k : Nat) := by
  have written : mappedWorld kernel path size start f =
      ⟨(World.empty.append (size / pageSize)).size, (World.empty.append (size / pageSize)).file,
        assigned start f⟩ := by
    rw [mappedWorld, createFile_returns created size]
  have shows : Shows (assigned start f) start (size / pageSize)
      (fun k => if below : k < size / pageSize then f ⟨k, below⟩ else 0) := by
    refine ⟨rfl, Nat.le_refl _, fun k below => ?_⟩
    simp only [assigned, below, dif_pos]
  rw [written, returned_none_iff]
  constructor
  · rintro ⟨after, returns⟩ k
    have equal := ((compare_returns_iff shows small fits).mp returns).1 k k.isLt
    rw [dif_pos k.isLt, append_page (f k).isLt] at equal
    rw [equal, Fin.val_rev, Nat.sub_sub, Nat.add_comm 1]
  · intro equal
    refine ⟨_, (compare_returns_iff shows small fits).mpr ⟨fun k below => ?_, rfl⟩⟩
    rw [dif_pos below, append_page (f ⟨k, below⟩).isLt, equal, Fin.val_rev, Nat.sub_sub,
      Nat.add_comm 1]

/-- The comparison passes exactly for the reversed mapping, whatever the kernel maps, if
and only if the file has at most 256 pages. -/
theorem compare_exact_iff (kernel : Kernel) (path : List Char)
    (created : (kernel.mkstemp path).1 ≠ -1) (size start : Nat)
    (small : size / pageSize < 2 ^ 31) (fits : start + size / pageSize * pageSize ≤ 2 ^ 64) :
    (∀ f : Fin (size / pageSize) → Fin (size / pageSize),
      outcomeOf ((remapFilePagesCompare start size).run (mappedWorld kernel path size start f)).1 =
          .returned none ↔
        ∀ k : Fin (size / pageSize), (f k : Nat) = size / pageSize - 1 - k) ↔
      size / pageSize ≤ 256 := by
  rw [← hash_injective_iff, ← digest_exact_iff fun k => ⟨Fin.rev k, Fin.rev_rev k⟩]
  refine forall_congr' fun f => ?_
  have reversed : f = Fin.rev ↔
      ∀ k : Fin (size / pageSize), (f k : Nat) = size / pageSize - 1 - k := by
    rw [funext_iff]
    refine forall_congr' fun k => ?_
    rw [Fin.ext_iff, Fin.val_rev, Nat.sub_sub, Nat.add_comm 1]
  rw [compare_passes_iff created small fits f, reversed]

end Oracle

/-- A kernel on which every call succeeds. -/
def obedient : Kernel where
  mkstemp path := (3, path)
  openFile _ := 4
  mmapPlace := some (16 * pageSize)
  remapFilePages address pgoff mapping :=
    (0, mapping.enter ((address - mapping.start) / pageSize) (.object pgoff))

theorem compare_exact_iff_two :
    (∀ f : Fin (2 * pageSize / pageSize) → Fin (2 * pageSize / pageSize),
      outcomeOf ((remapFilePagesCompare (16 * pageSize) (2 * pageSize)).run
          (mappedWorld obedient testFileName (2 * pageSize) (16 * pageSize) f)).1 =
          .returned none ↔
        ∀ k : Fin (2 * pageSize / pageSize), (f k : Nat) = 2 * pageSize / pageSize - 1 - k) ↔
      2 * pageSize / pageSize ≤ 256 :=
  compare_exact_iff obedient testFileName (by decide) (2 * pageSize) (16 * pageSize) (by decide)
    (by decide)

/-- The reversed mapping of 257 pages, but with page 0 of the file where page 256 belongs. -/
def swapped (k : Fin (257 * pageSize / pageSize)) : Fin (257 * pageSize / pageSize) :=
  if (k : Nat) = 0 then k else Fin.rev k

/-- The comparison takes page 0 for page 256. -/
theorem wrong_page_passes :
    outcomeOf ((remapFilePagesCompare (16 * pageSize) (257 * pageSize)).run
        (mappedWorld obedient testFileName (257 * pageSize) (16 * pageSize) swapped)).1 =
        .returned none ∧
      ¬∀ k : Fin (257 * pageSize / pageSize),
        (swapped k : Nat) = 257 * pageSize / pageSize - 1 - k := by
  constructor
  · refine (compare_passes_iff (by decide) (by decide) (by decide) swapped).mpr fun k => ?_
    rw [swapped]
    split
    · rename_i first
      rw [remapFilePagesHash_eq_iff, Fin.val_rev, first]
      rfl
    · rfl
  · intro reversed
    exact absurd (reversed ⟨0, by decide⟩) (by decide)

end McKernelTest.RemapFilePages
