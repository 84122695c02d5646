import McKernelTest.MmapDev.Core
import McKernelTest.Process.Returns

/-!
# What the tests do to the buffer

Each loop of the tests is described by the bytes it leaves in the buffer and by
the pages its mapping shows.
-/

namespace McKernelTest.MmapDev

open Driver Machine Posix Process

/-- The buffer of a device after a reset: page `k` is filled with `k + 1`. -/
def resetPattern (offset : Nat) : UInt8 :=
  UInt8.ofNat (offset / pageSize + 1)

/-- The first byte of the pages from `i` on replaced by `'Z'`. -/
def markFrom (i count : Nat) (bytes : Memory) (offset : Nat) : UInt8 :=
  if offset % pageSize = 0 ∧ i ≤ offset / pageSize ∧ offset / pageSize < i + count then zByte
  else bytes offset

theorem markFrom_update (i count : Nat) (bytes : Memory) (offset : Nat) :
    markFrom (i + 1) count (Function.update bytes (i * pageSize + 0) zByte) offset =
      markFrom i (count + 1) bytes offset := by
  have first : offset = i * pageSize + 0 ↔ offset % pageSize = 0 ∧ offset / pageSize = i := by
    simp only [pageSize_eq]
    omega
  rw [markFrom, markFrom, Function.update_apply]
  by_cases isFirst : offset = i * pageSize + 0
  · have place := first.mp isFirst
    rw [if_pos isFirst, ite_self, if_pos]
    omega
  · rw [if_neg isFirst]
    rw [first] at isFirst
    apply if_congr _ rfl rfl
    omega

section Reset

/-- The loop of the reset fills the rest of the buffer. -/
theorem bufferResetFrom_eq (val off : Nat) (data : Memory) (offset : Nat) :
    bufferResetFrom val off data offset =
      if off ≤ offset ∧ offset < testMckMmapDev2BufSize then
        UInt8.ofNat (val + (offset - off) / pageSize)
      else data offset := by
  induction val, off, data using bufferResetFrom.induct with
  | case1 val off data inside len ih =>
      have lenEq : len = min pageSize (testMckMmapDev2BufSize - off) := by
        simp only [len]
        split <;> omega
      rw [bufferResetFrom, if_pos inside]
      refine ih.trans ?_
      have page : pageSize = 4096 := rfl
      by_cases far : off + pageSize ≤ offset ∧ offset < testMckMmapDev2BufSize
      · rw [if_pos far, if_pos (by omega)]
        apply congrArg UInt8.ofNat
        simp only [pageSize_eq] at far ⊢
        omega
      · rw [if_neg far, Memory.memset]
        by_cases near : off ≤ offset ∧ offset < testMckMmapDev2BufSize
        · rw [if_pos (by omega), if_pos near]
          apply congrArg UInt8.ofNat
          simp only [pageSize_eq] at far ⊢
          omega
        · rw [if_neg (by omega), if_neg near]
  | case2 val off data outside =>
      rw [bufferResetFrom, if_neg outside, if_neg]
      omega

/-- The reset gives the buffer its pattern. -/
theorem bufferReset_data (area : VmallocArea) {offset : Nat}
    (inside : offset < testMckMmapDev2BufSize) :
    (testMckMmapDev2BufferReset area).data offset = resetPattern offset := by
  change bufferResetFrom 1 0 area.data offset = _
  rw [bufferResetFrom_eq, if_pos ⟨Nat.zero_le _, inside⟩, resetPattern, Nat.sub_zero, Nat.add_comm]

end Reset

/-! ## Accesses -/

/-- The device has its buffer. -/
def Loaded (devs : Devs) (dev : DevPtr) (area : VmallocArea) : Prop :=
  (devs dev).privateData = some area ∧ area.pages * pageSize = testMckMmapDev2BufSize

/-- The region is a mapping of the first pages of the device. -/
structure Mapped (region : Region) (dev : DevPtr) (pages : Nat) (shared : Bool) : Prop where
  vmPgoff : region.vma.vmPgoff = 0
  vmPrivateData : region.vma.vmPrivateData = some dev
  vmOps : region.vma.vmOps = some .mmapDev2
  start : region.mapping.start = region.vma.vmStart
  pages : region.mapping.pages = pages
  shared : region.mapping.shared = shared

section Loaded

variable {devs : Devs} {dev : DevPtr} {area : VmallocArea} {region : Region} {pages : Nat}
  {shared : Bool}

theorem Loaded.bufferOf (loaded : Loaded devs dev area) : bufferOf (devs dev) = area.data := by
  simp [MmapDev.bufferOf, loaded.1]

/-- Writing the bytes back that are there changes nothing. -/
theorem withBuffer_self (loaded : Loaded devs dev area) :
    Function.update devs dev (withBuffer (devs dev) area.data) = devs := by
  have same : withBuffer (devs dev) area.data = devs dev := by
    rw [withBuffer, loaded.1]
    simp only [Option.map_some]
    rw [← loaded.1]
  rw [same, Function.update_eq_self]

theorem Loaded.withBuffer (loaded : Loaded devs dev area) (bytes : Memory) :
    Loaded (Function.update devs dev (withBuffer (devs dev) bytes)) dev
      { area with data := bytes } := by
  constructor
  · rw [Function.update_self, MmapDev.withBuffer, loaded.1]
    rfl
  · exact loaded.2

theorem Loaded.reset (loaded : Loaded devs dev area) :
    Loaded (Function.update devs dev (resetDev (devs dev))) dev
      (testMckMmapDev2BufferReset area) := by
  constructor
  · rw [Function.update_self, resetDev, loaded.1]
    rfl
  · exact loaded.2

/-- The driver hands out the pages of the buffer in their order. -/
theorem Mapped.fault (mapped : Mapped region dev pages shared) (loaded : Loaded devs dev area)
    {index : Nat} (inside : index < 3) : region.fault devs index = some index := by
  have offset : toUlong (region.vma.vmPgoff + index) = index := by
    rw [mapped.vmPgoff, toUlong]
    omega
  have three : testMckMmapDev2BufSize / pageSize = 3 := rfl
  have answer : region.vma.fault devs index = some (0, ⟨index, some index⟩) := by
    simp only [VmArea.fault, mapped.vmOps, testMckMmapDev2VmaFault, mapped.vmPrivateData, offset,
      Option.map_some]
    rw [vmaFaultOf_of_small loaded.1 loaded.2 (by omega), three, if_pos inside]
  simp [Region.fault, answer]

/-- So a page is found as if the driver answered every fault with the page
itself. -/
theorem Mapped.find (mapped : Mapped region dev pages shared) (loaded : Loaded devs dev area)
    {index : Nat} (inside : index < 3) :
    region.mapping.find (region.fault devs) index = region.mapping.find some index := by
  rw [Mapping.find, Mapping.find, mapped.fault loaded inside]

/-- Two states of a mapping that show the same pages. -/
structure Alike (region other : Region) : Prop where
  vma : other.vma = region.vma
  start : other.mapping.start = region.mapping.start
  pages : other.mapping.pages = region.mapping.pages
  shared : other.mapping.shared = region.mapping.shared
  find : other.mapping.find some = region.mapping.find some

theorem Alike.refl (region : Region) : Alike region region :=
  ⟨rfl, rfl, rfl, rfl, rfl⟩

theorem Alike.trans {first second third : Region} (left : Alike first second)
    (right : Alike second third) : Alike first third :=
  ⟨right.vma.trans left.vma, right.start.trans left.start, right.pages.trans left.pages,
    right.shared.trans left.shared, right.find.trans left.find⟩

theorem Alike.mapped {other : Region} (alike : Alike region other)
    (mapped : Mapped region dev pages shared) : Mapped other dev pages shared where
  vmPgoff := by rw [alike.vma, mapped.vmPgoff]
  vmPrivateData := by rw [alike.vma, mapped.vmPrivateData]
  vmOps := by rw [alike.vma, mapped.vmOps]
  start := by rw [alike.start, alike.vma, mapped.start]
  pages := by rw [alike.pages, mapped.pages]
  shared := by rw [alike.shared, mapped.shared]

/-- A region with one more page in its table. -/
def Region.enter (region : Region) (index : Nat) (page : Page) : Region :=
  { region with mapping := region.mapping.enter index page }

theorem Mapped.enter (mapped : Mapped region dev pages shared) (index : Nat) (page : Page) :
    Mapped (region.enter index page) dev pages shared :=
  ⟨mapped.vmPgoff, mapped.vmPrivateData, mapped.vmOps, mapped.start, mapped.pages, mapped.shared⟩

end Loaded

section Steps

variable {devs : Devs} {dev : DevPtr} {area : VmallocArea} {region : Region} {pages index : Nat}
  {shared : Bool} {page : Page}

/-- A load from a mapped page. -/
theorem loadByte_returns {offset : Nat} (loaded : Loaded devs dev area)
    (mapped : Mapped region dev pages shared) (few : pages ≤ 3) (known : index < pages)
    (small : offset < pageSize) (found : region.mapping.find some index = some page) :
    ∃ other, Alike region other ∧
      Returns (loadByte region (region.vma.vmStart + pageSize * index + offset)) devs
        (page.read pageSize area.data offset, other) devs := by
  have inTable : region.mapping.find (region.fault devs) index = some page := by
    rw [mapped.find loaded (Nat.lt_of_lt_of_le known few), found]
  have loads := Mapping.load_page area.data (mapped.pages ▸ known) small inTable
  refine ⟨region.enter index page, ⟨rfl, rfl, rfl, rfl, Mapping.find_enter_found found⟩, ?_⟩
  apply Returns.bind Returns.get
  rw [← mapped.start]
  simp only [mapped.vmPrivateData, loaded.bufferOf, loads]
  exact Returns.pure

/-- A store to a mapped page. -/
theorem storeByte_returns {offset : Nat} (value : UInt8) (loaded : Loaded devs dev area)
    (mapped : Mapped region dev pages shared) (few : pages ≤ 3) (known : index < pages)
    (small : offset < pageSize) (found : region.mapping.find some index = some page) :
    Returns (storeByte region (region.vma.vmStart + pageSize * index + offset) value) devs
      (region.enter index (Mapping.storePage pageSize area.data shared offset value page).1)
      (Function.update devs dev (withBuffer (devs dev)
        (Mapping.storePage pageSize area.data shared offset value page).2)) := by
  have inTable : region.mapping.find (region.fault devs) index = some page := by
    rw [mapped.find loaded (Nat.lt_of_lt_of_le known few), found]
  have stores := Mapping.store_page area.data value (mapped.pages ▸ known) small inTable
  rw [mapped.shared] at stores
  apply Returns.bind Returns.get
  rw [← mapped.start]
  simp only [mapped.vmPrivateData, loaded.bufferOf, stores]
  exact Returns.bind Returns.set Returns.pure

/-- A comparison with the bytes of a mapped page. -/
theorem memcmpFrom_returns {buf : Memory} (loaded : Loaded devs dev area) (few : pages ≤ 3)
    (known : index < pages) (equal : ∀ offset < pageSize, page.read pageSize area.data offset =
      buf offset) (offset remaining : Nat) (room : offset + remaining ≤ pageSize)
    (mapped : Mapped region dev pages shared)
    (found : region.mapping.find some index = some page) :
    ∃ other, Alike region other ∧
      Returns (memcmpFrom region (region.vma.vmStart + pageSize * index) buf offset remaining) devs
        (0, other) devs := by
  induction remaining generalizing region offset with
  | zero => exact ⟨region, Alike.refl region, Returns.pure⟩
  | succ remaining ih =>
      have small : offset < pageSize := by omega
      rcases loadByte_returns loaded mapped few known small found with ⟨next, alike, loads⟩
      rcases ih (offset + 1) (by omega) (alike.mapped mapped) (by rw [alike.find, found]) with
        ⟨other, further, compares⟩
      refine ⟨other, alike.trans further, loads.bind ?_⟩
      rw [alike.vma] at compares
      simp only [equal offset small, if_true]
      exact compares

/-! ## Loops -/

/-- A page of the buffer with `'Z'` in its first byte. -/
def zPage (bytes : Memory) (index : Nat) : Memory :=
  Function.update (fun offset => bytes (index * pageSize + offset)) 0 zByte

/-- The accesses of a private mapping go to copies of the pages. -/
theorem accessPages_private (loaded : Loaded devs dev area) (few : pages ≤ 3) (i remaining : Nat)
    (total : i + remaining = pages) (mapped : Mapped region dev pages false)
    (shows : ∀ j < pages, region.mapping.find some j =
      some (if j < i then .copy (zPage area.data j) else .object j)) :
    ∃ other, Mapped other dev pages false ∧
      Returns (accessPages region i remaining) devs other devs ∧
      ∀ j < pages, other.mapping.find some j = some (.copy (zPage area.data j)) := by
  induction remaining generalizing region i with
  | zero =>
      refine ⟨region, mapped, Returns.pure, fun j known => ?_⟩
      rw [shows j known, if_pos (by omega)]
  | succ remaining ih =>
      have known : i < pages := by omega
      have found : region.mapping.find some i = some (.object i) := by
        rw [shows i known, if_neg (Nat.lt_irrefl i)]
      have stores := storeByte_returns zByte loaded mapped few known
        (by decide : 0 < pageSize) found
      simp only [Mapping.storePage, Bool.false_eq_true, if_false, withBuffer_self loaded] at stores
      rcases ih (i + 1) (by omega) (mapped.enter i (.copy (zPage area.data i))) (by
        intro j here
        change (region.mapping.enter i _).find some j = _
        rw [Mapping.find_enter]
        by_cases same : j = i
        · subst same
          rw [Function.update_self, if_pos (Nat.lt_succ_self j)]
        · rw [Function.update_of_ne same, shows j here]
          have order : j < i ↔ j < i + 1 := by omega
          simp only [order]) with ⟨other, otherMapped, rest, shown⟩
      exact ⟨other, otherMapped, stores.bind rest, shown⟩

/-- The accesses of a shared mapping go to the buffer. -/
theorem accessPages_shared (loaded : Loaded devs dev area) (few : pages ≤ 3) (i remaining : Nat)
    (total : i + remaining = pages) (mapped : Mapped region dev pages true)
    (shows : ∀ j < pages, region.mapping.find some j = some (.object j)) :
    ∃ other after marked, Loaded after dev marked ∧
      Returns (accessPages region i remaining) devs other after ∧
      ∀ offset, marked.data offset = markFrom i remaining area.data offset := by
  induction remaining generalizing region devs area i with
  | zero =>
      refine ⟨region, devs, area, loaded, Returns.pure, fun offset => ?_⟩
      rw [markFrom, if_neg (by omega)]
  | succ remaining ih =>
      have known : i < pages := by omega
      have stores := storeByte_returns zByte loaded mapped few known (by decide : 0 < pageSize)
        (shows i known)
      simp only [Mapping.storePage, if_true] at stores
      rcases ih (loaded.withBuffer _) (i + 1) (by omega) (mapped.enter i (.object i)) (by
        intro j here
        change (region.mapping.enter i _).find some j = _
        rw [Mapping.find_enter_found (shows i known), shows j here]) with
        ⟨other, after, marked, afterLoaded, rest, data⟩
      refine ⟨other, after, marked, afterLoaded, stores.bind rest, fun offset => ?_⟩
      rw [data offset]
      exact markFrom_update i remaining area.data offset

/-- The validation succeeds if every page shows the byte that the loop expects,
after the `'Z'`. -/
theorem validatePages_returns (loaded : Loaded devs dev area) (few : pages ≤ 3)
    (buf : Memory) (i remaining : Nat) (total : i + remaining = pages)
    (mapped : Mapped region dev pages shared)
    (shows : ∀ j < pages, ∃ page, region.mapping.find some j = some page ∧
      ∀ offset < pageSize, page.read pageSize area.data offset =
        if offset = 0 then zByte else UInt8.ofNat (j + 1)) :
    Returns (validatePages region buf (i + 1) i remaining) devs () devs := by
  induction remaining generalizing region buf i with
  | zero => exact Returns.pure
  | succ remaining ih =>
      have known : i < pages := by omega
      rcases shows i known with ⟨page, found, reads⟩
      have equal : ∀ offset < pageSize, page.read pageSize area.data offset =
          Function.update (buf.memset 0 (UInt8.ofNat (i + 1)) pageSize) 0 zByte offset := by
        intro offset small
        have filled : buf.memset 0 (UInt8.ofNat (i + 1)) pageSize offset = UInt8.ofNat (i + 1) := by
          rw [Memory.memset, if_pos (by omega)]
        rw [reads offset small, Function.update_apply, filled]
      rcases memcmpFrom_returns loaded few known equal 0 pageSize (by omega) mapped found with
        ⟨other, alike, compares⟩
      apply compares.bind
      apply Returns.bind (Returns.pure : Returns (tpAssert (decide ((0 : Int) = 0)) _) devs () devs)
      apply ih
      · omega
      · exact alike.mapped mapped
      · rw [alike.find]
        exact shows

end Steps

end McKernelTest.MmapDev
