import McKernelTest.Driver.Device

/-!
# The file and memory operations of `mmap_dev2`

A user program opens the device, maps it, and touches the pages of the mapping.
The kernel then asks `test_mck_mmap_dev2_vma_fault` for the page behind each
offset.  The handler compares the offset in bytes with the size of the buffer,
and the shift that turns pages into bytes drops the upper bits of the offset.
-/

namespace McKernelTest.Driver

open Machine

/-- A `struct test_mck_dev *`: the place of the device in `test_mck_devlist`. -/
abbrev DevPtr := Nat

/-- `struct file`. -/
structure File where
  privateData : Option DevPtr
  deriving DecidableEq, Repr

/-- The tables of mapping operations. -/
inductive VmOps where
  | mmapDev2
  deriving DecidableEq, Repr

/-- `struct vm_area_struct`, which covers whole pages. -/
structure VmArea where
  vmStart : Nat
  vmEnd : Nat
  vmPgoff : Nat
  vmPrivateData : Option DevPtr
  vmOps : Option VmOps
  ordered : vmStart < vmEnd
  fits : vmEnd ≤ 2 ^ 64
  startAligned : pageSize ∣ vmStart
  endAligned : pageSize ∣ vmEnd

/-- The number of pages of an area. -/
def VmArea.pages (vma : VmArea) : Nat :=
  (vma.vmEnd - vma.vmStart) / pageSize

/-- `struct vm_fault`; a page is named by its number in the buffer. -/
structure VmFault where
  pgoff : Nat
  page : Option Nat
  deriving DecidableEq, Repr

/-- `test_mck_mmap_dev2_open` of the node of the given device. -/
def testMckMmapDev2Open (dev : DevPtr) (file : File) : Int × File :=
  (0, { file with privateData := some dev })

/-- `test_mck_mmap_dev2_mmap`. -/
def testMckMmapDev2Mmap (file : File) (vma : VmArea) : Int × VmArea :=
  (0, { vma with vmPrivateData := file.privateData, vmOps := some .mmapDev2 })

/-- `test_mck_mmap_dev2_vma_fault` with the device that `vm_private_data` points
to. -/
def vmaFaultOf (dev : TestMckDev) (vmf : VmFault) : Int × VmFault :=
  match dev.privateData with
  | none => (enomem.code, vmf)
  | some buf =>
      if testMckMmapDev2BufSize ≤ shiftLeft64 vmf.pgoff pageShift then
        (efault.code, vmf)
      else
        (0, { vmf with
          page := some (buf.toPage (toUlong (buf.addr + shiftLeft64 vmf.pgoff pageShift))) })

/-- `test_mck_mmap_dev2_vma_fault`.  Without private data the handler would follow
a NULL pointer. -/
def testMckMmapDev2VmaFault (devs : DevPtr → TestMckDev) (vma : VmArea) (vmf : VmFault) :
    Option (Int × VmFault) :=
  vma.vmPrivateData.map fun dev => vmaFaultOf (devs dev) vmf

/-- What the kernel does for the first access to a page of an area: it computes
the offset of the page in the file as an `unsigned long` and asks the handler of
the area. -/
def VmArea.fault (devs : DevPtr → TestMckDev) (vma : VmArea) (index : Nat) :
    Option (Int × VmFault) :=
  match vma.vmOps with
  | none => none
  | some .mmapDev2 => testMckMmapDev2VmaFault devs vma ⟨toUlong (vma.vmPgoff + index), none⟩

/-- `_IO`, a command without an argument. -/
def ioCommand (magic number : Nat) : Nat :=
  magic * 2 ^ 8 + number

/-- `TEST_MCK_MMAP_DEV2_BUF_RESET`. -/
def testMckMmapDev2BufReset : Nat :=
  ioCommand 77 0

/-- The reset of a device; without a buffer it would write to address zero. -/
def resetDev (dev : TestMckDev) : TestMckDev :=
  { dev with privateData := dev.privateData.map testMckMmapDev2BufferReset }

/-- `test_mck_mmap_dev2_ioctl`. -/
def testMckMmapDev2Ioctl (devs : DevPtr → TestMckDev) (file : File) (iocmd : Nat) :
    Option (Int × (DevPtr → TestMckDev)) :=
  if iocmd = testMckMmapDev2BufReset then
    file.privateData.map fun dev => (0, Function.update devs dev (resetDev (devs dev)))
  else
    some (0, devs)

/-! ## Which pages are served -/

section Fault

variable {devs : DevPtr → TestMckDev} {dev : DevPtr} {area : VmallocArea} {vma : VmArea}

/-- The fault on page `index` is answered as the size of the buffer demands: an
offset inside is served with its own page, any other is an error without a
page. -/
def ServedExactly (devs : DevPtr → TestMckDev) (vma : VmArea) (index : Nat) : Prop :=
  ∃ res vmf, vma.fault devs index = some (res, vmf) ∧
    (res = 0 ↔ toUlong (vma.vmPgoff + index) < testMckMmapDev2BufSize / pageSize) ∧
    (res = 0 → vmf.page = some (toUlong (vma.vmPgoff + index))) ∧
    (res ≠ 0 → res < 0 ∧ vmf.page = none)

/-- An offset below `2 ^ 52` pages is shifted without loss. -/
theorem shiftLeft64_pageShift {pgoff : Nat} (small : pgoff < 2 ^ 52) :
    shiftLeft64 pgoff pageShift = pgoff * pageSize := by
  simp only [shiftLeft64, toUlong, pageShift, pageSize_eq]
  omega

/-- The handler as a function of the offset, where the shift loses nothing. -/
theorem vmaFaultOf_of_small {target : TestMckDev} {pgoff : Nat}
    (buffer : target.privateData = some area)
    (sized : area.pages * pageSize = testMckMmapDev2BufSize) (small : pgoff < 2 ^ 52) :
    vmaFaultOf target ⟨pgoff, none⟩ =
      if pgoff < testMckMmapDev2BufSize / pageSize then (0, ⟨pgoff, some pgoff⟩)
      else (efault.code, ⟨pgoff, none⟩) := by
  have three : testMckMmapDev2BufSize / pageSize = 3 := rfl
  have size : testMckMmapDev2BufSize = 3 * pageSize := rfl
  simp only [vmaFaultOf, buffer, shiftLeft64_pageShift small, three]
  by_cases inside : pgoff < 3
  · have room : ¬testMckMmapDev2BufSize ≤ pgoff * pageSize := by
      rw [size]
      simp only [pageSize_eq]
      omega
    have known : pgoff < area.pages := by
      rw [size] at sized
      simp only [pageSize_eq] at sized
      omega
    have address : toUlong (area.addr + (pgoff * pageSize : Nat)) =
        area.addr + pgoff * pageSize + 0 := by
      have fits := area.addr_fits
      simp only [pageSize_eq] at fits
      simp only [toUlong, pageSize_eq]
      omega
    have page := area.toPage_spec pgoff known 0 (by decide)
    rw [if_neg room, if_pos inside, address, page]
  · have beyond : testMckMmapDev2BufSize ≤ pgoff * pageSize := by
      rw [size]
      simp only [pageSize_eq]
      omega
    rw [if_pos beyond, if_neg inside]

/-- At `2 ^ 52` pages the shift wraps to the start of the buffer. -/
theorem vmaFaultOf_wrapped {target : TestMckDev} (buffer : target.privateData = some area) :
    ∃ page, vmaFaultOf target ⟨2 ^ 52, none⟩ = (0, ⟨2 ^ 52, some page⟩) := by
  have wrapped : shiftLeft64 (2 ^ 52) pageShift = 0 := by decide
  simp only [vmaFaultOf, buffer, wrapped]
  rw [if_neg (by decide)]
  exact ⟨_, rfl⟩

/-- An area of pages. -/
theorem VmArea.pages_le (vma : VmArea) : vma.pages ≤ 2 ^ 52 := by
  have fits := vma.fits
  simp only [VmArea.pages, pageSize_eq]
  omega

/-- For an open device with its buffer and an area that the driver has accepted,
every page is served exactly if and only if the area ends within the `2 ^ 64`
bytes that an offset can address. -/
theorem pages_served_exactly_iff (devs : DevPtr → TestMckDev) (dev : DevPtr) (area : VmallocArea)
    (buffer : (devs dev).privateData = some area)
    (sized : area.pages * pageSize = testMckMmapDev2BufSize) (closed file : File)
    (opened : testMckMmapDev2Open dev closed = (0, file)) (requested vma : VmArea)
    (accepted : testMckMmapDev2Mmap file requested = (0, vma)) (offset : vma.vmPgoff < 2 ^ 52) :
    (∀ index < vma.pages, ServedExactly devs vma index) ↔ vma.vmPgoff + vma.pages ≤ 2 ^ 52 := by
  have pages := vma.pages_le
  have fault : ∀ index, vma.fault devs index =
      some (vmaFaultOf (devs dev) ⟨toUlong (vma.vmPgoff + index), none⟩) := by
    cases opened
    cases accepted
    exact fun _ => rfl
  have noWrap : ∀ index < vma.pages, toUlong (vma.vmPgoff + index) = vma.vmPgoff + index := by
    intro index known
    simp only [toUlong]
    omega
  constructor
  · intro served
    by_contra beyond
    have known : 2 ^ 52 - vma.vmPgoff < vma.pages := by omega
    have first : vma.vmPgoff + (2 ^ 52 - vma.vmPgoff) = 2 ^ 52 := by omega
    rcases served _ known with ⟨res, vmf, answer, inside, -⟩
    rw [noWrap _ known, first] at inside
    rw [fault, noWrap _ known, first] at answer
    rcases vmaFaultOf_wrapped buffer with ⟨page, wrapped⟩
    rw [wrapped] at answer
    cases answer
    exact absurd (inside.mp rfl) (by decide)
  · intro within index known
    have small : vma.vmPgoff + index < 2 ^ 52 := by omega
    have answer := fault index
    rw [noWrap index known, vmaFaultOf_of_small buffer sized small] at answer
    rw [ServedExactly, noWrap index known]
    by_cases inside : vma.vmPgoff + index < testMckMmapDev2BufSize / pageSize
    · rw [if_pos inside] at answer
      exact ⟨_, _, answer, by simp [inside], by simp, by simp⟩
    · rw [if_neg inside] at answer
      exact ⟨_, _, answer, by simp [inside, efault], by simp [efault], by simp [efault]⟩

end Fault

/-- A buffer at the second mebibyte. -/
def sampleBuffer : VmallocArea where
  addr := 2 ^ 20
  pages := 3
  data := fun _ => 0
  toPage := fun address => (address - 2 ^ 20) / pageSize
  addr_pos := by decide
  addr_fits := by decide
  toPage_spec := by
    intro page _ offset small
    simp only [pageSize_eq] at small ⊢
    omega

/-- A loaded `mmap_dev2`. -/
def sampleDev : TestMckDev :=
  { TestMckDev.fresh mmapDev2Name .mmapDev2 with privateData := some sampleBuffer }

/-- A request for two pages from the given offset on. -/
def twoPages (pgoff : Nat) : VmArea where
  vmStart := 0x10000
  vmEnd := 0x12000
  vmPgoff := pgoff
  vmPrivateData := none
  vmOps := none
  ordered := by decide
  fits := by decide
  startAligned := by decide
  endAligned := by decide

/-- Two pages from the last page of the buffer on: the second one is refused. -/
theorem pages_served_exactly_iff_last :
    ServedExactly (fun _ => sampleDev) (testMckMmapDev2Mmap ⟨some 1⟩ (twoPages 2)).2 0 ∧
      ServedExactly (fun _ => sampleDev) (testMckMmapDev2Mmap ⟨some 1⟩ (twoPages 2)).2 1 := by
  have served := (pages_served_exactly_iff (fun _ => sampleDev) 1 sampleBuffer rfl rfl ⟨none⟩
    ⟨some 1⟩ rfl (twoPages 2) _ rfl (by decide)).mpr (by decide)
  exact ⟨served 0 (by decide), served 1 (by decide)⟩

/-- Two pages from the last offset on: the second page is served with the first page
of the buffer. -/
theorem wrapped_offset_served :
    (testMckMmapDev2Mmap ⟨some 1⟩ (twoPages (2 ^ 52 - 1))).1 = 0 ∧
      (testMckMmapDev2Mmap ⟨some 1⟩ (twoPages (2 ^ 52 - 1))).2.fault (fun _ => sampleDev) 1 =
        some (0, ⟨2 ^ 52, some 0⟩) ∧
      ¬2 ^ 52 < testMckMmapDev2BufSize / pageSize := by
  decide

end McKernelTest.Driver
