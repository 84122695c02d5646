import McKernelTest.Mremap.Suite

/-!
# What the checks of the `mremap` tests find out

The data check passes exactly if every byte can be read and has the expected value, and the
access check exactly if every byte can be written and the outermost ones can be read.  A test
case that passes therefore says what `mremap` has returned and what it has left in memory.
-/

namespace McKernelTest.Mremap

open Machine Posix

section Bytes

variable {memory after : Mappings} {prot : BitVec 32} {address : Nat} {value : UInt8}

/-- An access that needs a protection is granted. -/
def Grants (memory : Mappings) (prot : BitVec 32) (address : Nat) : Prop :=
  ∃ cell, memory.access prot address = .ok cell

theorem access_eq_ok_iff {cell : Cell} :
    memory.access prot address = .ok cell ↔ memory.space address = some cell ∧
      cell.prot &&& prot ≠ 0 ∧ memory.beyond address = false := by
  unfold Mappings.access
  cases memory.space address with
  | none => simp
  | some found =>
      dsimp only
      split_ifs with refused isBeyond
      · simp only [Option.some.injEq, false_iff, not_and]
        rintro rfl granted
        exact absurd refused granted
      · simp [isBeyond]
      · simp only [Except.ok.injEq, Option.some.injEq]
        constructor
        · rintro rfl
          exact ⟨rfl, refused, eq_false_of_ne_true isBeyond⟩
        · exact And.left

theorem storeByte_eq_some_iff :
    storeByte memory address value = some after ↔ ∃ cell,
      memory.access protWrite address = .ok cell ∧ after = { memory with
        space := fun other =>
          if other = address then some { cell with value := value } else memory.space other } := by
  unfold storeByte
  cases memory.access protWrite address with
  | error fault => simp
  | ok cell => simp [eq_comm]

/-- A store changes no protection. -/
theorem grants_of_storeByte (stored : storeByte memory address value = some after) (other : Nat) :
    Grants after prot other ↔ Grants memory prot other := by
  obtain ⟨cell, granted, rfl⟩ := storeByte_eq_some_iff.mp stored
  obtain ⟨found, -, -⟩ := access_eq_ok_iff.mp granted
  simp only [Grants, access_eq_ok_iff]
  by_cases same : other = address
  · subst same
    simp [found]
  · simp [same]

theorem loadByte_eq_some_iff :
    loadByte memory address = some value ↔ ∃ cell,
      memory.access protRead address = .ok cell ∧ cell.value = value := by
  unfold loadByte
  cases memory.access protRead address with
  | error fault => simp
  | ok cell => simp

/-- What has been stored is loaded. -/
theorem loadByte_of_storeByte {found : UInt8}
    (stored : storeByte memory address value = some after) :
    loadByte after address = some found ↔ Grants memory protRead address ∧ found = value := by
  rw [← grants_of_storeByte stored, loadByte_eq_some_iff]
  obtain ⟨cell, -, rfl⟩ := storeByte_eq_some_iff.mp stored
  simp only [Grants, access_eq_ok_iff, if_true, Option.some.injEq]
  constructor
  · rintro ⟨_, ⟨rfl, granted⟩, rfl⟩
    exact ⟨⟨_, rfl, granted⟩, rfl⟩
  · rintro ⟨⟨_, rfl, granted⟩, rfl⟩
    exact ⟨_, ⟨rfl, granted⟩, rfl⟩

theorem exists_storeByte_iff (value : UInt8) :
    (∃ after, storeByte memory address value = some after) ↔ Grants memory protWrite address := by
  simp only [storeByte_eq_some_iff, Grants]
  exact ⟨fun ⟨_, cell, granted, _⟩ => ⟨cell, granted⟩,
    fun ⟨cell, granted⟩ => ⟨_, cell, granted, rfl⟩⟩

/-- `memset` writes all bytes of its range. -/
theorem exists_memsetBytes_iff (value : UInt8) (len : Nat) :
    (∃ after, memsetBytes value len memory address = some after) ↔
      ∀ offset < len, Grants memory protWrite (address + offset) := by
  induction len generalizing memory address with
  | zero => simp [memsetBytes]
  | succ len ih =>
      simp only [memsetBytes, Option.bind_eq_some_iff]
      rw [exists_comm]
      simp only [exists_and_left]
      constructor
      · rintro ⟨first, stored, rest⟩ offset inside
        cases offset with
        | zero => exact (exists_storeByte_iff value).mp ⟨first, stored⟩
        | succ offset =>
            have granted := ih.mp rest offset (Nat.lt_of_succ_lt_succ inside)
            rw [grants_of_storeByte stored, Nat.add_right_comm, Nat.add_assoc] at granted
            exact granted
      · intro granted
        obtain ⟨first, stored⟩ := (exists_storeByte_iff value).mpr (granted 0 (Nat.succ_pos _))
        refine ⟨first, stored, ih.mpr fun offset inside => ?_⟩
        rw [grants_of_storeByte stored, Nat.add_right_comm, Nat.add_assoc]
        exact granted (offset + 1) (Nat.succ_lt_succ inside)

end Bytes

section Checks

variable {memory : Mappings} {addr len : Nat}

/-- The data check reads every byte. -/
theorem dataCheckFrom_eq_none_iff {space : AddressSpace} {expected : UInt8} (remaining idx : Nat) :
    dataCheckFrom space addr expected remaining idx = some none ↔
      ∀ offset < remaining, ∃ cell, space (addr + (idx + offset)) = some cell ∧
        cell.prot &&& protRead ≠ 0 ∧ cell.value = expected := by
  induction remaining generalizing idx with
  | zero => simp [dataCheckFrom]
  | succ remaining ih =>
      constructor
      · intro passed offset inside
        simp only [dataCheckFrom] at passed
        split at passed
        · cases passed
        · rename_i cell found
          split_ifs at passed with unreadable different
          · cases passed
          · cases offset with
            | zero => exact ⟨cell, found, unreadable, not_not.mp different⟩
            | succ offset =>
                have rest := (ih (idx + 1)).mp passed offset (Nat.lt_of_succ_lt_succ inside)
                rwa [Nat.add_right_comm, Nat.add_assoc] at rest
      · intro filled
        apply dataCheckFrom_eq
        intro offset least greatest
        obtain ⟨more, rfl⟩ := Nat.exists_eq_add_of_le least
        exact filled more (by omega)

/-- The data check passes if all bytes are there. -/
theorem dataCheck_passes_iff {expected : UInt8} :
    mremapMmapAnonDataCheck memory.accessible addr len expected = some none ↔
      ∀ offset < len, ∃ cell, memory.access protRead (addr + offset) = .ok cell ∧
        cell.value = expected := by
  rw [mremapMmapAnonDataCheck, dataCheckFrom_eq_none_iff]
  simp only [Nat.zero_add, access_eq_ok_iff, Mappings.accessible]
  refine forall₂_congr fun offset _ => exists_congr fun cell => ?_
  cases memory.beyond (addr + offset) <;> simp [and_assoc]

/-- The access check passes if all bytes can be written. -/
theorem accessCheck_passes_iff :
    mremapMmapAnonAccessCheck memory addr len = some none ↔ addr ≠ 0 ∧
      (0 < len → Grants memory protRead addr ∧ Grants memory protRead (addr + len - 1)) ∧
      ∀ offset < len, Grants memory protWrite (addr + offset) := by
  unfold mremapMmapAnonAccessCheck
  split_ifs with null empty
  · simp [null]
  · obtain rfl : len = 0 := Nat.le_zero.mp empty
    simp [null]
  · have positive : 0 < len := Nat.lt_of_not_le empty
    simp only [Option.bind_eq_bind, Option.bind_eq_some_iff, Option.pure_def, ite_eq_iff]
    constructor
    · rintro ⟨first, storedFirst, _, loadedFirst, ⟨-, ⟨⟩⟩ | ⟨-, last, storedLast, _, loadedLast,
        ⟨-, ⟨⟩⟩ | ⟨-, filled, isFilled, -⟩⟩⟩
      have readsLast := ((loadByte_of_storeByte storedLast).mp loadedLast).1
      refine ⟨null, fun _ => ⟨((loadByte_of_storeByte storedFirst).mp loadedFirst).1,
        (grants_of_storeByte storedFirst _).mp readsLast⟩, fun offset inside => ?_⟩
      have writes := (exists_memsetBytes_iff _ _).mp ⟨filled, isFilled⟩ offset inside
      rwa [grants_of_storeByte storedLast, grants_of_storeByte storedFirst] at writes
    · rintro ⟨-, reads, writes⟩
      obtain ⟨readsFirst, readsLast⟩ := reads positive
      have writesLast := writes (len - 1) (Nat.sub_one_lt (Nat.ne_of_gt positive))
      rw [← Nat.add_sub_assoc positive] at writesLast
      obtain ⟨first, storedFirst⟩ := (exists_storeByte_iff 'A'.toUInt8).mpr (writes 0 positive)
      rw [← grants_of_storeByte storedFirst] at readsLast writesLast
      obtain ⟨last, storedLast⟩ := (exists_storeByte_iff 'Z'.toUInt8).mpr writesLast
      obtain ⟨filled, isFilled⟩ :
          ∃ filled, memsetBytes '0'.toUInt8 len last addr = some filled := by
        rw [exists_memsetBytes_iff]
        intro offset inside
        rw [grants_of_storeByte storedLast, grants_of_storeByte storedFirst]
        exact writes offset inside
      exact ⟨first, storedFirst, _, (loadByte_of_storeByte storedFirst).mpr ⟨readsFirst, rfl⟩,
        Or.inr ⟨not_not.mpr rfl, last, storedLast, _,
          (loadByte_of_storeByte storedLast).mpr ⟨readsLast, rfl⟩,
          Or.inr ⟨not_not.mpr rfl, filled, isFilled, trivial⟩⟩⟩

/-- The access check passes on a range that can be read and written. -/
theorem accessCheck_of_grants (nonzero : addr ≠ 0)
    (grants : ∀ access, protReadWrite &&& access ≠ 0 → ∀ offset < len,
      Grants memory access (addr + offset)) :
    mremapMmapAnonAccessCheck memory addr len = some none := by
  refine accessCheck_passes_iff.mpr ⟨nonzero, fun positive => ?_, grants protWrite (by decide)⟩
  have last := grants protRead (by decide) (len - 1) (Nat.sub_one_lt (Nat.ne_of_gt positive))
  rw [← Nat.add_sub_assoc positive] at last
  exact ⟨grants protRead (by decide) 0 positive, last⟩

end Checks

/-! ## What a test case finds out -/

/-- The test case ends as it should. -/
def Passes (outcome : Outcome) : Prop :=
  outcome = .returned none ∨ outcome = .exited 0

/-- What is left at the end of a test case that passes. -/
def Finish.Holds (memory : Mappings) (remap : Nat) (addrs : Nat → Nat) : Finish → Prop
  | .done => True
  | .access len => ∀ offset < len, Grants memory protWrite (remap + offset)
  | .signal signum base offset =>
      memory.access protRead (base.address remap addrs + offset) = .error signum

section Passes

variable {memory : Mappings} {remap : Nat} {addrs : Nat → Nat}

theorem runChecks_eq_none_iff {checks : List DataCheck} :
    runChecks memory remap addrs checks = none ↔ ∀ check ∈ checks, ∀ offset < check.len,
      ∃ cell, memory.access protRead (check.base.address remap addrs + check.offset + offset) =
        .ok cell ∧ cell.value = check.expected := by
  induction checks with
  | nil => simp [runChecks]
  | cons check rest ih =>
      rw [List.forall_mem_cons, ← dataCheck_passes_iff, ← ih, runChecks]
      split <;> simp_all

/-- A data check that does not pass makes the test case fail. -/
theorem not_passes_of_runChecks {checks : List DataCheck} {outcome : Outcome}
    (failed : runChecks memory remap addrs checks = some outcome) : ¬Passes outcome := by
  induction checks with
  | nil => cases failed
  | cons check rest ih =>
      rw [runChecks] at failed
      split at failed
      · cases failed
        simp [Passes]
      · cases failed
        simp [Passes]
      · exact ih failed

theorem Finish.holds_of_passes {finish : Finish} {sigaction : Int}
    (passes : Passes (finish.run sigaction memory remap addrs)) :
    finish.Holds memory remap addrs := by
  cases finish with
  | done => trivial
  | access len =>
      simp only [Finish.run] at passes
      split at passes
      · simp [Passes] at passes
      · rename_i message checked
        obtain rfl : message = none := by simpa [Passes] using passes
        exact (accessCheck_passes_iff.mp checked).2.2
  | signal signum base offset =>
      simp only [Finish.run] at passes
      split_ifs at passes
      · simp [Passes] at passes
      · split at passes
        · simp [Passes] at passes
        · rename_i fault accessed
          split_ifs at passes with same
          · rw [Finish.Holds, accessed, same]
          · simp [Passes] at passes

/-- A test case passes only if the result of `mremap` and the memory are as it expects. -/
theorem TestCase.afterCall_passes {test : TestCase} {sigaction : Int}
    {result : Except Int Nat × Mappings} (passes : Passes (test.afterCall sigaction addrs result)) :
    test.expectation.check (test.call addrs).newAddress result.1 = none ∧
      (∀ check ∈ test.checks, ∀ offset < check.len, ∃ cell, result.2.access protRead
        (check.base.address (remapOf result.1) addrs + check.offset + offset) = .ok cell ∧
          cell.value = check.expected) ∧
      test.finish.Holds result.2 (remapOf result.1) addrs := by
  rw [TestCase.afterCall] at passes
  split at passes
  · simp [Passes] at passes
  · rename_i expected
    split at passes
    · rename_i outcome failed
      exact absurd passes (not_passes_of_runChecks failed)
    · rename_i checked
      exact ⟨expected, runChecks_eq_none_iff.mp checked, Finish.holds_of_passes passes⟩

end Passes

/-! ## The layout of a test case -/

namespace TestCase

/-- The layout before the call of `mremap`. -/
def layout (test : TestCase) (env : Environment) : Result :=
  mremapMmapAnon env.calls env.space (test.params.map fun request => ⟨request, 0⟩)

/-- The addresses of the entries. -/
def addrs (test : TestCase) (env : Environment) : Nat → Nat :=
  addrsOf (test.layout env).params

/-- The memory before the call of `mremap`. -/
def memory (test : TestCase) (env : Environment) : Mappings :=
  ⟨(test.layout env).space, fun _ => false⟩

/-- What `mremap` returns and leaves. -/
def result (test : TestCase) (env : Environment) : Except Int Nat × Mappings :=
  env.mremap (test.memory env) (test.call (test.addrs env))

/-- Where an entry lies in the block. -/
def offset (test : TestCase) (index : Nat) : Nat :=
  totalSize (test.params.take index)

/-- The sizes are valid. -/
def validSizes (test : TestCase) : Bool :=
  test.params.all (fun request =>
    decide (0 < request.size ∧ request.size % pageSize = 0 ∧ request.size < 2 ^ 64)) &&
    decide (0 < test.params.length ∧ test.params.length ≤ 5 ∧ totalSize test.params < 2 ^ 64)

/-- The entries lie in the block as they were asked for. -/
structure Prepared (test : TestCase) (env : Environment) (start : Nat) : Prop where
  placed : ∀ index request, test.params[index]? = some request →
    test.addrs env index = start + test.offset index
  laid : ∀ index request, test.params[index]? = some request →
    EntryLaid (test.memory env).space index (start + test.offset index) request

section Layout

variable {test : TestCase} {env : Environment}

theorem run_eq (test : TestCase) (env : Environment) :
    test.run env = if (test.layout env).ret = test.params.length then
      test.afterCall env.sigaction (test.addrs env) (test.result env)
    else .returned (some "mmap error.") :=
  rfl

/-- The second loop on the entries of a test case. -/
theorem exists_formatted (valid : test.validSizes = true) {start : Nat}
    (reserved : env.calls.reserve = some start) :
    ∃ n, Formatted env.calls test.params.length 0 start
      (env.space.mapFixed pageSize start (reservedSize test.params) protNone true) test.params
      (test.layout env) n := by
  simp only [validSizes, Bool.and_eq_true, List.all_eq_true, decide_eq_true_eq] at valid
  obtain ⟨sizes, -, few, total⟩ := valid
  have kept : (test.params.map fun request => (⟨request, 0⟩ : MremapMmapAnonParam)).map
      (·.toRequest) = test.params := by
    rw [List.map_map]
    exact List.map_id _
  have count_le : (test.params.map fun request =>
      (⟨request, 0⟩ : MremapMmapAnonParam)).length ≤ maxCount := by
    rw [List.length_map]
    exact few.trans (by decide)
  obtain ⟨visited, same, ⟨-, overflow⟩ | sums⟩ := sumSizes_cases _ count_le fun param member => by
    obtain ⟨request, isRequest, rfl⟩ := List.mem_map.mp member
    obtain ⟨positive, whole, small⟩ := sizes request isRequest
    exact ⟨positive, whole, small⟩
  · rw [kept] at overflow
    omega
  · rw [kept] at same sums
    have length : visited.length = test.params.length := by
      rw [← same, List.length_map]
    obtain ⟨n, formatted⟩ := formatSpace_formatted env.calls start
      (env.space.mapFixed pageSize start (reservedSize test.params) protNone true)
      (length ▸ few.trans (by decide)) (Nat.zero_le maxRounds) (Nat.zero_add visited.length)
      fun param member => (sizes _ (same ▸ List.mem_map_of_mem member)).2.1
    rw [same, length] at formatted
    refine ⟨n, ?_⟩
    simp only [layout, mremapMmapAnon, sums, reserved, length]
    exact formatted

/-- What the entries are when all of them have been laid out. -/
theorem Prepared.of_formatted {start n : Nat} {space : AddressSpace}
    (formatted : Formatted env.calls test.params.length 0 start space test.params
      (test.layout env) n) (whole : n = test.params.length) : test.Prepared env start := by
  have entries : ∀ index request, test.params[index]? = some request → index < n ∧
      ∃ entry, (test.layout env).params[index]? = some entry ∧ entry.toRequest = request := by
    intro index request found
    refine ⟨?_, ?_⟩
    · rw [whole]
      exact (List.getElem?_eq_some_iff.mp found).1
    · rwa [← formatted.kept, List.getElem?_map, Option.map_eq_some_iff] at found
  constructor
  · intro index request found
    obtain ⟨inside, entry, isEntry, -⟩ := entries index request found
    rw [addrs, addrsOf, isEntry]
    exact formatted.placed index inside entry isEntry
  · intro index request found
    obtain ⟨inside, entry, isEntry, rfl⟩ := entries index request found
    have laid := formatted.laid index inside entry isEntry
    rw [Nat.zero_add, formatted.placed index inside entry isEntry] at laid
    exact laid

/-- The result of `mremap_mmap_anon` is the number of entries that it has laid out. -/
theorem ret_of_formatted (valid : test.validSizes = true) {start n : Nat} {space : AddressSpace}
    (formatted : Formatted env.calls test.params.length 0 start space test.params
      (test.layout env) n) : (test.layout env).ret = n := by
  simp only [validSizes, Bool.and_eq_true, decide_eq_true_eq] at valid
  have small : n < maxRounds := by
    have done_le := formatted.done_le
    have few := valid.2.2.1
    rw [maxRounds]
    omega
  rw [formatted.ret, Nat.zero_add, toUlong_loopVar small]

theorem ret_of_unreserved (unreserved : env.calls.reserve = none) : (test.layout env).ret = 0 := by
  unfold layout mremapMmapAnon
  split
  · rfl
  · rw [unreserved]

/-- `mremap_mmap_anon` returns the number of entries only if it has laid out all of them. -/
theorem Prepared.of_ret (valid : test.validSizes = true)
    (returned : (test.layout env).ret = test.params.length) :
    ∃ start, env.calls.reserve = some start ∧ test.Prepared env start := by
  cases reserved : env.calls.reserve with
  | none =>
      rw [ret_of_unreserved reserved] at returned
      simp only [validSizes, Bool.and_eq_true, decide_eq_true_eq] at valid
      exact absurd returned (Nat.ne_of_lt valid.2.1)
  | some start =>
      obtain ⟨n, formatted⟩ := exists_formatted valid reserved
      have whole := (ret_of_formatted valid formatted).symm.trans returned
      exact ⟨start, rfl, .of_formatted formatted whole⟩

/-- `mremap_mmap_anon` lays out all entries if all calls succeed. -/
theorem Prepared.of_calls (valid : test.validSizes = true) {start : Nat}
    (reserved : env.calls.reserve = some start) (willing : ∀ index, env.calls.format index = none) :
    (test.layout env).ret = test.params.length ∧ test.Prepared env start := by
  obtain ⟨n, formatted⟩ := exists_formatted valid reserved
  have ret := ret_of_formatted valid formatted
  have whole : n = test.params.length := by
    apply Nat.le_antisymm formatted.done_le
    by_contra short
    rcases formatted.stopped (Nat.lt_of_not_le short) with failed | ended
    · rw [willing] at failed
      cases failed
    · exact short (ret ▸ ended)
  exact ⟨ret.trans whole, .of_formatted formatted whole⟩

/-- The bytes of an entry before the call. -/
theorem Prepared.exists_cell {start index offset : Nat} {request : Request}
    (prepared : test.Prepared env start) (found : test.params[index]? = some request)
    (used : request.nopage = 0) (prot : request.prot = protReadWrite)
    (inside : offset < request.size) :
    ∃ cell, (test.memory env).space (start + test.offset index + offset) = some cell ∧
      cell.prot = protReadWrite ∧ cell.shared = decide (request.shared ≠ 0) ∧
      cell.value = UInt8.ofNat ('0'.toNat + index) := by
  obtain ⟨cell, isCell, isProt, isShared, value⟩ := (prepared.laid _ _ found).mapped used
    (start + test.offset index + offset)
    ⟨Nat.le_add_right _ _, Nat.add_lt_add_left inside _⟩
  exact ⟨cell, isCell, isProt.trans prot, isShared, value (by rw [prot]; decide)⟩

end Layout

/-- The check of the old contents at the new place. -/
def contentsCheck (test : TestCase) (request : Request) : DataCheck :=
  ⟨.remap, 0, min test.newSize request.size, UInt8.ofNat ('0'.toNat + test.old)⟩

/-- The test case checks that the old contents are found at the new place. -/
def checksContents (test : TestCase) : Bool :=
  test.params[test.old]?.any fun request : Request =>
    decide (request.nopage = (0 : Int) ∧ request.prot = protReadWrite) &&
      ((test.expectation matches .fails _) ||
        decide (test.contentsCheck request ∈ test.checks))

end TestCase

/-- The suite is well formed. -/
theorem testCases_valid :
    testCases.all (fun entry => entry.2.validSizes && entry.2.checksContents) = true := by
  decide +kernel

/-- The old contents that fit into the new range are found there. -/
def TestCase.Keeps (test : TestCase) (env : Environment) : Prop :=
  ∀ request, test.params[test.old]? = some request → ∀ offset < min test.newSize request.size,
    ∃ before after,
      (test.memory env).access protRead (test.addrs env test.old + offset) = .ok before ∧
        (test.result env).2.access protRead (remapOf (test.result env).1 + offset) = .ok after ∧
        after.value = before.value

/-- What a test case that passes says about `mremap`. -/
def TestCase.Confirms (test : TestCase) (env : Environment) : Prop :=
  (match test.expectation with
    | .fails error => remapOf (test.result env).1 = mapFailed ∧
        errnoOf (test.result env).1 = error.code
    | .mapped => remapOf (test.result env).1 ≠ mapFailed ∧ test.Keeps env
    | .placed => remapOf (test.result env).1 = (test.call (test.addrs env)).newAddress ∧
        test.Keeps env) ∧
  test.finish.Holds (test.result env).2 (remapOf (test.result env).1) (test.addrs env)

theorem checkResult_eq_none_iff {success : Prop} [Decidable success] {errno expected : Int} :
    checkResult success errno expected = none ↔ success ∧ errno = expected := by
  unfold checkResult
  split_ifs with succeeded same
  · simp [succeeded, same]
  · simp [same]
  · simp [succeeded]

/-- The check of the contents says that they are those from before. -/
theorem TestCase.keeps_of_checked {test : TestCase} {env : Environment} {start : Nat}
    (prepared : test.Prepared env start) {request : Request}
    (found : test.params[test.old]? = some request) (used : request.nopage = 0)
    (prot : request.prot = protReadWrite)
    (checked : ∀ offset < min test.newSize request.size, ∃ cell, (test.result env).2.access protRead
      (remapOf (test.result env).1 + offset) = .ok cell ∧
        cell.value = UInt8.ofNat ('0'.toNat + test.old)) : test.Keeps env := by
  intro other isOther offset inside
  cases found.symm.trans isOther
  obtain ⟨after, isAfter, value⟩ := checked offset inside
  obtain ⟨before, isBefore, isProt, -, content⟩ :=
    prepared.exists_cell found used prot (inside.trans_le (Nat.min_le_right _ _))
  refine ⟨before, after, ?_, isAfter, value.trans content.symm⟩
  rw [prepared.placed _ _ found, access_eq_ok_iff]
  exact ⟨isBefore, by rw [isProt]; decide, rfl⟩

/-- If a test case of the suite passes, `mremap` has returned what the test case expects.  All old
contents that fit are found at the returned address, and the new range can be written or the last
access has raised the signal. -/
theorem passed_confirms {number : Nat} {test : TestCase} (member : (number, test) ∈ testCases)
    (env : Environment) (passes : Passes (test.run env)) :
    (test.layout env).ret = test.params.length ∧ test.Confirms env := by
  have valid := List.all_eq_true.mp testCases_valid _ member
  rw [Bool.and_eq_true] at valid
  rw [TestCase.run_eq] at passes
  split at passes
  · rename_i returned
    obtain ⟨start, -, prepared⟩ := TestCase.Prepared.of_ret valid.1 returned
    obtain ⟨expected, checked, holds⟩ := TestCase.afterCall_passes passes
    obtain ⟨request, found, isChecked⟩ := (Option.any_eq_true _ _).mp valid.2
    simp only [Bool.and_eq_true, Bool.or_eq_true, decide_eq_true_eq] at isChecked
    obtain ⟨⟨used, prot⟩, isChecked⟩ := isChecked
    have keeps : test.contentsCheck request ∈ test.checks → test.Keeps env := fun isCheck =>
      TestCase.keeps_of_checked prepared found used prot (checked _ isCheck)
    refine ⟨returned, ?_, holds⟩
    cases expectation : test.expectation with
    | mapped =>
        rw [expectation] at expected isChecked
        exact ⟨(checkResult_eq_none_iff.mp expected).1, keeps (isChecked.resolve_left (by simp))⟩
    | placed =>
        rw [expectation] at expected isChecked
        exact ⟨(checkResult_eq_none_iff.mp expected).1, keeps (isChecked.resolve_left (by simp))⟩
    | fails error =>
        rw [expectation] at expected
        exact checkResult_eq_none_iff.mp expected
  · simp [Passes] at passes

/-- A kernel that reserves the block at `start` and gives the old range back as it is. -/
def keeping (start : Nat) : Environment :=
  ⟨⟨some start, fun _ => none⟩, fun _ => none, fun memory call => (.ok call.oldAddress, memory), 0⟩

/-- The data check and the access check of `mremap_mmap_anon#0` pass. -/
theorem mremapMmapAnon000_passes {start : Nat} (nonzero : start ≠ 0) (valid : start ≠ mapFailed) :
    Passes ((mremapMmapAnon000 ⟨mremapRangeSize, 0⟩).run (keeping start)) := by
  generalize isTest : mremapMmapAnon000 ⟨mremapRangeSize, 0⟩ = test
  have isFirst : test.params[0]? =
      some (use ⟨mremapRangeSize, 0⟩ mremapRangeSize protReadWrite) := by
    rw [← isTest]
    rfl
  have validSizes : test.validSizes = true := by
    rw [← isTest]
    decide
  obtain ⟨returned, prepared⟩ : (test.layout (keeping start)).ret = test.params.length ∧
      test.Prepared (keeping start) start :=
    TestCase.Prepared.of_calls validSizes rfl fun _ => rfl
  have cells : ∀ offset < mremapRangeSize, ∃ cell,
      (test.memory (keeping start)).space (start + offset) = some cell ∧
        cell.prot = protReadWrite ∧ cell.value = '0'.toUInt8 := by
    intro offset inside
    obtain ⟨cell, isCell, isProt, -, value⟩ := prepared.exists_cell isFirst rfl rfl inside
    exact ⟨cell, isCell, isProt, value⟩
  have isResult : test.result (keeping start) = (.ok start, test.memory (keeping start)) := by
    have isOld : test.addrs (keeping start) test.old = start := by
      rw [← isTest] at prepared ⊢
      exact prepared.placed 0 _ rfl
    exact congrArg (fun address => (Except.ok address, test.memory (keeping start))) isOld
  have expected : test.expectation.check (test.call (test.addrs (keeping start))).newAddress
      (.ok start) = none := by
    rw [← isTest]
    exact checkResult_eq_none_iff.mpr ⟨valid, rfl⟩
  have checked : runChecks (test.memory (keeping start)) start (test.addrs (keeping start))
      test.checks = none := by
    refine runChecks_eq_none_iff.mpr fun check isCheck offset inside => ?_
    obtain rfl : check = ⟨.remap, 0, mremapRangeSize, '0'.toUInt8⟩ := by
      rw [← isTest] at isCheck
      exact List.mem_singleton.mp isCheck
    obtain ⟨cell, isCell, isProt, value⟩ := cells offset inside
    exact ⟨cell, access_eq_ok_iff.mpr ⟨isCell, by rw [isProt]; decide, rfl⟩, value⟩
  have accessed : mremapMmapAnonAccessCheck (test.memory (keeping start)) start
      mremapRangeSize = some none := by
    refine accessCheck_of_grants nonzero fun access isAccess offset inside => ?_
    obtain ⟨cell, isCell, isProt, -⟩ := cells offset inside
    exact ⟨cell, access_eq_ok_iff.mpr ⟨isCell, isProt ▸ isAccess, rfl⟩⟩
  have isFinish : test.finish = .access mremapRangeSize := by
    rw [← isTest]
    rfl
  refine Or.inl ?_
  rw [TestCase.run_eq, if_pos returned, TestCase.afterCall, isResult]
  simp only [expected, remapOf, checked, isFinish, Finish.run, accessed]

theorem passed_confirms_000 :
    Passes ((mremapMmapAnon000 ⟨mremapRangeSize, 0⟩).run (keeping 0x7f0000000000)) ∧
      (mremapMmapAnon000 ⟨mremapRangeSize, 0⟩).Confirms (keeping 0x7f0000000000) := by
  have member : (0, mremapMmapAnon000 ⟨mremapRangeSize, 0⟩) ∈ testCases :=
    List.mem_of_getElem? (i := 0) rfl
  have passes := mremapMmapAnon000_passes (show 0x7f0000000000 ≠ 0 by decide) (by decide)
  exact ⟨passes, (passed_confirms member _ passes).2⟩

end McKernelTest.Mremap
