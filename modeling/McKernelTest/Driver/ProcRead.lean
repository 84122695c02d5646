import McKernelTest.Driver.Publication
import McKernelTest.Machine.Word

/-!
# Reading the proc files piece by piece

A reader may ask for pieces of any size, may pass a buffer that faults, and may
move the position between its calls.  The read function compares a signed
position with unsigned lengths and counts, so it is modelled with the widths of
the code; within the limits that the VFS guarantees it does what the
unbounded numbers of `testMckProcfsStringRead` do.
-/

namespace McKernelTest.Driver

open Text Machine

/-- `MAX_RW_COUNT`, the largest size that the VFS passes on. -/
def maxRwCount : Nat := 0x7ffff000

/-- One call of `read`: the size asked for, and the number of bytes at the end of
the user's buffer that `copy_to_user` cannot write. -/
structure ReadCall where
  nbytes : Nat
  faulty : Nat
  bounded : nbytes ≤ maxRwCount

/-- `copy_to_user` returns the number of bytes that it could not copy. -/
def ReadCall.copyToUser (call : ReadCall) (count : Nat) : Nat :=
  min call.faulty count

/-- What one call does: its result, the position afterwards, and the bytes that
reach the user, with the offset in the string where they come from. -/
structure ReadResult where
  ret : Int
  ppos : Int
  offset : Nat
  copied : List Char

/-- The bytes that the caller of `read` takes as read. -/
def ReadResult.chunk (result : ReadResult) : List Char :=
  result.copied.take result.ret.toNat

/-- `test_mck_procfs_string_read` with the widths of the code.  `string` is the
memory from the address of the string on. -/
def stringRead64 (string : List Char) (call : ReadCall) (ppos : Int) : ReadResult :=
  let len := (cString string).length
  if toUlong ppos > len then
    ⟨0, ppos, 0, []⟩
  else
    let offset := toUlong ppos
    let count :=
      if toUlong (ppos + call.nbytes) > len then toUlong (len - ppos) else call.nbytes
    let left := call.copyToUser count
    let copied := (string.drop offset).take (count - left)
    if left ≠ 0 then
      ⟨efault.code, ppos, offset, copied⟩
    else
      ⟨toLong count, toLong (ppos + count), offset, copied⟩

/-! ## Open files -/

/-- An open proc file: `private_data`, as the memory it points to, and the
position. -/
structure ProcFile where
  privateData : List Char
  ppos : Int

/-- `test_mck_procfs_devno_open`. -/
def testMckProcfsDevnoOpen (state : DriverState) : ProcFile :=
  ⟨state.testMckMajmin, 0⟩

/-- `test_mck_procfs_tp_names_open`. -/
def testMckProcfsTpNamesOpen (state : DriverState) : ProcFile :=
  ⟨testMckTpNames state.devlist ++ [nul], 0⟩

/-- `test_mck_procfs_devno_read` and `test_mck_procfs_tp_names_read`, which do the
same: a read from the string that the file points to. -/
def testMckProcfsRead (file : ProcFile) (call : ReadCall) : ReadResult :=
  stringRead64 file.privateData call file.ppos

/-- A sequence of calls on one file: the file afterwards, and the bytes read. -/
def reads : ProcFile → List ReadCall → ProcFile × List Char
  | file, [] => (file, [])
  | file, call :: rest =>
      let result := testMckProcfsRead file call
      let (file, chunks) := reads { file with ppos := result.ppos } rest
      (file, result.chunk ++ chunks)

/-! ## One call -/

/-- A string as it lies in memory: its characters, then the terminator, then
anything.  It fits into the upper half of the address space, where the kernel is. -/
structure Published (string : List Char) (memory : List Char) : Prop where
  noNul : nul ∉ string
  terminated : ∃ beyond, memory = string ++ nul :: beyond
  length_lt : string.length < 2 ^ 63

section OneCall

variable {string memory : List Char} {call : ReadCall} {ppos : Nat}

theorem Published.cString_eq (published : Published string memory) : cString memory = string := by
  obtain ⟨beyond, rfl⟩ := published.terminated
  rw [cString_append _ published.noNul, cString_nul_cons, List.append_nil]

/-- The number of bytes that a call at `ppos` is to copy. -/
def readCount (string : List Char) (call : ReadCall) (ppos : Nat) : Nat :=
  min call.nbytes (string.length - ppos)

/-- The three ways a call can go: the position is past the end, `copy_to_user`
faults after `n` of the bytes, or all bytes are copied. -/
inductive ReadOutcome (string : List Char) (call : ReadCall) (ppos : Nat) : ReadResult → Prop
  | past (beyond : string.length < ppos) : ReadOutcome string call ppos ⟨0, ppos, 0, []⟩
  | faulted {n : Nat} (within : ppos ≤ string.length) (short : n < readCount string call ppos)
      (fault : call.copyToUser (readCount string call ppos) ≠ 0) :
      ReadOutcome string call ppos ⟨efault.code, ppos, ppos, (string.drop ppos).take n⟩
  | copied (within : ppos ≤ string.length)
      (noFault : call.copyToUser (readCount string call ppos) = 0) :
      ReadOutcome string call ppos
        ⟨readCount string call ppos, (ppos + readCount string call ppos : Nat), ppos,
          (string.drop ppos).take (readCount string call ppos)⟩

theorem readCount_eq (string : List Char) (call : ReadCall) (ppos : Nat) :
    (if ppos + call.nbytes > string.length then string.length - ppos else call.nbytes) =
      readCount string call ppos := by
  rw [readCount]
  split <;> omega

theorem readCount_le (string : List Char) (call : ReadCall) (ppos : Nat) :
    readCount string call ppos ≤ string.length - ppos :=
  Nat.min_le_right _ _

/-- Bytes taken before the terminator are bytes of the string. -/
theorem Published.drop_take (published : Published string memory) {n : Nat}
    (within : ppos ≤ string.length) (bound : n ≤ string.length - ppos) :
    (memory.drop ppos).take n = (string.drop ppos).take n := by
  obtain ⟨beyond, rfl⟩ := published.terminated
  rw [List.drop_append_of_le_length within, List.take_append_of_le_length]
  rwa [List.length_drop]

/-- No comparison and no sum of the code wraps around while the position is not
negative. -/
theorem stringRead64_outcome (call : ReadCall) (published : Published string memory)
    (position : ppos < 2 ^ 63) :
    ReadOutcome string call ppos (stringRead64 memory call ppos) := by
  have length_lt := published.length_lt
  have bounded := call.bounded
  have count_le := readCount_le string call ppos
  rw [maxRwCount] at bounded
  rw [stringRead64, published.cString_eq, toUlong_natCast (by omega)]
  by_cases beyond : string.length < ppos
  · rw [if_pos beyond]
    exact .past beyond
  · have within : ppos ≤ string.length := Nat.le_of_not_lt beyond
    have sum : toUlong ((ppos : Int) + call.nbytes) = ppos + call.nbytes :=
      toUlong_natCast (show ppos + call.nbytes < 2 ^ 64 by omega)
    have rest : toUlong ((string.length : Int) - ppos) = string.length - ppos := by
      rw [← Int.ofNat_sub within]
      exact toUlong_natCast (by omega)
    rw [if_neg beyond, sum, rest, readCount_eq]
    by_cases noFault : call.copyToUser (readCount string call ppos) = 0
    · simp only [noFault, ne_eq, not_true_eq_false, if_false, Nat.sub_zero]
      rw [published.drop_take within count_le, toLong_eq_self (by omega) (by omega),
        ← Int.natCast_add, toLong_eq_self (by omega) (by omega)]
      exact .copied within noFault
    · simp only [ne_eq, noFault, not_false_eq_true, if_true]
      have someLeft : call.copyToUser (readCount string call ppos) ≤ readCount string call ppos :=
        Nat.min_le_right _ _
      rw [published.drop_take within (by omega)]
      exact .faulted within (by omega) noFault

/-- Within the limits of the VFS the widths of the code make no difference. -/
theorem stringRead64_refines (published : Published string memory) (position : ppos < 2 ^ 63) :
    let result := stringRead64 memory call ppos
    let (ret, chunk, next) := testMckProcfsStringRead string ppos call.nbytes
      (decide (call.copyToUser (readCount string call ppos) = 0))
    result.ret = ret ∧ result.chunk = chunk ∧ result.ppos = next := by
  rw [testMckProcfsStringRead]
  have outcome := stringRead64_outcome call published position
  generalize stringRead64 memory call ppos = result at outcome
  simp only [readCount_eq, ReadResult.chunk]
  cases outcome with
  | past beyond => simp [beyond]
  | faulted within short fault =>
      have negative := Int.toNat_of_nonpos efault.negative.le
      simp [Nat.not_lt.mpr within, fault, negative]
  | copied within noFault => simp [Nat.not_lt.mpr within, noFault]

/-- What one call guarantees at any position: it copies bytes of the string only,
a failing call leaves the position, a successful one before the end moves it, and
0 means the end or an empty request. -/
structure ReadContract (string : List Char) (call : ReadCall) (ppos : Nat)
    (result : ReadResult) : Prop where
  inside : result.offset + result.copied.length ≤ string.length ∧
    result.copied = (string.drop result.offset).take result.copied.length
  failed : result.ret < 0 → result.ppos = ppos
  progress : 0 ≤ result.ret → 0 < call.nbytes → ppos < string.length → (ppos : Int) < result.ppos
  zero_iff : result.ret = 0 ↔ string.length ≤ ppos ∨ call.nbytes = 0

theorem ReadOutcome.contract {result : ReadResult} (outcome : ReadOutcome string call ppos result) :
    ReadContract string call ppos result := by
  have count_le := readCount_le string call ppos
  cases outcome with
  | past beyond =>
      refine ⟨by simp, fun _ => rfl, fun _ _ before => absurd beyond before.asymm, ?_⟩
      simp [beyond.le]
  | faulted within short fault =>
      have negative := efault.negative
      have more : 0 < readCount string call ppos := Nat.zero_lt_of_lt short
      rw [readCount] at more
      refine ⟨⟨?_, by simp⟩, fun _ => rfl, fun success => absurd negative success.not_gt, ?_⟩
      · simp only [List.length_take, List.length_drop]
        omega
      · simp only [negative.ne, false_iff]
        omega
  | copied within noFault =>
      refine ⟨⟨?_, by simp⟩, fun impossible => ?_, fun _ asked before => ?_, ?_⟩
      · simp only [List.length_take, List.length_drop]
        omega
      · exact absurd impossible (Int.natCast_nonneg _).not_gt
      · simp only [readCount]
        omega
      · simp only [readCount]
        omega

/-- A call from a position inside the string stays inside it and returns what lies
between the two positions. -/
theorem ReadOutcome.advances {result : ReadResult} (outcome : ReadOutcome string call ppos result)
    (within : ppos ≤ string.length) :
    ∃ next : Nat, result.ppos = next ∧ next ≤ string.length ∧
      string.take next = string.take ppos ++ result.chunk := by
  cases outcome with
  | past beyond => exact absurd within beyond.not_ge
  | faulted _ _ _ =>
      have negative := Int.toNat_of_nonpos efault.negative.le
      exact ⟨ppos, rfl, within, by simp [ReadResult.chunk, negative]⟩
  | copied _ _ =>
      have count_le := readCount_le string call ppos
      refine ⟨_, rfl, by omega, ?_⟩
      simp [ReadResult.chunk, List.take_add]

end OneCall

/-! ## Sequences of calls -/

/-- Reading on from a position inside the string yields what lies between the two
positions. -/
theorem reads_advances {string memory : List Char} (published : Published string memory)
    (calls : List ReadCall) {ppos : Nat} (within : ppos ≤ string.length) :
    ∃ next : Nat, (reads ⟨memory, ppos⟩ calls).1.ppos = next ∧ next ≤ string.length ∧
      string.take next = string.take ppos ++ (reads ⟨memory, ppos⟩ calls).2 := by
  induction calls generalizing ppos with
  | nil => exact ⟨ppos, rfl, within, by simp [reads]⟩
  | cons call rest ih =>
      have outcome := stringRead64_outcome call published
        (within.trans_lt published.length_lt)
      obtain ⟨middle, position, bound, first⟩ := outcome.advances within
      obtain ⟨next, nextPosition, nextBound, others⟩ := ih bound
      simp only [reads, testMckProcfsRead, position]
      exact ⟨next, nextPosition, nextBound, by rw [others, first, List.append_assoc]⟩

section ProcFiles

variable {kernel : KernelCalls} {majorNumber : Nat} {devlist : List TestMckDev}

theorem tpNames_published (state : DriverState)
    (short : (testMckTpNames state.devlist).length < 2 ^ 63) :
    Published (testMckTpNames state.devlist) (testMckProcfsTpNamesOpen state).privateData := by
  refine ⟨fun member => ?_, ⟨[], rfl⟩, short⟩
  rcases List.mem_flatMap.mp member with ⟨dev, -, inName⟩
  rcases List.mem_append.mp inName with inChars | isBlank
  · cases dev.tsName.plain nul inChars
  · cases List.mem_singleton.mp isBlank

/-- The buffer that the device loop fills ends with a terminator. -/
theorem devno_published (smallMajor : majorNumber < 1000) (small : devlist.length ≤ 1000)
    (accepted : ForDevs (DevAccepted kernel) 0 devlist) :
    Published ((devnosText majorNumber 0 devlist.length).take (8 * devlist.length - 1))
      (testMckProcfsDevnoOpen
        (afterDevLoop kernel majorNumber (.initial devlist))).privateData := by
  refine ⟨fun member => nul_notMem_devnosText (List.mem_of_mem_take member), ?_, ?_⟩
  · have zeros : 8 * devlist.length + 1 - (8 * devlist.length - 1) =
        8 * devlist.length - (8 * devlist.length - 1) + 1 := by omega
    refine ⟨List.replicate (8 * devlist.length - (8 * devlist.length - 1)) nul, ?_⟩
    rw [testMckProcfsDevnoOpen, (afterDevLoop_majmin smallMajor small accepted).1, zeros,
      List.replicate_succ]
  · have length := List.length_take_le (8 * devlist.length - 1)
      (devnosText majorNumber 0 devlist.length)
    omega

/-- Whatever is read from `/proc/test_mck/devno` is a beginning of the list of devices. -/
theorem devno_reads (smallMajor : majorNumber < 1000) (small : devlist.length ≤ 1000)
    (accepted : ForDevs (DevAccepted kernel) 0 devlist) (calls : List ReadCall) :
    (reads (testMckProcfsDevnoOpen (afterDevLoop kernel majorNumber (.initial devlist)))
      calls).2 <+: devnosText majorNumber 0 devlist.length := by
  obtain ⟨next, -, -, taken⟩ :=
    reads_advances (devno_published smallMajor small accepted) calls (Nat.zero_le _)
  rw [List.take_zero, List.nil_append] at taken
  refine List.IsPrefix.trans ?_ (List.take_prefix (8 * devlist.length - 1) _)
  exact taken ▸ List.take_prefix next _

end ProcFiles

/-- Sequential reads reassemble the published string: after any sequence of calls
on a freshly opened file the bytes read are the part of the string before the
position, and every single call, at any position that the VFS can pass, keeps the
contract. -/
theorem reads_reassemble (string memory : List Char) (published : Published string memory)
    (calls : List ReadCall) :
    0 ≤ (reads ⟨memory, 0⟩ calls).1.ppos ∧
      (reads ⟨memory, 0⟩ calls).1.ppos ≤ string.length ∧
      (reads ⟨memory, 0⟩ calls).2 = string.take (reads ⟨memory, 0⟩ calls).1.ppos.toNat ∧
      ∀ (call : ReadCall) (ppos : Nat), ppos < 2 ^ 63 →
        ReadContract string call ppos (testMckProcfsRead ⟨memory, ppos⟩ call) := by
  obtain ⟨next, position, bound, taken⟩ := reads_advances published calls (Nat.zero_le _)
  simp only [Int.natCast_zero] at position taken
  refine ⟨?_, ?_, ?_, fun call ppos small => (stringRead64_outcome call published small).contract⟩
  · omega
  · omega
  · rw [position, Int.toNat_natCast, taken]
    simp

/-- Three calls on the names of the driver's own suites, the second of which
faults. -/
def threeCalls : List ReadCall :=
  [⟨9, 0, by decide⟩, ⟨4, 1, by decide⟩, ⟨4, 0, by decide⟩]

/-- The faulting call leaves no trace in what has been read. -/
theorem reads_reassemble_tp_names :
    (reads (testMckProcfsTpNamesOpen (.initial testMckDevlist)) threeCalls).1.ppos = 13 ∧
      (reads (testMckProcfsTpNamesOpen (.initial testMckDevlist)) threeCalls).2 =
        "mmap_dev mmap".toList := by
  have position :
      (reads (testMckProcfsTpNamesOpen (.initial testMckDevlist)) threeCalls).1.ppos = 13 := by
    decide
  have reassembled :
      (reads (testMckProcfsTpNamesOpen (.initial testMckDevlist)) threeCalls).2 =
        "mmap_dev mmap_dev2 ".toList.take (reads (testMckProcfsTpNamesOpen
          (.initial testMckDevlist)) threeCalls).1.ppos.toNat :=
    (reads_reassemble _ _ (tpNames_published _ (by decide)) threeCalls).2.2.1
  rw [position] at reassembled
  exact ⟨position, reassembled⟩

end McKernelTest.Driver
