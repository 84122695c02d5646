import McKernelTest.Mremap.Checks

/-!
# The `mremap` tests on a kernel that conforms

Where the remapped range goes, or why the call is refused, can be read off the layout of a
test case.  So can what has to be found afterwards at every address that the test case looks
at.  This is checked once for each test case; a kernel that conforms then makes it pass,
wherever the block has been reserved.
-/

namespace McKernelTest.Mremap

open Machine Posix

/-- What the layout says about the new range. -/
inductive Placement where
  | stays
  | movesTo (offset : Nat)
  | movesAway
  | refused (error : MremapError)
  deriving DecidableEq, Repr

namespace TestCase

/-- The new range at a fixed offset, if `request` is the remapped entry. -/
def fixedPlacement (test : TestCase) (request : Request) (index extra : Nat) : Option Placement :=
  let source := test.offset test.old
  let target := test.offset index + extra
  if test.flags = mremapMaymove ||| mremapFixed ∧ test.oldSize ≤ request.size ∧
      target % pageSize = 0 ∧ index < test.params.length then
    if source + test.oldSize ≤ target ∨ target + test.newSize ≤ source then some (.movesTo target)
    else some (.refused .einval)
  else
    none

/-- The new range of an entry that becomes longer.  The entry behind it is free or in the way. -/
def longerPlacement (test : TestCase) (request next : Request) : Option Placement :=
  if test.oldSize = request.size then
    if next.nopage ≠ 0 then
      if test.newSize - test.oldSize ≤ next.size then some .stays else none
    else if test.flags &&& mremapMaymove ≠ 0 then
      some .movesAway
    else
      some (.refused .enomem)
  else
    none

/-- The new range follows from the layout. -/
def placement (test : TestCase) (request : Request) : Option Placement :=
  match test.naddr with
  | some (index, extra) => test.fixedPlacement request index extra
  | none =>
      if test.flags &&& mremapFixed ≠ 0 then none
      else if test.newSize ≤ test.oldSize then some .stays
      else test.params[test.old + 1]?.bind (test.longerPlacement request)

end TestCase

/-- The assertions about the result of `mremap` hold. -/
def Placement.meets : Placement → Expectation → Bool
  | .stays, .mapped | .movesAway, .mapped | .movesTo _, .placed => true
  | .refused error, .fails expected => decide (error = expected)
  | _, _ => false

/-- Two ranges have no byte in common. -/
def apart (first length second other : Nat) : Bool :=
  decide (first + length ≤ second ∨ second + other ≤ first)

namespace TestCase

/-- A data check passes. -/
def meetsCheck (test : TestCase) (request : Request) (placement : Placement)
    (check : DataCheck) : Bool :=
  match check.base, placement with
  | .remap, _ =>
      decide (check.offset = 0 ∧ check.len ≤ test.oldSize ∧ check.len ≤ test.newSize ∧
        check.len ≤ request.size ∧ check.expected = UInt8.ofNat ('0'.toNat + test.old))
  | .entry index, .movesTo target =>
      test.params[index]?.any fun other : Request =>
        decide (other.nopage = (0 : Int) ∧ other.prot = protReadWrite ∧
          check.offset + check.len ≤ other.size ∧
          check.expected = UInt8.ofNat ('0'.toNat + index)) &&
        apart (test.offset index + check.offset) check.len target test.newSize &&
        apart (test.offset index + check.offset) check.len (test.offset test.old) test.oldSize
  | _, _ => false

/-- The end of the test case is as it should be. -/
def meetsFinish (test : TestCase) (request : Request) (placement : Placement) : Finish → Bool
  | .done => true
  | .access len =>
      decide (len ≤ test.newSize ∧ (test.oldSize ≤ request.size ∨ len ≤ request.size) ∧
        (len ≤ test.oldSize ∨ request.shared = (0 : Int)))
  | .signal .segv .remap offset =>
      decide (placement = .stays ∧ test.newSize ≤ offset ∧ offset < test.oldSize)
  | .signal .segv (.entry index) offset =>
      decide (index = test.old ∧ offset < test.oldSize ∧ test.oldSize ≤ request.size) &&
        (match placement with
          | .movesTo _ | .movesAway => true
          | _ => false)
  | .signal .bus .remap offset =>
      decide (test.oldSize ≤ offset ∧ offset < test.newSize ∧ request.shared ≠ (0 : Int))
  | .signal .bus (.entry _) _ => false

/-- What the test case expects follows from its layout. -/
def meets (test : TestCase) : Bool :=
  test.validSizes && test.params[test.old]?.any fun request : Request =>
    decide (request.nopage = (0 : Int) ∧ request.prot = protReadWrite ∧ 0 < test.oldSize) &&
      (test.placement request).any fun placement =>
        placement.meets test.expectation &&
          match placement with
          | .refused _ => decide (test.checks = [] ∧ test.finish = .done)
          | _ => test.checks.all (test.meetsCheck request placement) &&
              test.meetsFinish request placement test.finish

end TestCase

theorem testCases_meet : testCases.all (·.2.meets) = true := by
  decide +kernel

/-! ## The remapped entry -/

section Mappings

variable {test : TestCase} {env : Environment} {start index : Nat} {request : Request}

theorem TestCase.Prepared.mapped (prepared : test.Prepared env start)
    (found : test.params[index]? = some request) (used : request.nopage = 0) {size : Nat}
    (fits : size ≤ request.size) : (test.memory env).Mapped (start + test.offset index) size := by
  rintro address ⟨least, greatest⟩
  obtain ⟨cell, isCell, -⟩ := (prepared.laid _ _ found).mapped used address
    ⟨least, greatest.trans_le (Nat.add_le_add_left fits _)⟩
  rw [isCell]
  rfl

/-- The entry behind another one. -/
theorem TestCase.offset_succ (found : test.params[index]? = some request) :
    test.offset (index + 1) = test.offset index + request.size :=
  totalSize_take_succ found

theorem TestCase.size_pos (valid : test.validSizes = true)
    (found : test.params[index]? = some request) : 0 < request.size := by
  simp only [TestCase.validSizes, Bool.and_eq_true, List.all_eq_true, decide_eq_true_eq] at valid
  exact (valid.1 request (List.mem_of_getElem? found)).1

/-- Every entry begins at a page. -/
theorem TestCase.offset_whole (valid : test.validSizes = true) :
    test.offset index % pageSize = 0 := by
  simp only [TestCase.validSizes, Bool.and_eq_true, List.all_eq_true, decide_eq_true_eq] at valid
  exact totalSize_whole fun request member => (valid.1 request (List.mem_of_mem_take member)).2.1

end Mappings

/-! ## Where the entry goes -/

/-- The address that the layout says. -/
def Placement.Lands (test : TestCase) (env : Environment) (start target : Nat) : Placement → Prop
  | .stays => target = start + test.offset test.old
  | .movesTo offset => target = start + offset ∧ (test.call (test.addrs env)).newAddress = target ∧
      (test.offset test.old + test.oldSize ≤ offset ∨ offset + test.newSize ≤ test.offset test.old)
  | .movesAway => (test.memory env).Free target test.newSize
  | .refused _ => False

section Placement

variable {test : TestCase} {env : Environment} {start : Nat} {request : Request}

/-- The memory after a successful call. -/
def TestCase.moved (test : TestCase) (env : Environment) (start target : Nat) : Mappings :=
  (test.memory env).relocate (start + test.offset test.old) test.oldSize target test.newSize

/-- The answer to a call has been given. -/
def TestCase.Answered (test : TestCase) (env : Environment) (start : Nat) (placement : Placement) :
    Prop :=
  (∃ error, placement = .refused error ∧
      test.result env = (.error error.code, test.memory env)) ∨
    ∃ target, 0 < target ∧ target % pageSize = 0 ∧ placement.Lands test env start target ∧
      test.result env = (.ok target, test.moved env start target)

/-- The arguments of the call, once the entries are known. -/
theorem TestCase.Prepared.oldAddress_eq (prepared : test.Prepared env start)
    (found : test.params[test.old]? = some request) :
    (test.call (test.addrs env)).oldAddress = start + test.offset test.old :=
  prepared.placed _ _ found

theorem TestCase.Prepared.newAddress_eq (prepared : test.Prepared env start) {index extra : Nat}
    (isNaddr : test.naddr = some (index, extra)) (inside : index < test.params.length) :
    (test.call (test.addrs env)).newAddress = start + (test.offset index + extra) := by
  have placed := prepared.placed index _ (List.getElem?_eq_getElem inside)
  simp only [TestCase.call, isNaddr, Option.map_some, Option.getD_some]
  rw [placed, Nat.add_assoc]

variable {placement : Placement}

section Answers

variable (prepared : test.Prepared env start) (positive : 0 < start)
  (aligned : start % pageSize = 0) (found : test.params[test.old]? = some request)
  (conforms : (test.call (test.addrs env)).Conforms (test.memory env) pageSize (test.result env))
include prepared positive aligned found conforms

/-- A call to a fixed address. -/
theorem TestCase.answered_fixed (used : request.nopage = 0) {index extra : Nat}
    (isNaddr : test.naddr = some (index, extra))
    (isPlacement : test.fixedPlacement request index extra = some placement) :
    test.Answered env start placement := by
  obtain ⟨⟨flags, fits, whole, inside⟩, isPlacement⟩ :=
    Option.ite_none_right_eq_some.mp isPlacement
  have isSource := prepared.oldAddress_eq found
  have isTarget := prepared.newAddress_eq isNaddr inside
  have isFixed : (test.call (test.addrs env)).IsFixed := by
    show test.flags &&& mremapFixed ≠ 0
    rw [flags]
    decide
  have mayMove : (test.call (test.addrs env)).MayMove := by
    show test.flags &&& mremapMaymove ≠ 0
    rw [flags]
    decide
  have isAligned : (start + (test.offset index + extra)) % pageSize = 0 := by
    rw [Nat.add_mod, aligned, whole]
    rfl
  have mapped := prepared.mapped found used fits
  rw [← isSource] at mapped
  rw [MremapCall.Conforms,
    MremapCall.answer_of_fixed isFixed mayMove (isTarget ▸ isAligned) mapped] at conforms
  have disjoint : (test.call (test.addrs env)).Disjoint ↔
      test.offset test.old + test.oldSize ≤ test.offset index + extra ∨
        test.offset index + extra + test.newSize ≤ test.offset test.old := by
    rw [MremapCall.Disjoint, isSource, isTarget]
    show _ + test.oldSize ≤ _ ∨ _ + test.newSize ≤ _ ↔ _
    omega
  simp only [disjoint] at conforms
  split_ifs at conforms isPlacement with isApart
  · cases isPlacement
    rw [isSource, isTarget] at conforms
    exact Or.inr ⟨_, Nat.add_pos_left positive _, isAligned, ⟨rfl, isTarget, isApart⟩, conforms⟩
  · cases isPlacement
    exact Or.inl ⟨_, rfl, conforms⟩

/-- A call that leaves the entry where it is. -/
theorem TestCase.answered_stays (valid : test.validSizes = true)
    (isAnswer : (test.call (test.addrs env)).answer (test.memory env) pageSize =
      .place (test.call (test.addrs env)).oldAddress) : test.Answered env start .stays := by
  rw [MremapCall.Conforms, isAnswer, prepared.oldAddress_eq found] at conforms
  refine Or.inr ⟨_, Nat.add_pos_left positive _, ?_, rfl, conforms⟩
  rw [Nat.add_mod, aligned, TestCase.offset_whole valid]
  rfl

omit positive aligned conforms in
/-- The range behind the remapped entry is free if the next entry is. -/
theorem TestCase.roomBehind_iff {next : Request}
    (isNext : test.params[test.old + 1]? = some next) (nonempty : 0 < next.size)
    (whole : test.oldSize = request.size) (longer : test.oldSize < test.newSize)
    (fits : next.nopage ≠ 0 → test.newSize - test.oldSize ≤ next.size) :
    (test.call (test.addrs env)).RoomBehind (test.memory env) ↔ next.nopage ≠ 0 := by
  have laid := prepared.laid _ _ isNext
  rw [TestCase.offset_succ found, ← whole, ← Nat.add_assoc] at laid
  rw [MremapCall.RoomBehind, prepared.oldAddress_eq found]
  constructor
  · intro free isFree
    have inside : InRange (start + test.offset test.old + test.oldSize)
        (test.newSize - test.oldSize) (start + test.offset test.old + test.oldSize) :=
      ⟨Nat.le_refl _, Nat.lt_add_of_pos_right (Nat.sub_pos_of_lt longer)⟩
    obtain ⟨cell, isCell, -⟩ := laid.mapped isFree _
      ⟨Nat.le_refl _, Nat.lt_add_of_pos_right nonempty⟩
    rw [free _ inside] at isCell
    cases isCell
  · intro isFree address ⟨least, greatest⟩
    exact laid.freed isFree address
      ⟨least, greatest.trans_le (Nat.add_le_add_left (fits isFree) _)⟩

/-- A call that makes the entry longer. -/
theorem TestCase.answered_longer (valid : test.validSizes = true) (used : request.nopage = 0)
    (notFixed : ¬(test.call (test.addrs env)).IsFixed) (longer : test.oldSize < test.newSize)
    {next : Request} (isNext : test.params[test.old + 1]? = some next)
    (isPlacement : test.longerPlacement request next = some placement) :
    test.Answered env start placement := by
  obtain ⟨whole, isPlacement⟩ := Option.ite_none_right_eq_some.mp isPlacement
  have nonempty := TestCase.size_pos valid isNext
  have mapped := prepared.mapped found used (Nat.le_of_eq whole)
  rw [← prepared.oldAddress_eq found] at mapped
  split at isPlacement
  · rename_i isFree
    obtain ⟨fits, ⟨⟩⟩ := Option.ite_none_right_eq_some.mp isPlacement
    have room := (TestCase.roomBehind_iff prepared found isNext nonempty whole longer
      fun _ => fits).mpr isFree
    exact TestCase.answered_stays prepared positive aligned found conforms valid
      (MremapCall.answer_of_room notFixed mapped room)
  · rename_i inUse
    have noRoom := mt (TestCase.roomBehind_iff prepared found isNext nonempty whole longer
      (absurd · inUse)).mp inUse
    rw [MremapCall.Conforms, MremapCall.answer_of_noRoom notFixed longer mapped noRoom] at conforms
    by_cases mayMove : (test.call (test.addrs env)).MayMove
    · rw [if_pos mayMove, prepared.oldAddress_eq found] at conforms
      rw [if_pos (show test.flags &&& mremapMaymove ≠ 0 from mayMove)] at isPlacement
      cases isPlacement
      obtain ⟨target, nonzero, isAligned, free, isResult⟩ := conforms
      exact Or.inr ⟨target, nonzero, isAligned, free, isResult⟩
    · rw [if_neg mayMove] at conforms
      rw [if_neg (show ¬test.flags &&& mremapMaymove ≠ 0 from mayMove)] at isPlacement
      cases isPlacement
      exact Or.inl ⟨_, rfl, conforms⟩

/-- The new range is where the layout says. -/
theorem TestCase.answered (valid : test.validSizes = true) (used : request.nopage = 0)
    (isPlacement : test.placement request = some placement) :
    test.Answered env start placement := by
  unfold TestCase.placement at isPlacement
  split at isPlacement
  · rename_i index extra isNaddr
    exact TestCase.answered_fixed prepared positive aligned found conforms used isNaddr isPlacement
  · obtain ⟨notFixed, isPlacement⟩ := Option.ite_none_left_eq_some.mp isPlacement
    split at isPlacement
    · rename_i shorter
      cases isPlacement
      exact TestCase.answered_stays prepared positive aligned found conforms valid
        (MremapCall.answer_of_shorter notFixed shorter)
    · rename_i longer
      obtain ⟨next, isNext, isPlacement⟩ := Option.bind_eq_some_iff.mp isPlacement
      exact TestCase.answered_longer prepared positive aligned found conforms valid used notFixed
        (Nat.lt_of_not_le longer) isNext isPlacement

end Answers

end Placement

/-! ## What is found afterwards -/

section Afterwards

variable {test : TestCase} {env : Environment} {start target : Nat} {request : Request}
  {placement : Placement}

theorem access_eq_segv {memory : Mappings} {prot : BitVec 32} {address : Nat}
    (unmapped : memory.space address = none) : memory.access prot address = .error .segv := by
  rw [Mappings.access, unmapped]

theorem access_eq_bus {memory : Mappings} {prot : BitVec 32} {address : Nat} {cell : Cell}
    (mapped : memory.space address = some cell) (granted : cell.prot &&& prot ≠ 0)
    (isBeyond : memory.beyond address = true) : memory.access prot address = .error .bus := by
  rw [Mappings.access, mapped]
  simp only [if_neg granted, isBeyond, if_true]

section Entry

variable (prepared : test.Prepared env start) (found : test.params[test.old]? = some request)
  (used : request.nopage = 0) (prot : request.prot = protReadWrite)
include prepared found used prot

/-- The old contents. -/
theorem TestCase.moved_old {offset : Nat} (old : offset < test.oldSize)
    (new : offset < test.newSize) (inside : offset < request.size) :
    ∃ cell, (test.moved env start target).space (target + offset) = some cell ∧
      cell.prot = protReadWrite ∧ cell.value = UInt8.ofNat ('0'.toNat + test.old) ∧
      (test.moved env start target).beyond (target + offset) = false := by
  obtain ⟨cell, isCell, isProt, -, value⟩ := prepared.exists_cell found used prot inside
  obtain ⟨space, beyond⟩ :=
    (test.memory env).relocate_moved (start + test.offset test.old) target old new
  exact ⟨cell, space.trans isCell, isProt, value, beyond⟩

/-- The bytes by which the entry has become longer. -/
theorem TestCase.moved_fresh (nonempty : 0 < request.size) {offset : Nat}
    (old : test.oldSize ≤ offset) (new : offset < test.newSize) :
    ∃ cell, (test.moved env start target).space (target + offset) = some cell ∧
      cell.prot = protReadWrite ∧
      (test.moved env start target).beyond (target + offset) = decide (request.shared ≠ 0) := by
  obtain ⟨cell, isCell, isProt, isShared, -⟩ := prepared.exists_cell found used prot nonempty
  obtain ⟨space, beyond⟩ := Mappings.relocate_fresh target isCell old new
  exact ⟨_, space, isProt, beyond.trans isShared⟩

/-- The entry is not where it was. -/
theorem TestCase.moved_left (lands : placement.Lands test env start target)
    (leaves : placement ≠ .stays) (fits : test.oldSize ≤ request.size) {offset : Nat}
    (old : offset < test.oldSize) :
    (test.moved env start target).space (start + test.offset test.old + offset) = none := by
  apply Mappings.relocate_left
  · exact ⟨Nat.le_add_right _ _, Nat.add_lt_add_left old _⟩
  · rintro ⟨least, greatest⟩
    cases placement with
    | stays => exact leaves rfl
    | movesTo offset =>
        obtain ⟨rfl, -, isApart⟩ := lands
        omega
    | movesAway =>
        obtain ⟨cell, isCell, -⟩ := prepared.exists_cell found used prot (old.trans_le fits)
        rw [lands _ ⟨least, greatest⟩] at isCell
        cases isCell
    | refused error => exact lands

/-- The data checks pass. -/
theorem TestCase.check_passes (lands : placement.Lands test env start target) {check : DataCheck}
    (meets : test.meetsCheck request placement check = true) :
    ∀ offset < check.len, ∃ cell, (test.moved env start target).access protRead
      (check.base.address target (test.addrs env) + check.offset + offset) = .ok cell ∧
        cell.value = check.expected := by
  intro offset inside
  unfold TestCase.meetsCheck at meets
  split at meets
  · rename_i isBase
    obtain ⟨noOffset, old, new, size, expected⟩ := of_decide_eq_true meets
    obtain ⟨cell, isCell, isProt, value, backed⟩ := TestCase.moved_old prepared found used prot
      (inside.trans_le old) (inside.trans_le new) (inside.trans_le size)
    refine ⟨cell, ?_, value.trans expected.symm⟩
    rw [isBase, noOffset, access_eq_ok_iff]
    exact ⟨isCell, by rw [isProt]; decide, backed⟩
  · rename_i index place isBase
    simp only [Option.any_eq_true, Bool.and_eq_true, decide_eq_true_eq, apart] at meets
    obtain ⟨other, isOther, ⟨⟨otherUsed, otherProt, fits, expected⟩, apartNew⟩, apartOld⟩ := meets
    obtain ⟨rfl, -⟩ := lands
    obtain ⟨cell, isCell, isProt, -, value⟩ := prepared.exists_cell isOther otherUsed otherProt
      (Nat.lt_of_lt_of_le (Nat.add_lt_add_left inside check.offset) fits)
    have isAddress : check.base.address (start + place) (test.addrs env) + check.offset + offset =
        start + test.offset index + (check.offset + offset) := by
      rw [isBase, Base.address, prepared.placed _ _ isOther, Nat.add_assoc]
    have outsideOld : ¬InRange (start + test.offset test.old) test.oldSize
        (start + test.offset index + (check.offset + offset)) := by
      rintro ⟨least, greatest⟩
      omega
    have outsideNew : ¬InRange (start + place) test.newSize
        (start + test.offset index + (check.offset + offset)) := by
      rintro ⟨least, greatest⟩
      omega
    obtain ⟨space, beyond⟩ := (test.memory env).relocate_outside outsideOld outsideNew
    refine ⟨cell, ?_, value.trans expected.symm⟩
    rw [isAddress, access_eq_ok_iff]
    exact ⟨space.trans isCell, by rw [isProt]; decide, beyond⟩
  · cases meets

/-- The new range can be accessed. -/
theorem TestCase.moved_grants (nonempty : 0 < request.size) {len : Nat}
    (new : len ≤ test.newSize) (fits : test.oldSize ≤ request.size ∨ len ≤ request.size)
    (backed : len ≤ test.oldSize ∨ request.shared = 0) {access : BitVec 32}
    (isAccess : protReadWrite &&& access ≠ 0) {offset : Nat} (inside : offset < len) :
    Grants (test.moved env start target) access (target + offset) := by
  rcases Nat.lt_or_ge offset test.oldSize with old | fresh
  · have isInside : offset < request.size := by omega
    obtain ⟨cell, isCell, isProt, -, isBacked⟩ := TestCase.moved_old prepared found used prot old
      (inside.trans_le new) isInside
    exact ⟨cell, access_eq_ok_iff.mpr ⟨isCell, isProt ▸ isAccess, isBacked⟩⟩
  · obtain ⟨cell, isCell, isProt, isBacked⟩ := TestCase.moved_fresh prepared found used prot
      nonempty fresh (inside.trans_le new)
    have isPrivate : request.shared = 0 := backed.resolve_left (by omega)
    refine ⟨cell, access_eq_ok_iff.mpr ⟨isCell, isProt ▸ isAccess, ?_⟩⟩
    simpa [isPrivate] using isBacked

end Entry

/-- How a test case has to end. -/
def Finish.expected : Finish → Outcome
  | .signal _ _ _ => .exited 0
  | _ => .returned none

/-- The end of the test case is as it should be. -/
theorem TestCase.finish_run (prepared : test.Prepared env start)
    (found : test.params[test.old]? = some request) (used : request.nopage = 0)
    (prot : request.prot = protReadWrite) (nonempty : 0 < request.size) (nonzero : 0 < target)
    (lands : placement.Lands test env start target) {finish : Finish}
    (meets : test.meetsFinish request placement finish = true) :
    finish.run 0 (test.moved env start target) target (test.addrs env) = finish.expected := by
  have raises : ∀ signum base offset, (test.moved env start target).access protRead
      (Base.address target (test.addrs env) base + offset) = .error signum →
      (Finish.signal signum base offset).run 0 (test.moved env start target) target
        (test.addrs env) = .exited 0 := by
    intro signum base offset fault
    simp [Finish.run, fault]
  unfold TestCase.meetsFinish at meets
  split at meets
  · rfl
  · rename_i len
    obtain ⟨new, fits, backed⟩ := of_decide_eq_true meets
    have checked := accessCheck_of_grants (Nat.ne_of_gt nonzero)
      fun access isAccess offset inside => TestCase.moved_grants prepared found used prot nonempty
        new fits backed isAccess inside
    rw [Finish.run, checked]
    rfl
  · rename_i offset
    obtain ⟨rfl, new, old⟩ := of_decide_eq_true meets
    apply raises
    apply access_eq_segv
    obtain rfl : target = start + test.offset test.old := lands
    apply Mappings.relocate_left
    · exact ⟨Nat.le_add_right _ _, Nat.add_lt_add_left old _⟩
    · rintro ⟨-, greatest⟩
      simp only [Base.address] at greatest
      omega
  · rename_i index offset
    obtain ⟨isOld, leaves⟩ := Bool.and_eq_true_iff.mp meets
    obtain ⟨rfl, old, fits⟩ := of_decide_eq_true isOld
    apply raises
    apply access_eq_segv
    rw [Base.address, prepared.placed _ _ found]
    refine TestCase.moved_left prepared found used prot lands ?_ fits old
    rintro rfl
    cases leaves
  · rename_i offset
    obtain ⟨old, new, shared⟩ := of_decide_eq_true meets
    apply raises
    obtain ⟨cell, isCell, isProt, isBeyond⟩ := TestCase.moved_fresh prepared found used prot
      nonempty old new
    apply access_eq_bus isCell
    · rw [isProt]
      decide
    · exact isBeyond.trans (decide_eq_true shared)
  · cases meets

end Afterwards

/-- Page-aligned addresses are not `MAP_FAILED`. -/
theorem ne_mapFailed {target : Nat} (aligned : target % pageSize = 0) : target ≠ mapFailed := by
  rintro rfl
  exact absurd aligned (by decide)

/-- The assertions about a call that is refused. -/
theorem Placement.check_of_refused {error : MremapError} {expectation : Expectation} {naddr : Nat}
    (meets : (Placement.refused error).meets expectation = true) :
    expectation.check naddr (.error error.code) = none := by
  cases expectation with
  | mapped => cases meets
  | placed => cases meets
  | fails expected =>
      cases of_decide_eq_true meets
      exact checkResult_eq_none_iff.mpr ⟨rfl, rfl⟩

/-- The assertions about a call that succeeds. -/
theorem Placement.check_of_lands {test : TestCase} {env : Environment} {start target : Nat}
    {placement : Placement} {expectation : Expectation}
    (meets : placement.meets expectation = true) (aligned : target % pageSize = 0)
    (lands : placement.Lands test env start target) :
    expectation.check (test.call (test.addrs env)).newAddress (.ok target) = none := by
  cases expectation with
  | mapped => exact checkResult_eq_none_iff.mpr ⟨ne_mapFailed aligned, rfl⟩
  | placed =>
      cases placement with
      | movesTo offset => exact checkResult_eq_none_iff.mpr ⟨lands.2.1.symm, rfl⟩
      | _ => cases meets
  | fails expected =>
      cases placement with
      | refused error => exact lands.elim
      | _ => cases meets

/-- On a kernel whose `mremap` conforms, every test case of the suite passes, wherever the block
has been reserved. -/
theorem conforming_passes {number : Nat} {test : TestCase} (member : (number, test) ∈ testCases)
    (env : Environment) {start : Nat} (reserved : env.calls.reserve = some start)
    (positive : 0 < start) (aligned : start % pageSize = 0)
    (willing : ∀ index, env.calls.format index = none) (handled : env.sigaction = 0)
    (conforms : (test.call (test.addrs env)).Conforms (test.memory env) pageSize
      (test.result env)) :
    test.run env = test.finish.expected := by
  have meets := List.all_eq_true.mp testCases_meet _ member
  simp only [TestCase.meets, Bool.and_eq_true, Option.any_eq_true, decide_eq_true_eq] at meets
  obtain ⟨valid, request, found, ⟨used, prot, -⟩, placement, isPlacement, meetsResult, meetsRest⟩ :=
    meets
  obtain ⟨returned, prepared⟩ := TestCase.Prepared.of_calls valid reserved willing
  rw [TestCase.run_eq, if_pos returned, TestCase.afterCall, handled]
  rcases TestCase.answered prepared positive aligned found conforms valid used isPlacement with
    ⟨error, rfl, isResult⟩ | ⟨target, nonzero, isAligned, lands, isResult⟩
  · obtain ⟨noChecks, isDone⟩ := of_decide_eq_true meetsRest
    rw [isResult, Placement.check_of_refused meetsResult, noChecks, isDone]
    rfl
  · have meetsBoth : test.checks.all (test.meetsCheck request placement) = true ∧
        test.meetsFinish request placement test.finish = true := by
      cases placement with
      | refused error => exact lands.elim
      | _ => exact Bool.and_eq_true_iff.mp meetsRest
    have checked : runChecks (test.moved env start target) target (test.addrs env) test.checks =
        none :=
      runChecks_eq_none_iff.mpr fun check isCheck => TestCase.check_passes prepared found used prot
        lands (List.all_eq_true.mp meetsBoth.1 check isCheck)
    rw [isResult, Placement.check_of_lands meetsResult isAligned lands]
    simp only [remapOf, checked]
    exact TestCase.finish_run prepared found used prot (TestCase.size_pos valid found) nonzero lands
      meetsBoth.2

/-- A kernel that leaves every mapping where it is. -/
def unmoving : Environment :=
  ⟨willingCalls, fun _ => none, fun memory call => (.ok call.oldAddress,
    memory.relocate call.oldAddress call.oldSize call.oldAddress call.newSize), 0⟩

/-- The range of `mremap_mmap_anon#14` becomes shorter, and the access behind it is handled. -/
theorem conforming_passes_014 :
    (mremapMmapAnon014 ⟨mremapRangeSize, 0⟩).run unmoving = .exited 0 := by
  have member : (14, mremapMmapAnon014 ⟨mremapRangeSize, 0⟩) ∈ testCases :=
    List.mem_of_getElem? (i := 14) rfl
  refine conforming_passes member unmoving rfl (by decide) (by decide) (fun _ => rfl) rfl ?_
  rw [MremapCall.Conforms, MremapCall.answer_of_shorter (by decide) (by decide)]
  rfl

end McKernelTest.Mremap
