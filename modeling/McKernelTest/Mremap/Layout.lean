import McKernelTest.Mremap.Core
import Mathlib.Order.Nat

/-!
# The layouts are what was asked for

The second loop lays out one entry after the other, and every call touches the range
of its own entry only.  What has been laid out therefore stays as it is, and the
whole layout follows by induction over the entries.
-/

namespace McKernelTest.Mremap

open Machine Posix

/-! ## The loop condition -/

theorem toUlong_loopVar {index : Nat} (small : index < maxRounds) :
    toUlong (loopVar index) = index := by
  rw [maxRounds] at small
  have positive : loopVar index = index := by
    rw [loopVar, toInt, Int.bmod_eq_of_le] <;> omega
  rw [positive, toUlong_natCast (by omega)]

/-- The counter after the last round, as a `size_t`. -/
theorem toUlong_loopVar_maxRounds : toUlong (loopVar maxRounds) = 2 ^ 64 - 2 ^ 31 := by
  rfl

/-- The number of entries of an array that fits into memory. -/
def maxCount : Nat := 2 ^ 64 / sizeofParam

section Loops

variable {count index : Nat} {params : List MremapMmapAnonParam}

/-- The loops run for `maxRounds` rounds at most. -/
theorem continues_iff (fits : count ≤ maxCount) (reached : index ≤ maxRounds)
    (inArray : index < count) : Continues count index ↔ index < maxRounds := by
  rw [Continues]
  rcases Nat.lt_or_eq_of_le reached with small | rfl
  · rw [toUlong_loopVar small]
    exact ⟨fun _ => small, fun _ => inArray⟩
  · rw [toUlong_loopVar_maxRounds]
    rw [maxCount, sizeofParam] at fits
    omega

/-- The entries that are still to come, when there is one more round. -/
theorem take_rounds (request : Request) (rest : List Request) (more : index < maxRounds) :
    (request :: rest).take (maxRounds - index) =
      request :: rest.take (maxRounds - (index + 1)) := by
  rw [show maxRounds - index = maxRounds - (index + 1) + 1 by omega, List.take_succ_cons]

/-- The first loop finds the sum of the sizes, or that it exceeds 64 bits. -/
theorem sumSizes_spec {total : Nat} (fits : count ≤ maxCount) (reached : index ≤ maxRounds)
    (inArray : index + params.length = count) (total_lt : total < 2 ^ 64)
    (valid : ∀ param ∈ params, param.size < 2 ^ 64) :
    (sumSizes count index total params).2.map (·.toRequest) = params.map (·.toRequest) ∧
      (sumSizes count index total params).1 =
        let whole := total + totalSize ((params.map (·.toRequest)).take (maxRounds - index))
        if whole < 2 ^ 64 then some whole else none := by
  induction params generalizing index total with
  | nil =>
      rw [sumSizes, List.map_nil, List.take_nil]
      exact ⟨rfl, (if_pos total_lt).symm⟩
  | cons param rest ih =>
      rw [List.length_cons] at inArray
      have size_lt := valid param List.mem_cons_self
      have continues := continues_iff fits reached (by omega)
      rw [List.map_cons, sumSizes]
      by_cases more : index < maxRounds
      · rw [if_pos (continues.mpr more), take_rounds _ _ more, totalSize]
        by_cases within : total + param.size < 2 ^ 64
        · have sum : toUlong (total + param.size) = total + param.size := Nat.mod_eq_of_lt within
          have next : index + 1 ≤ maxRounds := more
          have valid_rest := fun other member => valid other (List.mem_cons_of_mem _ member)
          obtain ⟨kept, found⟩ := ih next (by omega) within valid_rest
          simp only [sum, Nat.not_lt.mpr (Nat.le_add_right total param.size), if_false]
          refine ⟨by rw [List.map_cons, kept], ?_⟩
          simpa only [Nat.add_assoc] using found
        · have overflow : toUlong (total + param.size) < total := by
            rw [toUlong]
            omega
          simp only [overflow, if_true, List.map_cons, true_and]
          rw [if_neg (by omega)]
      · rw [if_neg (mt continues.mp more), show maxRounds - index = 0 by omega, List.take_zero]
        exact ⟨rfl, (if_pos total_lt).symm⟩

end Loops

/-! ## One entry -/

section Entry

variable {space after : AddressSpace} {index addr address : Nat} {request : Request}

/-- What is laid out depends on the entry's own range only. -/
theorem EntryLaid.congr (laid : EntryLaid space index addr request)
    (same : ∀ address, InRange addr request.size address → after address = space address) :
    EntryLaid after index addr request where
  freed nopage address inside := (same address inside).trans (laid.freed nopage address inside)
  mapped used address inside := by
    obtain ⟨cell, found, rest⟩ := laid.mapped used address inside
    exact ⟨cell, (same address inside).trans found, rest⟩

theorem formatEntry_laid (whole : request.size % pageSize = 0) :
    EntryLaid (formatEntry space index addr request) index addr request where
  freed nopage address inside := by
    rw [formatEntry, if_pos nopage, AddressSpace.unmap, roundUp_eq_self whole,
      AddressSpace.overwrite_inside inside]
  mapped used address inside := by
    have mapping : space.mapFixed pageSize addr request.size request.prot
        (decide (request.shared ≠ 0)) address =
          some ⟨request.prot, decide (request.shared ≠ 0), 0⟩ := by
      rw [AddressSpace.mapFixed, roundUp_eq_self whole, AddressSpace.overwrite_inside inside]
    rw [formatEntry, if_neg (not_not.mpr used)]
    by_cases writable : request.prot &&& protWrite ≠ 0
    · simp only [if_pos writable]
      rw [AddressSpace.memset, AddressSpace.overwrite_inside inside, mapping]
      exact ⟨_, rfl, rfl, rfl, fun _ => rfl⟩
    · simp only [if_neg writable]
      exact ⟨_, mapping, rfl, rfl, fun impossible => absurd impossible writable⟩

theorem formatEntry_outside (whole : request.size % pageSize = 0)
    (outside : ¬InRange addr request.size address) :
    formatEntry space index addr request address = space address := by
  have mapping : space.mapFixed pageSize addr request.size request.prot
      (decide (request.shared ≠ 0)) address = space address := by
    rw [AddressSpace.mapFixed, roundUp_eq_self whole, AddressSpace.overwrite_outside outside]
  rw [formatEntry]
  split
  · rw [AddressSpace.unmap, roundUp_eq_self whole, AddressSpace.overwrite_outside outside]
  · split
    · rw [AddressSpace.memset, AddressSpace.overwrite_outside outside, mapping]
    · exact mapping

end Entry

/-! ## The second loop -/

/-- The second loop, entered in the given round at `addr`, lays out `n` entries. -/
structure Formatted (calls : Calls) (count index addr : Nat) (before : AddressSpace)
    (requests : List Request) (result : Result) (n : Nat) : Prop where
  kept : result.params.map (·.toRequest) = requests
  done_le : n ≤ requests.length
  rounds : index + n ≤ maxRounds
  ret : result.ret = toUlong (loopVar (index + n))
  stopped : n < requests.length → (calls.format (index + n)).isSome ∨ count ≤ result.ret
  placed : ∀ i < n, ∀ entry, result.params[i]? = some entry →
    entry.addr = addr + totalSize (requests.take i)
  laid : ∀ i < n, ∀ entry, result.params[i]? = some entry →
    EntryLaid result.space (index + i) entry.addr entry.toRequest
  outside : ∀ address, ¬InRange addr (totalSize (requests.take (maxRounds - index))) address →
    result.space address = before address

section SecondLoop

variable {calls : Calls} {count index addr : Nat} {space : AddressSpace}

/-- The loop is left without another entry. -/
theorem Formatted.stop {requests : List Request} {result : Result}
    (reached : index ≤ maxRounds) (kept : result.params.map (·.toRequest) = requests)
    (ret : result.ret = toUlong (loopVar index))
    (stopped : 0 < requests.length → (calls.format index).isSome ∨ count ≤ result.ret)
    (outside : ∀ address, ¬InRange addr (totalSize (requests.take (maxRounds - index))) address →
      result.space address = space address) :
    Formatted calls count index addr space requests result 0 where
  kept := kept
  done_le := Nat.zero_le _
  rounds := reached
  ret := ret
  stopped := stopped
  placed i impossible := absurd impossible i.not_lt_zero
  laid i impossible := absurd impossible i.not_lt_zero
  outside := outside

/-- One more entry in front of those that the rest of the loop lays out. -/
theorem Formatted.cons {param : MremapMmapAnonParam} {requests : List Request} {result : Result}
    {n : Nat} (whole : param.size % pageSize = 0) (more : index < maxRounds)
    (rest : Formatted calls count (index + 1) (addr + param.size)
      (formatEntry space index addr param.toRequest) requests result n) :
    Formatted calls count index addr space (param.toRequest :: requests)
      { result with params := { param with addr := addr } :: result.params } (n + 1) where
  kept := by
    rw [List.map_cons, rest.kept]
  done_le := by
    have done_le := rest.done_le
    rw [List.length_cons]
    omega
  rounds := by
    have rounds := rest.rounds
    omega
  ret := by
    rw [rest.ret, Nat.add_right_comm, Nat.add_assoc]
  stopped := by
    intro short
    rw [List.length_cons] at short
    have stopped := rest.stopped (by omega)
    rwa [Nat.add_right_comm, Nat.add_assoc] at stopped
  placed i bound entry found := by
    cases i with
    | zero =>
        cases found
        simp [totalSize]
    | succ i =>
        rw [rest.placed i (by omega) entry (by simpa using found), List.take_succ_cons,
          totalSize, Nat.add_assoc]
  laid i bound entry found := by
    cases i with
    | zero =>
        cases found
        apply (formatEntry_laid whole).congr
        intro address inside
        apply rest.outside
        rintro ⟨later, -⟩
        exact absurd later (Nat.not_le.mpr inside.2)
    | succ i =>
        have laid := rest.laid i (by omega) entry (by simpa using found)
        rwa [Nat.add_right_comm, Nat.add_assoc] at laid
  outside address outside := by
    rw [take_rounds _ _ more, totalSize] at outside
    rw [rest.outside, formatEntry_outside whole]
    · rintro ⟨least, greatest⟩
      exact outside ⟨least, by omega⟩
    · rintro ⟨least, greatest⟩
      exact outside ⟨by omega, by omega⟩

theorem formatSpace_formatted (calls : Calls) (addr : Nat) (space : AddressSpace)
    {params : List MremapMmapAnonParam} (fits : count ≤ maxCount)
    (reached : index ≤ maxRounds) (inArray : index + params.length = count)
    (valid : ∀ param ∈ params, param.size % pageSize = 0) :
    ∃ n, Formatted calls count index addr space (params.map (·.toRequest))
      (formatSpace calls count index addr space params) n := by
  induction params generalizing index addr space with
  | nil =>
      rw [formatSpace]
      refine ⟨0, .stop reached rfl (by dsimp only) ?_ fun _ _ => rfl⟩
      exact fun impossible => absurd impossible (Nat.lt_irrefl 0)
  | cons param rest ih =>
      rw [List.length_cons] at inArray
      have whole := valid param List.mem_cons_self
      have continues := continues_iff fits reached (by omega)
      rw [formatSpace]
      by_cases more : index < maxRounds
      · rw [if_pos (continues.mpr more)]
        cases outcome : calls.format index with
        | some leftover =>
            refine ⟨0, .stop reached rfl (by dsimp only)
              (fun _ => Or.inl (by rw [outcome]; rfl)) ?_⟩
            intro address outside
            rw [List.map_cons, take_rounds _ _ more, totalSize] at outside
            simp only
            rw [roundUp_eq_self whole, AddressSpace.overwrite_outside]
            rintro ⟨least, greatest⟩
            exact outside ⟨least, by omega⟩
        | none =>
            have next : index + 1 ≤ maxRounds := more
            obtain ⟨n, formatted⟩ := @ih (index + 1) (addr + param.size)
              (formatEntry space index addr param.toRequest) next (by omega)
              fun other member => valid other (List.mem_cons_of_mem _ member)
            exact ⟨n + 1, formatted.cons whole more⟩
      · have ended : ¬Continues count index := mt continues.mp more
        rw [if_neg ended]
        refine ⟨0, .stop reached rfl (by dsimp only) (fun _ => Or.inr ?_) fun _ _ => rfl⟩
        dsimp only
        rwa [Continues, Nat.not_lt] at ended

end SecondLoop

/-! ## The whole function -/

theorem totalSize_append (requests others : List Request) :
    totalSize (requests ++ others) = totalSize requests + totalSize others := by
  induction requests with
  | nil => simp [totalSize]
  | cons request rest ih => rw [List.cons_append, totalSize, totalSize, ih, Nat.add_assoc]

/-- Sums over a list grow with the part that is taken. -/
theorem totalSize_take_succ {requests : List Request} {i : Nat} {request : Request}
    (found : requests[i]? = some request) :
    totalSize (requests.take (i + 1)) = totalSize (requests.take i) + request.size := by
  rw [List.take_add_one, found, totalSize_append]
  simp [totalSize]

theorem totalSize_take_le (requests : List Request) {i j : Nat} (le : i ≤ j) :
    totalSize (requests.take i) ≤ totalSize (requests.take j) := by
  obtain ⟨more, rfl⟩ := Nat.exists_eq_add_of_le le
  rw [List.take_add, totalSize_append]
  exact Nat.le_add_right _ _

theorem totalSize_whole {requests : List Request}
    (whole : ∀ request ∈ requests, request.size % pageSize = 0) :
    totalSize requests % pageSize = 0 := by
  induction requests with
  | nil => rfl
  | cons request rest ih =>
      rw [totalSize, Nat.add_mod, whole request List.mem_cons_self,
        ih fun other member => whole other (List.mem_cons_of_mem _ member)]
      rfl

section WholeFunction

variable {calls : Calls} {count start n : Nat} {space : AddressSpace} {requests : List Request}
  {result : Result}

/-- The entry with number `i` is the request with that number. -/
theorem request_of_entry (kept : result.params.map (·.toRequest) = requests) {i : Nat}
    {entry : MremapMmapAnonParam} (found : result.params[i]? = some entry) :
    requests[i]? = some entry.toRequest := by
  rw [← kept, List.getElem?_map, found, Option.map_some]

/-- The entries that the second loop has formatted are laid out in the block. -/
theorem Formatted.laidOut
    (formatted : Formatted calls count 0 start
      (space.mapFixed pageSize start (reservedSize requests) protNone true) requests result n)
    (whole : ∀ request ∈ requests, request.size % pageSize = 0) :
    LaidOut requests start space result n where
  kept := formatted.kept
  addr i bound entry found := by
    have length := congrArg List.length formatted.kept
    have done_le := formatted.done_le
    rw [List.length_map] at length
    obtain ⟨first, isFirst⟩ : ∃ first, result.params[0]? = some first :=
      ⟨_, List.getElem?_eq_getElem (by omega)⟩
    refine ⟨first, isFirst, ?_⟩
    rw [formatted.placed i bound entry found, formatted.placed 0 (by omega) first isFirst]
    simp [totalSize]
  disjoint i j less bound first second isFirst isSecond := by
    rw [formatted.placed i (Nat.lt_trans less bound) first isFirst,
      formatted.placed j bound second isSecond, Nat.add_assoc,
      ← totalSize_take_succ (request_of_entry formatted.kept isFirst)]
    exact Nat.add_le_add_left (totalSize_take_le requests less) start
  inside i bound entry found := by
    have rounds := formatted.rounds
    rw [formatted.placed i bound entry found, Nat.add_assoc,
      ← totalSize_take_succ (request_of_entry formatted.kept found)]
    refine ⟨Nat.le_add_right _ _, Nat.add_le_add_left (totalSize_take_le requests ?_) start⟩
    omega
  laid i bound entry found := by
    have laid := formatted.laid i bound entry found
    rwa [Nat.zero_add] at laid
  outside address outside := by
    have reserved : reservedSize requests % pageSize = 0 :=
      totalSize_whole fun request member => whole request (List.mem_of_mem_take member)
    rw [formatted.outside address outside, AddressSpace.mapFixed, roundUp_eq_self reserved,
      AddressSpace.overwrite_outside outside]

/-- The result is the number of entries, or larger than any number of entries. -/
theorem Formatted.ret_cases {addr : Nat}
    (formatted : Formatted calls count 0 addr space requests result n) :
    result.ret = n ∧ n < maxRounds ∨ maxCount < result.ret := by
  have ret := formatted.ret
  have rounds := formatted.rounds
  rw [Nat.zero_add] at ret rounds
  rcases Nat.lt_or_eq_of_le rounds with small | rfl
  · exact Or.inl ⟨ret.trans (toUlong_loopVar small), small⟩
  · rw [toUlong_loopVar_maxRounds] at ret
    rw [ret, maxCount, sizeofParam]
    exact Or.inr (by decide)

end WholeFunction

/-- The first loop of the whole function. -/
theorem sumSizes_cases (params : List MremapMmapAnonParam) (count_le : params.length ≤ maxCount)
    (valid : ∀ param ∈ params, param.toRequest.Valid) :
    ∃ visited : List MremapMmapAnonParam,
      visited.map (·.toRequest) = params.map (·.toRequest) ∧
        (sumSizes params.length 0 0 params = (none, visited) ∧
            2 ^ 64 ≤ totalSize (params.map (·.toRequest)) ∨
          sumSizes params.length 0 0 params =
            (some (reservedSize (params.map (·.toRequest))), visited)) := by
  obtain ⟨kept, total⟩ := sumSizes_spec count_le (Nat.zero_le maxRounds) (Nat.zero_add _)
    (by decide : 0 < 2 ^ 64) fun param member => (valid param member).size_lt
  rw [Nat.zero_add, Nat.sub_zero, ← reservedSize] at total
  refine ⟨_, kept, ?_⟩
  by_cases small : reservedSize (params.map (·.toRequest)) < 2 ^ 64
  · right
    rw [if_pos small] at total
    rw [← total]
  · left
    have whole_le := totalSize_take_le (params.map (·.toRequest))
      (Nat.le_max_left maxRounds (params.map (·.toRequest)).length)
    rw [List.take_of_length_le (Nat.le_max_right _ _), ← reservedSize] at whole_le
    rw [if_neg small] at total
    rw [← total]
    exact ⟨rfl, (Nat.le_of_not_lt small).trans whole_le⟩

/-- `mremap_mmap_anon` lays out what it was asked for.  If it returns `count`, every
entry is laid out.  If it returns less, the sizes are too large or a call failed,
and the entries before that call are laid out. -/
theorem mremapMmapAnon_lays_out (calls : Calls) (space : AddressSpace)
    (params : List MremapMmapAnonParam) (nonempty : params ≠ [])
    (valid : ∀ param ∈ params, param.toRequest.Valid)
    (fits : params.length * sizeofParam ≤ 2 ^ 64) :
    ((mremapMmapAnon calls space params).ret = params.length →
      ∃ start, calls.reserve = some start ∧
        reservedSize (params.map (·.toRequest)) = totalSize (params.map (·.toRequest)) ∧
        LaidOut (params.map (·.toRequest)) start space (mremapMmapAnon calls space params)
          params.length) ∧
      ((mremapMmapAnon calls space params).ret < params.length →
        (2 ^ 64 ≤ totalSize (params.map (·.toRequest)) ∧
            (mremapMmapAnon calls space params).ret = 0 ∧
            (mremapMmapAnon calls space params).space = space) ∨
          (calls.reserve = none ∧ (mremapMmapAnon calls space params).ret = 0 ∧
            (mremapMmapAnon calls space params).space = space) ∨
          ∃ start, calls.reserve = some start ∧
            (calls.format (mremapMmapAnon calls space params).ret).isSome ∧
            LaidOut (params.map (·.toRequest)) start space (mremapMmapAnon calls space params)
              (mremapMmapAnon calls space params).ret) := by
  have positive := List.length_pos_of_ne_nil nonempty
  have count_le : params.length ≤ maxCount := (Nat.le_div_iff_mul_le (by decide)).mpr fits
  have whole : ∀ request ∈ params.map (·.toRequest), request.size % pageSize = 0 := by
    intro request member
    obtain ⟨param, isParam, rfl⟩ := List.mem_map.mp member
    exact (valid param isParam).wholePages
  rw [mremapMmapAnon]
  obtain ⟨visited, kept, ⟨sums, overflow⟩ | sums⟩ := sumSizes_cases params count_le valid
  · rw [sums]
    exact ⟨fun returned => absurd returned positive.ne, fun _ => Or.inl ⟨overflow, rfl, rfl⟩⟩
  · rw [sums]
    cases reserve : calls.reserve with
    | none =>
        exact ⟨fun returned => absurd returned positive.ne,
          fun _ => Or.inr (Or.inl ⟨rfl, rfl, rfl⟩)⟩
    | some start =>
        have length : visited.length = params.length := by
          have lengths := congrArg List.length kept
          rwa [List.length_map, List.length_map] at lengths
        have wholeVisited : ∀ param ∈ visited, param.size % pageSize = 0 := by
          intro param member
          exact whole param.toRequest (kept ▸ List.mem_map_of_mem member)
        obtain ⟨n, formatted⟩ := formatSpace_formatted calls start
          (space.mapFixed pageSize start (reservedSize (params.map (·.toRequest)))
            protNone true) (length ▸ count_le) (Nat.zero_le maxRounds) (Nat.zero_add _) wholeVisited
        rw [kept] at formatted
        have laidOut := formatted.laidOut whole
        dsimp only
        rcases formatted.ret_cases with ⟨ret, small⟩ | large
        · rw [ret]
          refine ⟨fun returned => ⟨start, rfl, ?_, returned ▸ laidOut⟩, fun less => ?_⟩
          · rw [reservedSize, List.take_of_length_le]
            rw [List.length_map, ← returned]
            exact small.le
          · have stopped := formatted.stopped (by rwa [List.length_map])
            rw [ret, Nat.zero_add, length] at stopped
            exact Or.inr (Or.inr ⟨start, rfl, stopped.resolve_right less.not_ge, laidOut⟩)
        · exact ⟨fun returned => by omega, fun less => by omega⟩

/-! ## The tests' view of the layout -/

/-- `MREMAP_RANGE_SIZE`. -/
def mremapRangeSize : Nat :=
  pageSize * 4

/-- The parameters of the test case `mremap_mmap_anon#7`. -/
def params007 : List MremapMmapAnonParam :=
  [⟨⟨mremapRangeSize, 0, 0, protRead ||| protWrite⟩, 0⟩, ⟨⟨mremapRangeSize, 0, 0, protNone⟩, 0⟩,
    ⟨⟨mremapRangeSize * 2, 0, 0, protRead ||| protWrite⟩, 0⟩,
    ⟨⟨mremapRangeSize, 0, 0, protNone⟩, 0⟩]

/-- Calls that all succeed. -/
def willingCalls : Calls :=
  ⟨some 0x7f0000000000, fun _ => none⟩

/-- The layout of `mremap_mmap_anon#7` in an empty address space. -/
theorem mremapMmapAnon_lays_out_007 :
    (mremapMmapAnon willingCalls (fun _ => none) params007).ret = 4 ∧
      LaidOut (params007.map (·.toRequest)) 0x7f0000000000 (fun _ => none)
        (mremapMmapAnon willingCalls (fun _ => none) params007) 4 := by
  have returned : (mremapMmapAnon willingCalls (fun _ => none) params007).ret = 4 := by
    decide
  have valid : ∀ param ∈ params007, param.toRequest.Valid := by
    intro param member
    simp only [params007, List.mem_cons, List.not_mem_nil, or_false] at member
    rcases member with rfl | rfl | rfl | rfl <;> exact ⟨by decide, by decide, by decide⟩
  obtain ⟨start, reserved, -, laidOut⟩ :=
    (mremapMmapAnon_lays_out willingCalls (fun _ => none) params007 (by simp [params007]) valid
      (by decide)).1 returned
  cases reserved
  exact ⟨returned, laidOut⟩

theorem dataCheckFrom_eq {space : AddressSpace} {addr : Nat} {expected : UInt8}
    (remaining idx : Nat)
    (filled : ∀ offset, idx ≤ offset → offset < idx + remaining → ∃ cell,
      space (addr + offset) = some cell ∧ cell.prot &&& protRead ≠ 0 ∧ cell.value = expected) :
    dataCheckFrom space addr expected remaining idx = some none := by
  induction remaining generalizing idx with
  | zero => rfl
  | succ remaining ih =>
      obtain ⟨cell, found, readable, value⟩ := filled idx (Nat.le_refl _) (by omega)
      simp only [dataCheckFrom, found, readable, value, if_false, ne_eq, not_true_eq_false]
      exact ih (idx + 1) fun offset least greatest => filled offset (by omega) (by omega)

/-- The data check passes on every readable and writable entry that has been laid
out, with the byte of the entry. -/
theorem EntryLaid.dataCheck {space : AddressSpace} {index addr : Nat} {request : Request}
    (laid : EntryLaid space index addr request) (used : request.nopage = 0)
    (readable : request.prot &&& protRead ≠ 0) (writable : request.prot &&& protWrite ≠ 0) :
    mremapMmapAnonDataCheck space addr request.size (UInt8.ofNat ('0'.toNat + index)) =
      some none := by
  apply dataCheckFrom_eq
  intro offset _ bound
  rw [Nat.zero_add] at bound
  obtain ⟨cell, found, prot, -, value⟩ := laid.mapped used (addr + offset)
    ⟨Nat.le_add_right _ _, Nat.add_lt_add_left bound addr⟩
  exact ⟨cell, found, prot ▸ readable, value writable⟩

end McKernelTest.Mremap
