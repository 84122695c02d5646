import McKernelTest.MemLargePage.Core

/-!
# The pages that are probed

A run is a sequence of probes: an access to a page, and the look-up of its entry.  The loop
goes through the base pages of the large page that begins at the aligned address, and ends
behind the first one whose entry does not have the shift that is expected.
-/

namespace McKernelTest.MemLargePage

open Machine Pagemap Process

/-! ## Probes -/

/-- The address of an access to memory. -/
def accessed : PagemapCall → Option Nat
  | ⟨.storeByte address _, _⟩ => some address
  | ⟨.loadByte address, _⟩ => some address
  | _ => none

/-- An access to memory and the calls up to the next one. -/
structure Probe where
  va : Nat
  calls : List PagemapCall

/-- The calls before the first access, and the probes from there on. -/
def splitProbes : List PagemapCall → List PagemapCall × List Probe
  | [] => ([], [])
  | call :: calls =>
      match accessed call with
      | none => (call :: (splitProbes calls).1, (splitProbes calls).2)
      | some va => ([], ⟨va, (splitProbes calls).1⟩ :: (splitProbes calls).2)

/-- The probes of a run. -/
def probes (calls : List PagemapCall) : List Probe :=
  (splitProbes calls).2

/-- The entry that has been read at its position in the file. -/
def entryAt (position : Int) (calls : List PagemapCall) : Option (BitVec 64) :=
  calls.findSome? fun call => match call with
    | ⟨.read _ other, entry⟩ => if other = position then entry else none
    | _ => none

/-- The entry of the page of a probe.  There is none if the file could not be opened,
positioned or read. -/
def Probe.entry (probe : Probe) : Option (BitVec 64) :=
  entryAt (8 * (probe.va / pageSize : Nat)) probe.calls

/-- The page map has the shift for the page of an address. -/
def HasShift (pagemap : Nat → Option (BitVec 64)) (shift va : Nat) : Prop :=
  (pagemap (va / pageSize)).map shiftOf = some shift

instance (pagemap : Nat → Option (BitVec 64)) (shift va : Nat) :
    Decidable (HasShift pagemap shift va) :=
  inferInstanceAs (Decidable (_ = _))

/-- What the probes of a run have found is in the page map. -/
def Shows (pagemap : Nat → Option (BitVec 64)) (calls : List PagemapCall) : Prop :=
  ∀ probe ∈ probes calls, probe.entry = pagemap (probe.va / pageSize)

instance (pagemap : Nat → Option (BitVec 64)) (calls : List PagemapCall) :
    Decidable (Shows pagemap calls) :=
  inferInstanceAs (Decidable (∀ probe ∈ probes calls, _))

section Split

variable {first calls : List PagemapCall} {call : PagemapCall} {va : Nat}

theorem splitProbes_append (silent : ∀ call ∈ first, accessed call = none) :
    splitProbes (first ++ calls) = (first ++ (splitProbes calls).1, (splitProbes calls).2) := by
  induction first with
  | nil => rfl
  | cons call first ih =>
      have before := ih fun other member => silent other (List.mem_cons_of_mem _ member)
      have isSilent := silent call List.mem_cons_self
      rw [List.cons_append, splitProbes, isSilent, before]
      rfl

theorem probes_append (silent : ∀ call ∈ first, accessed call = none) :
    probes (first ++ calls) = probes calls := by
  rw [probes, splitProbes_append silent, probes]

/-- Every access is one of a probe. -/
theorem mem_probes (member : call ∈ calls) (access : accessed call = some va) :
    va ∈ (probes calls).map Probe.va := by
  induction calls with
  | nil => cases member
  | cons other calls ih =>
      rw [probes, splitProbes]
      rcases List.mem_cons.mp member with rfl | later
      · rw [access]
        exact List.mem_cons_self
      · cases accessed other with
        | none => exact ih later
        | some _ => exact List.mem_cons_of_mem _ (ih later)

end Split

/-! ## One probe -/

theorem accessed_of_probeOp {va : Nat} {call : PagemapCall} (isProbe : ProbeOp va call.op) :
    accessed call = none := by
  rcases call with ⟨op, result⟩
  cases op <;> first | rfl | exact isProbe.elim

/-- All reads of a probe are at the position of its page. -/
theorem entryAt_eq_entryRead {va : Nat} {calls : List PagemapCall} (isUlong : va < 2 ^ 64)
    (uses : ∀ call ∈ calls, ProbeOp va call.op) :
    entryAt (8 * (va / pageSize : Nat)) calls = entryRead calls := by
  induction calls with
  | nil => rfl
  | cons call calls ih =>
      have later := ih fun other member => uses other (List.mem_cons_of_mem _ member)
      have isProbe := uses call List.mem_cons_self
      rw [entryAt, entryRead, List.findSome?_cons, List.findSome?_cons]
      rcases call with ⟨op, result⟩
      cases op with
      | read fd position =>
          have place : position = 8 * (va / pageSize : Nat) := by
            rw [← offsetOf_eq isUlong]
            exact isProbe
          simp only [place, if_true]
          cases result with
          | none => exact later
          | some entry => rfl
      | _ => exact later

section Loop

variable {access : Nat → Program Unit} {unexpected flag : Int} {expected : Int → Int}
  {fuel start stop va pagesize shift : Nat} {calls : List PagemapCall} {value : Option Int}

/-- The code performs one access to its address. -/
def IsAccess (access : Nat → Program Unit) : Prop :=
  ∀ va calls, (access va).Performs calls () → ∃ call, calls = [call] ∧ accessed call = some va

theorem isAccess_storeZ : IsAccess storeZ := by
  rintro va _ ⟨result, _, rfl, rfl, -⟩
  exact ⟨_, rfl, rfl⟩

theorem isAccess_loadCh : IsAccess loadCh := by
  rintro va _ ⟨result, _, rfl, rfl, -⟩
  exact ⟨_, rfl, rfl⟩

/-- An iteration: the access, the look-up and what follows from its result. -/
theorem probeLoop_step (isAccess : IsAccess access) (inside : start < stop)
    (performs : (probeLoop access pagesize unexpected expected (fuel + 1) start stop flag).Performs
      calls value) :
    ∃ call check rest ret, calls = call :: (check ++ rest) ∧ accessed call = some start ∧
      (checkPageSize start pagesize).Performs check ret ∧
      (if ret = 0 then (Code.ret (some unexpected) : Program (Option Int))
        else probeLoop access pagesize unexpected expected fuel ((start + pageSize) % 2 ^ 64) stop
          (expected ret)).Performs rest value := by
  rw [probeLoop, if_pos inside] at performs
  rcases (Code.performs_bind _ _ _ _).mp performs with ⟨_, _, _, rfl, accesses, continues⟩
  rcases (Code.performs_bind _ _ _ _).mp continues with ⟨check, rest, ret, rfl, checks, finishes⟩
  rcases isAccess start _ accesses with ⟨call, rfl, isStart⟩
  exact ⟨call, check, rest, ret, rfl, isStart, checks, finishes⟩

/-- The loop begins with an access if it does anything. -/
theorem splitProbes_probeLoop (isAccess : IsAccess access)
    (performs : (probeLoop access pagesize unexpected expected fuel start stop flag).Performs
      calls value) : (splitProbes calls).1 = [] := by
  cases fuel with
  | zero =>
      rcases performs with ⟨rfl, -⟩
      rfl
  | succ fuel =>
      by_cases inside : start < stop
      · rcases probeLoop_step isAccess inside performs with ⟨call, _, _, _, rfl, isStart, -, -⟩
        rw [splitProbes, isStart]
      · rw [probeLoop, if_neg inside] at performs
        rcases performs with ⟨rfl, -⟩
        rfl

/-- The probe of an iteration and the ones after it. -/
theorem probes_step {call : PagemapCall} {check rest : List PagemapCall} {ret : Int}
    (isStart : accessed call = some start)
    (checks : (checkPageSize start pagesize).Performs check ret)
    (silent : (splitProbes rest).1 = []) :
    probes (call :: (check ++ rest)) = ⟨start, check⟩ :: probes rest := by
  have quiet : ∀ call ∈ check, accessed call = none := fun call member =>
    accessed_of_probeOp ((uses_checkPageSize start pagesize).of_performs checks call member)
  rw [probes, splitProbes, isStart, splitProbes_append quiet, silent, List.append_nil]
  rfl

/-- An iteration against the page map: it probes its page, and its result says whether the
page has the shift. -/
theorem probeLoop_probes {pagemap : Nat → Option (BitVec 64)} (isAccess : IsAccess access)
    (inside : start < stop) (isUlong : start < 2 ^ 64)
    (performs : (probeLoop access (2 ^ shift) unexpected expected (fuel + 1) start stop
      flag).Performs calls value)
    (shows : Shows pagemap calls) :
    ∃ check rest ret, probes calls = ⟨start, check⟩ :: probes rest ∧ Shows pagemap rest ∧
      ret = (if HasShift pagemap shift start then 1 else 0) ∧
      (if ret = 0 then (Code.ret (some unexpected) : Program (Option Int))
        else probeLoop access (2 ^ shift) unexpected expected fuel ((start + pageSize) % 2 ^ 64)
          stop (expected ret)).Performs rest value := by
  rcases probeLoop_step isAccess inside performs with
    ⟨call, check, rest, ret, rfl, isStart, checks, continues⟩
  have silent : (splitProbes rest).1 = [] := by
    split at continues
    · rcases continues with ⟨rfl, -⟩
      rfl
    · exact splitProbes_probeLoop isAccess continues
  have split := probes_step isStart checks silent
  have found : entryRead check = pagemap (start / pageSize) := by
    have uses := (uses_checkPageSize start (2 ^ shift)).of_performs checks
    rw [← entryAt_eq_entryRead isUlong uses]
    exact shows ⟨start, check⟩ (by rw [split]; exact List.mem_cons_self)
  have returned := verdict_checkPageSize checks
  rw [found, verdict] at returned
  have later : Shows pagemap rest := fun probe member =>
    shows probe (by rw [split]; exact List.mem_cons_of_mem _ member)
  exact ⟨check, rest, ret, split, later, returned, continues⟩

end Loop

/-! ## The loop -/

/-- The elements of a list up to and including the first one with the property. -/
def upTo {α : Type} (isLast : α → Prop) [DecidablePred isLast] : List α → List α
  | [] => []
  | element :: elements =>
      if isLast element then [element] else element :: upTo isLast elements

theorem mem_of_mem_upTo {α : Type} {isLast : α → Prop} [DecidablePred isLast] {elements : List α}
    {element : α} (member : element ∈ upTo isLast elements) : element ∈ elements := by
  induction elements with
  | nil => cases member
  | cons first elements ih =>
      rw [upTo] at member
      split at member
      · rw [List.mem_singleton.mp member]
        exact List.mem_cons_self
      · rcases List.mem_cons.mp member with rfl | later
        · exact List.mem_cons_self
        · exact List.mem_cons_of_mem _ (ih later)

/-- The loop probes the pages in order, up to the first that is not as expected.  As long as
the pages are as expected, the flag passes the assertion. -/
theorem probeLoop_exact {access : Nat → Program Unit} {unexpected flag : Int}
    {expected : Int → Int} {passes : Int → Bool} {pagemap : Nat → Option (BitVec 64)}
    {shift fuel start count : Nat} {calls : List PagemapCall} {value : Option Int}
    (isAccess : IsAccess access) (fails : passes unexpected = false)
    (goesOn : passes (expected 1) = true) (inside : start + count * pageSize < 2 ^ 64)
    (enough : count < fuel) (passing : passes flag = true)
    (performs : (probeLoop access (2 ^ shift) unexpected expected fuel start
      (start + count * pageSize) flag).Performs calls value)
    (shows : Shows pagemap calls) :
    (probes calls).map Probe.va =
        upTo (¬HasShift pagemap shift ·) (List.range' start count pageSize) ∧
      ∃ final, value = some final ∧
        (passes final = true ↔
          ∀ va ∈ List.range' start count pageSize, HasShift pagemap shift va) := by
  induction count generalizing fuel start flag calls with
  | zero =>
      rcases fuel with _ | fuel
      · cases enough
      · rw [probeLoop, Nat.zero_mul, Nat.add_zero, if_neg (Nat.lt_irrefl start)] at performs
        rcases performs with ⟨rfl, rfl⟩
        exact ⟨rfl, flag, rfl, by simp [passing]⟩
  | succ count ih =>
      rcases fuel with _ | fuel
      · cases enough
      have further : start < start + (count + 1) * pageSize := by
        have positive : 0 < pageSize := by decide
        exact Nat.lt_add_of_pos_right (Nat.mul_pos (Nat.succ_pos count) positive)
      rcases probeLoop_probes isAccess further (further.trans inside) performs shows with
        ⟨check, rest, ret, split, later, returned, continues⟩
      rw [split, List.map_cons, List.range'_succ, upTo]
      by_cases good : HasShift pagemap shift start
      · have one : ret = 1 := returned.trans (if_pos good)
        subst one
        rw [if_neg (by decide)] at continues
        have next : (start + pageSize) % 2 ^ 64 = start + pageSize := by
          apply Nat.mod_eq_of_lt
          have least : 1 * pageSize ≤ (count + 1) * pageSize :=
            Nat.mul_le_mul_right _ (Nat.succ_le_succ (Nat.zero_le count))
          omega
        have same : start + (count + 1) * pageSize = start + pageSize + count * pageSize := by
          rw [Nat.succ_mul]
          omega
        rw [next, same] at continues
        rcases ih (by omega) (Nat.lt_of_succ_lt_succ enough) goesOn continues later with
          ⟨probed, final, rfl, verdict⟩
        refine ⟨?_, final, rfl, ?_⟩
        · rw [if_neg (not_not_intro good), probed]
        · rw [verdict, List.forall_mem_cons]
          exact (and_iff_right good).symm
      · have zero : ret = 0 := returned.trans (if_neg good)
        subst zero
        rw [if_pos rfl] at continues
        rcases continues with ⟨rfl, rfl⟩
        refine ⟨?_, unexpected, rfl, ?_⟩
        · rw [if_pos good]
          rfl
        · rw [fails, List.forall_mem_cons]
          simp [good]

/-! ## The tests -/

/-- The base pages of the large page at `base`. -/
def basePages (base : Nat) : List Nat :=
  List.range' base (largePageSize / pageSize) pageSize

/-- The test probes the base pages of a large page in the mapping in order, up to the first
one without the shift, and passes if there is no such page. -/
structure ProbesLargePage (pagemap : Nat → Option (BitVec 64)) (shift addr : Nat)
    (calls : List PagemapCall) (value : Option (Option String)) : Prop where
  inside : ∀ call ∈ calls, ∀ va, accessed call = some va → addr ≤ va ∧ va < addr + length
  exact : ∃ base, base % largePageSize = 0 ∧
    (probes calls).map Probe.va = upTo (¬HasShift pagemap shift ·) (basePages base) ∧
    ∃ result, value = some result ∧
      (result = none ↔ ∀ va ∈ basePages base, HasShift pagemap shift va)

section Mapping

variable {addr : Nat}

theorem length_div_two : length / 2 = largePageSize :=
  Nat.mul_div_cancel_left _ Nat.two_pos

theorem pages_mul : largePageSize / pageSize * pageSize = largePageSize :=
  Nat.div_mul_cancel (Nat.pow_dvd_pow 2 (by decide))

/-- Where the large page is in the mapping. -/
theorem alignUp_inside (fits : addr + length ≤ 2 ^ 64) :
    alignUp addr largePageSize % largePageSize = 0 ∧ addr ≤ alignUp addr largePageSize ∧
      alignUp addr largePageSize + largePageSize < addr + length := by
  have length_eq : length = 4194304 := rfl
  rw [length_eq] at fits ⊢
  have room : addr + largePageSize ≤ 2 ^ 64 := by
    rw [largePageSize_eq]
    omega
  have rounded : alignUp addr largePageSize =
      (addr + largePageSize - 1) / largePageSize * largePageSize :=
    alignUp_two_pow room (by decide)
  rw [rounded, largePageSize_eq]
  omega

theorem mem_basePages {base va : Nat} (member : va ∈ basePages base) :
    base ≤ va ∧ va < base + largePageSize := by
  rcases List.mem_range'.mp member with ⟨index, small, rfl⟩
  have count : largePageSize / pageSize = 512 := rfl
  rw [count] at small
  rw [pageSize_eq, largePageSize_eq]
  omega

variable {access : Nat → Program Unit} {unexpected flag : Int} {expected : Int → Int}
  {passes : Int → Bool} {message : String} {pagemap : Nat → Option (BitVec 64)} {fuel shift : Nat}
  {calls : List PagemapCall} {value : Option (Option String)}

/-- Calls before the first access do not matter. -/
theorem ProbesLargePage.append {first : List PagemapCall}
    (silent : ∀ call ∈ first, accessed call = none)
    (probes : ProbesLargePage pagemap shift addr calls value) :
    ProbesLargePage pagemap shift addr (first ++ calls) value := by
  refine ⟨fun call member va access => ?_, ?_⟩
  · rcases List.mem_append.mp member with earlier | later
    · cases (silent call earlier).symm.trans access
    · exact probes.inside call later va access
  · rw [probes_append silent]
    exact probes.exact

/-- There is no overflow, and the loop runs over the base pages. -/
theorem probeMapping_eq (loop : Nat → Nat → Nat → Int → Program (Option Int))
    (fits : addr + length ≤ 2 ^ 64) :
    probeMapping loop flag passes message fuel addr = (do
      .perform (Op.printf "mmap=%p\n" [] [addr])
      let final ← loop fuel (alignUp addr largePageSize)
        (alignUp addr largePageSize + largePageSize / pageSize * pageSize) flag
      return final.map fun flag => if passes flag then none else some message) := by
  rcases alignUp_inside fits with ⟨-, -, most⟩
  have stop : (alignUp addr largePageSize + length / 2) % 2 ^ 64 =
      alignUp addr largePageSize + largePageSize / pageSize * pageSize := by
    rw [length_div_two, pages_mul]
    exact Nat.mod_eq_of_lt (most.trans_le fits)
  have before : alignUp addr largePageSize <
      alignUp addr largePageSize + largePageSize / pageSize * pageSize := by
    rw [pages_mul]
    exact Nat.lt_add_of_pos_right (Nat.two_pow_pos _)
  simp only [probeMapping, stop, if_pos before]

theorem probeMapping_exact (isAccess : IsAccess access) (fails : passes unexpected = false)
    (goesOn : passes (expected 1) = true) (passing : passes flag = true)
    (fits : addr + length ≤ 2 ^ 64) (enough : largePageSize / pageSize < fuel)
    (performs : (probeMapping (probeLoop access (2 ^ shift) unexpected expected) flag passes message
      fuel addr).Performs calls value)
    (shows : Shows pagemap calls) : ProbesLargePage pagemap shift addr calls value := by
  rcases alignUp_inside fits with ⟨aligned, least, most⟩
  have below : alignUp addr largePageSize + largePageSize / pageSize * pageSize < 2 ^ 64 := by
    rw [pages_mul]
    exact most.trans_le fits
  rw [probeMapping_eq _ fits] at performs
  rcases performs with ⟨_, rest, rfl, continues⟩
  rcases (Code.performs_bind _ _ _ _).mp continues with ⟨_, _, _, rfl, ⟨rfl, rfl⟩, running⟩
  rcases (Code.performs_bind _ _ _ _).mp running with ⟨looped, _, looping, rfl, loops, rfl, rfl⟩
  rw [List.append_nil] at shows ⊢
  have silent : ∀ call ∈ [(⟨.printf "mmap=%p\n" [] [(addr : Int)], ()⟩ : PagemapCall)],
      accessed call = none :=
    List.forall_mem_singleton.mpr rfl
  have shown : Shows pagemap looped := by
    rw [Shows, ← probes_append silent]
    exact shows
  rcases probeLoop_exact isAccess fails goesOn below enough passing loops shown with
    ⟨probed, final, rfl, verdict⟩
  refine .append silent ⟨fun call member va access => ?_, ?_⟩
  · have isProbed := mem_probes member access
    rw [probed] at isProbed
    have isBase := mem_basePages (mem_of_mem_upTo isProbed)
    omega
  · refine ⟨alignUp addr largePageSize, aligned, probed, _, rfl, ?_⟩
    rw [basePages, ← verdict]
    cases outcome : passes final <;> simp [outcome]

/-- The address that `mmap` has returned. -/
def mapping (calls : List PagemapCall) : Option Nat :=
  calls.findSome? fun call => match call with
    | ⟨.mmap _ _, addr⟩ => some addr
    | _ => none

theorem ne_mapFailed (fits : addr + length ≤ 2 ^ 64) : addr ≠ mapFailed := by
  have length_eq : length = 4194304 := rfl
  have failed : mapFailed = 18446744073709551615 := rfl
  omega

theorem runFunc0_exact (fits : addr + length ≤ 2 ^ 64) (enough : largePageSize / pageSize < fuel)
    (mapped : mapping calls = some addr) (shows : Shows pagemap calls)
    (performs : (runFunc0 fuel).Performs calls value) :
    ProbesLargePage pagemap largePageShift addr calls value := by
  rcases performs with ⟨_, rest, rfl, continues⟩
  cases mapped
  change Code.Performs (if addr = mapFailed then _ else _) _ _ at continues
  rw [if_neg (ne_mapFailed fits)] at continues
  have silent : ∀ call ∈ [(⟨.mmap length (-1), addr⟩ : PagemapCall)], accessed call = none :=
    List.forall_mem_singleton.mpr rfl
  exact .append silent (probeMapping_exact isAccess_storeZ rfl rfl rfl fits enough continues shows)

theorem runFunc4_exact (fits : addr + length ≤ 2 ^ 64) (enough : largePageSize / pageSize < fuel)
    (mapped : mapping calls = some addr) (shows : Shows pagemap calls)
    (performs : (runFunc4 fuel).Performs calls value) :
    ProbesLargePage pagemap pageShift addr calls value := by
  rcases performs with ⟨created, _, rfl, opening⟩
  cases created with
  | none =>
      rcases opening with ⟨rfl, -⟩
      cases mapped
  | some filePath =>
      rcases opening with ⟨fd, rest, rfl, maps⟩
      change Code.Performs (if fd = -1 then _ else _) _ _ at maps
      split at maps
      · rcases maps with ⟨rfl, -⟩
        cases mapped
      · rcases maps with ⟨_, rest, rfl, continues⟩
        cases mapped
        change Code.Performs (if addr = mapFailed then _ else _) _ _ at continues
        rw [if_neg (ne_mapFailed fits)] at continues
        have silent : ∀ call ∈ [(⟨.createTempFile "mem_large_page_004" length, some filePath⟩ :
            PagemapCall), ⟨.openFile filePath, fd⟩, ⟨.mmap length fd, addr⟩],
            accessed call = none := by
          simp [accessed]
        exact .append silent
          (probeMapping_exact isAccess_loadCh rfl rfl rfl fits enough continues shows)

end Mapping

/-- Both tests look for their shift on one aligned large page in the mapping. -/
theorem large_page_probed (pagemap : Nat → Option (BitVec 64)) (addr fuel : Nat)
    (calls : List PagemapCall) (value : Option (Option String)) (fits : addr + length ≤ 2 ^ 64)
    (enough : largePageSize / pageSize < fuel) (mapped : mapping calls = some addr)
    (shows : Shows pagemap calls) :
    ((runFunc0 fuel).Performs calls value →
      ProbesLargePage pagemap largePageShift addr calls value) ∧
    ((runFunc4 fuel).Performs calls value →
      ProbesLargePage pagemap pageShift addr calls value) :=
  ⟨runFunc0_exact fits enough mapped shows, runFunc4_exact fits enough mapped shows⟩

/-- The calls that probe a page up to its entry, which has the given shift. -/
def pageCalls (page shift : Nat) : List PagemapCall :=
  [⟨.storeByte (page * pageSize) 90, ()⟩, ⟨.getpid, (7 : Int)⟩, ⟨.openFile (pfnameOf 7), (3 : Int)⟩,
    ⟨.lseek 3 (page * 8), (page * 8 : Int)⟩,
    ⟨.read 3 (page * 8), some (BitVec.ofNat 64 shift <<< 55)⟩]

/-- A run of `mem_large_page#0` whose third page is a base page. -/
def thirdPageSmall : List PagemapCall :=
  [⟨.mmap length (-1), (0x200000 : Nat)⟩, ⟨.printf "mmap=%p\n" [] [0x200000], ()⟩] ++
    pageCalls 512 21 ++ [⟨.close 3, (0 : Int)⟩] ++ pageCalls 513 21 ++ [⟨.close 3, (0 : Int)⟩] ++
    pageCalls 514 12 ++
    [⟨.printf "%s pagesize = 0x%lx, Not as expected.\n" (pfnameOf 7) [4096], ()⟩,
      ⟨.close 3, (0 : Int)⟩]

theorem thirdPageSmall_performs :
    (runFunc0 513).Performs thirdPageSmall (some (some "invalid page size?")) :=
  Code.performs_of_replay (by decide +kernel)

theorem large_page_probed_third_page :
    ProbesLargePage
      (fun page => some (BitVec.ofNat 64 (if page < 514 then 21 else 12) <<< 55))
      largePageShift 0x200000 thirdPageSmall (some (some "invalid page size?")) :=
  (large_page_probed _ 0x200000 513 _ _ (by decide) (by decide) rfl (by decide +kernel)).1
    thirdPageSmall_performs

/-- The test stops at a small page, so that it does not probe all pages of the large one. -/
theorem probe_stops_at_small_page :
    ¬∀ calls value, (runFunc0 513).Performs calls value → mapping calls = some 0x200000 →
      ∃ base, (probes calls).map Probe.va = basePages base := by
  intro exact
  rcases exact _ _ thirdPageSmall_performs rfl with ⟨base, same⟩
  have lengths := congrArg List.length same
  rw [basePages, List.length_range'] at lengths
  revert lengths
  decide

end McKernelTest.MemLargePage
