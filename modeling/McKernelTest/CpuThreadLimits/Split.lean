import McKernelTest.CpuThreadLimits.Core
import McKernelTest.Pieces.Split

/-!
# The pieces of `cpu_thread_limits#1`

The arguments that the run function hands to its threads are the even split of the
range below `numdiv`.
-/

namespace McKernelTest.CpuThreadLimits

open Machine Pieces Process

variable {F : Type}

/-! ## The arguments of the threads -/

/-- The arguments of the threads that are created. -/
def startedArgs (calls : List (Call (Op F) Res)) : List PiArg :=
  calls.filterMap fun call =>
    match call with
    | ⟨.pthreadCreate _ piargs, _⟩ => some piargs
    | _ => none

theorem startedArgs_append (first second : List (Call (Op F) Res)) :
    startedArgs (first ++ second) = startedArgs first ++ startedArgs second :=
  List.filterMap_append ..

/-- The arguments that belong to the threads. -/
def pieces (threadNum : Int) : List PiArg :=
  (List.range threadNum.toNat).map fun ith : Nat => piargsOf threadNum ith

section Traces

variable {calls : List (Call (Op F) Res)} {threadNum : Int}

theorem started_of_return {A : Type} {value result : A}
    (performs : (Code.ret value : Program F A).Performs calls result) : startedArgs calls = [] := by
  rw [performs.1]
  rfl

theorem createThreads_started {ith remaining : Nat} {irets : List Int}
    (performs : (createThreads threadNum ith remaining).Performs calls irets) :
    startedArgs calls = (List.range' ith remaining).map fun k : Nat => piargsOf threadNum k := by
  induction remaining generalizing ith calls irets with
  | zero => exact started_of_return performs
  | succ remaining ih =>
      simp only [createThreads, Code.perform_bind, Code.performs_call,
        Code.performs_bind] at performs
      rcases performs with ⟨_, _, rfl, later, last, _, rfl, creates, rfl, -⟩
      rw [List.range'_succ, List.map_cons, ← ih creates, List.append_nil]
      rfl

theorem checkThreads_started {ith : Nat} {irets : List Int} {message : Option String}
    (performs : (checkThreads ith irets).Performs calls message) : startedArgs calls = [] := by
  induction irets generalizing ith with
  | nil => exact started_of_return performs
  | cons iret irets ih =>
      rw [checkThreads] at performs
      split at performs
      · rcases performs with ⟨_, _, rfl, _, _, rfl, rfl, -⟩
        rfl
      · exact ih performs

theorem joinThreads_started {double : Double F} {ith remaining : Nat} {pi result : F}
    (performs : (joinThreads double ith remaining pi).Performs calls result) :
    startedArgs calls = [] := by
  induction remaining generalizing ith pi calls with
  | zero => exact started_of_return performs
  | succ remaining ih =>
      simp only [joinThreads, Code.perform_bind, Code.performs_call] at performs
      rcases performs with ⟨_, _, rfl, _, rest, rfl, performs⟩
      change startedArgs rest = []
      exact ih performs

theorem afterCreate_started {double : Double F} {irets : List Int} {message : Option String}
    (performs : (afterCreate double threadNum irets).Performs calls message) :
    startedArgs calls = [] := by
  rw [afterCreate, Code.performs_bind] at performs
  rcases performs with ⟨checks, rest, found, rfl, checking, performs⟩
  rw [startedArgs_append, checkThreads_started checking, List.nil_append]
  cases found with
  | some message => exact started_of_return performs
  | none =>
      simp only [Code.perform_bind, Code.performs_call, Code.performs_bind] at performs
      rcases performs with ⟨_, _, rfl, _, _, rfl, joins, _, pi, rfl, joining, _, _, rfl, rfl, -⟩
      change startedArgs (joins ++ _) = []
      rw [startedArgs_append, joinThreads_started joining]
      rfl

/-- The run function gives up before it creates threads, or it goes through all of its
parts. -/
theorem runFunc_parts {double : Double F} {cpuNum : Int} {message : Option String}
    (performs : (runFunc double threadNum cpuNum).Performs calls message) :
    (startedArgs calls = [] ∧ message ≠ none) ∨
      ∃ first creates rest irets, calls = first ++ (creates ++ rest) ∧ startedArgs first = [] ∧
        (createThreads threadNum 0 threadNum.toNat).Performs creates irets ∧
        (afterCreate double threadNum irets).Performs rest message := by
  simp only [runFunc, Code.perform_bind] at performs
  split at performs
  · rcases performs with ⟨rfl, rfl⟩
    exact .inl ⟨rfl, nofun⟩
  split at performs
  · rcases performs with ⟨rfl, rfl⟩
    exact .inl ⟨rfl, nofun⟩
  rcases performs with ⟨rlimMax, _, rfl, performs⟩
  beta_reduce at performs
  split at performs
  · rcases performs with ⟨rfl, rfl⟩
    exact .inl ⟨rfl, nofun⟩
  rcases performs with ⟨ret, _, rfl, performs⟩
  beta_reduce at performs
  split at performs
  · rcases performs with ⟨rfl, rfl⟩
    exact .inl ⟨rfl, nofun⟩
  rcases performs with ⟨child, _, rfl, performs⟩
  beta_reduce at performs
  split at performs
  · rcases performs with ⟨rfl, rfl⟩
    exact .inl ⟨rfl, nofun⟩
  rcases (Code.performs_bind ..).mp performs with ⟨creates, rest, irets, rfl, creating, finishing⟩
  exact .inr ⟨[⟨_, rlimMax⟩, ⟨_, ret⟩, ⟨_, child⟩], creates, rest, irets, rfl, rfl, creating,
    finishing⟩

/-- The run function creates no thread, or one for every piece. -/
theorem runFunc_started {double : Double F} {cpuNum : Int} {message : Option String}
    (performs : (runFunc double threadNum cpuNum).Performs calls message) :
    startedArgs calls = [] ∨ startedArgs calls = pieces threadNum := by
  rcases runFunc_parts performs with ⟨none, -⟩ |
    ⟨first, creates, rest, irets, rfl, none, creating, finishing⟩
  · exact .inl none
  · right
    rw [startedArgs_append, none, List.nil_append, startedArgs_append,
      createThreads_started creating, afterCreate_started finishing, List.append_nil, pieces,
      List.range_eq_range']

end Traces

/-! ## The indices of a piece -/

/-- The values that the loop variable of `pi_calc` takes in the body of the loop. -/
def indices (piarg : PiArg) : List Int :=
  (List.range (piarg.iend - piarg.istart).toNat).map fun k : Nat => piarg.istart + k

theorem mem_indices {piarg : PiArg} {i : Int} :
    i ∈ indices piarg ↔ piarg.istart ≤ i ∧ i < piarg.iend := by
  rw [indices, List.mem_map]
  constructor
  · rintro ⟨k, inside, rfl⟩
    rw [List.mem_range] at inside
    omega
  · rintro ⟨least, most⟩
    exact ⟨(i - piarg.istart).toNat, List.mem_range.mpr (by omega), by omega⟩

/-- The body of the loop. -/
def addTerm (double : Double F) (dx sum : F) (i : Int) : F :=
  let x := double.mul (double.add (double.ofLong i) double.half) dx
  double.add sum (double.div double.four (double.add double.one (double.mul x x)))

theorem sumFrom_eq_foldl (double : Double F) (dx : F) (i : Int) (remaining : Nat) (sum : F) :
    sumFrom double dx i remaining sum =
      ((List.range remaining).map fun k : Nat => i + k).foldl (addTerm double dx) sum := by
  induction remaining generalizing i sum with
  | zero => rfl
  | succ remaining ih =>
      rw [sumFrom, ih, List.range_succ_eq_map, List.map_cons, List.foldl_cons, List.map_map]
      have shifted : ((fun k : Nat => i + k) ∘ Nat.succ) = fun k : Nat => i + 1 + k := by
        funext k
        simp only [Function.comp, Nat.succ_eq_add_one]
        omega
      rw [shifted, Int.natCast_zero, Int.add_zero]
      rfl

/-- A thread leaves the sum over its indices. -/
theorem piCalc_sums {double : Double F} {ith : Nat} {piarg : PiArg}
    {calls : List (Call (Op F) Res)} (performs : (piCalc double ith piarg).Performs calls ()) :
    let dx := double.div double.one (double.ofLong numdiv)
    ⟨.storePsum ith (double.mul ((indices piarg).foldl (addTerm double dx) double.zero) dx), ()⟩ ∈
      calls := by
  intro dx
  simp only [piCalc, Code.perform_bind, Code.performs_call] at performs
  rcases performs with ⟨_, _, rfl, _, _, rfl, _, _, rfl, -⟩
  rw [indices, ← sumFrom_eq_foldl]
  simp [psumOf, dx]

/-! ## The split -/

section Products

theorem toLong_product {ith : Int} (nonneg : 0 ≤ ith) (small : ith < 2 ^ 31) :
    toLong (ith * numdiv) = ith * numdiv := by
  apply toLong_eq_self <;> rw [numdiv] <;> omega

theorem tdiv_product (ith parts : Nat) :
    ((ith : Int) * numdiv).tdiv parts = evenCut numdiv.toNat parts ith := by
  have product : (ith : Int) * numdiv = (ith * numdiv.toNat : Nat) := by
    rw [Int.natCast_mul]
    rfl
  rw [product, evenCut, Int.ofNat_tdiv]

theorem piargsOf_istart {ith parts : Nat} (small : ith < 2 ^ 31) :
    (piargsOf parts ith).istart = evenCut numdiv.toNat parts ith := by
  rw [piargsOf, toLong_product (by omega) (by omega), tdiv_product]

theorem piargsOf_iend {ith parts : Nat} (small : ith + 1 < 2 ^ 31) :
    (piargsOf parts ith).iend = evenCut numdiv.toNat parts (ith + 1) := by
  simp only [piargsOf]
  rw [toLong_product (by omega) (by omega), ← Int.natCast_succ, tdiv_product]

end Products

theorem pieces_getElem?_eq_some_iff {parts k : Nat} {piarg : PiArg} :
    (pieces parts)[k]? = some piarg ↔ k < parts ∧ piargsOf parts k = piarg := by
  rw [pieces, Int.toNat_natCast, List.getElem?_map, Option.map_eq_some_iff]
  simp only [List.getElem?_eq_some_iff, List.getElem_range, List.length_range]
  constructor
  · rintro ⟨_, ⟨known, rfl⟩, same⟩
    exact ⟨known, same⟩
  · rintro ⟨known, same⟩
    exact ⟨k, ⟨known, rfl⟩, same⟩

/-- The pieces split the indices below `numdiv` among the threads. -/
structure IsSplit (args : List PiArg) (threadNum : Int) : Prop where
  length : args.length = threadNum.toNat
  first : ∀ piarg, args[0]? = some piarg → piarg.istart = 0
  last : ∀ piarg, args.getLast? = some piarg → piarg.iend = numdiv
  consecutive : ∀ k piarg next, args[k]? = some piarg → args[k + 1]? = some next →
    piarg.iend = next.istart
  once : ∀ i, 0 ≤ i → i < numdiv → ∃! k : Nat, ∃ piarg, args[k]? = some piarg ∧ i ∈ indices piarg
  even : ∀ piarg ∈ args, ∀ other ∈ args,
    (piarg.iend - piarg.istart) - (other.iend - other.istart) ≤ 1
  exact : ∀ ith, 0 ≤ ith → ith < threadNum →
    toLong (ith * numdiv) = ith * numdiv ∧ toLong ((ith + 1) * numdiv) = (ith + 1) * numdiv

/-- The run function splits the indices evenly. -/
theorem pieces_isSplit {parts : Nat} (positive : 0 < parts) (small : parts < 2 ^ 31) :
    IsSplit (pieces parts) parts where
  length := by rw [pieces, List.length_map, List.length_range]
  first := by
    intro piarg found
    rcases pieces_getElem?_eq_some_iff.mp found with ⟨-, rfl⟩
    rw [piargsOf_istart (by omega), evenCut_zero]
    rfl
  last := by
    intro piarg found
    rw [List.getLast?_eq_getElem?] at found
    rcases pieces_getElem?_eq_some_iff.mp found with ⟨known, rfl⟩
    have isLast : (pieces parts).length - 1 + 1 = parts := by
      rw [pieces, List.length_map, List.length_range]
      omega
    rw [piargsOf_iend (by omega), isLast, evenCut_parts positive]
    rfl
  consecutive := by
    intro k piarg next found foundNext
    rcases pieces_getElem?_eq_some_iff.mp found with ⟨-, rfl⟩
    rcases pieces_getElem?_eq_some_iff.mp foundNext with ⟨known, rfl⟩
    rw [piargsOf_iend (by omega), piargsOf_istart (by omega)]
  once := by
    intro i nonneg below
    obtain ⟨index, rfl⟩ := Int.eq_ofNat_of_zero_le nonneg
    have isIndex : index < evenCut numdiv.toNat parts parts := by
      rw [evenCut_parts positive]
      exact Int.lt_toNat.mpr below
    rcases existsUnique_piece evenCut_monotone evenCut_zero isIndex with
      ⟨k, ⟨known, least, most⟩, unique⟩
    refine ⟨k, ⟨piargsOf parts k, pieces_getElem?_eq_some_iff.mpr ⟨known, rfl⟩, ?_⟩, ?_⟩
    · rw [mem_indices, piargsOf_istart (by omega), piargsOf_iend (by omega)]
      omega
    · rintro other ⟨piarg, found, inside⟩
      rcases pieces_getElem?_eq_some_iff.mp found with ⟨otherKnown, rfl⟩
      rw [mem_indices, piargsOf_istart (by omega), piargsOf_iend (by omega)] at inside
      exact unique other ⟨otherKnown, by omega, by omega⟩
  even := by
    have length : ∀ piarg ∈ pieces parts,
        ((numdiv.toNat / parts : Nat) : Int) ≤ piarg.iend - piarg.istart ∧
          piarg.iend - piarg.istart ≤ (numdiv.toNat / parts : Nat) + 1 := by
      intro piarg member
      rcases List.mem_iff_getElem?.mp member with ⟨k, found⟩
      rcases pieces_getElem?_eq_some_iff.mp found with ⟨known, rfl⟩
      have bounds := @evenCut_length numdiv.toNat parts positive k
      rw [piargsOf_istart (by omega), piargsOf_iend (by omega)]
      omega
    intro piarg member other otherMember
    have longest := (length piarg member).2
    have shortest := (length other otherMember).1
    omega
  exact := by
    intro ith nonneg known
    exact ⟨toLong_product nonneg (by omega), toLong_product (by omega) (by omega)⟩

/-- Every run of the run function that creates threads splits the indices below `numdiv`
evenly among them. -/
theorem work_split_partition (double : Double F) (threadNum cpuNum : Int)
    (positive : 0 < threadNum) (small : threadNum ≤ 2 ^ 31 - 1) (calls : List (Call (Op F) Res))
    (message : Option String)
    (performs : (runFunc double threadNum cpuNum).Performs calls message)
    (started : startedArgs calls ≠ []) : IsSplit (startedArgs calls) threadNum := by
  obtain ⟨parts, rfl⟩ := Int.eq_ofNat_of_zero_le (Int.le_of_lt positive)
  rw [(runFunc_started performs).resolve_left started]
  exact pieces_isSplit (by omega) (by omega)

/-- Integers in the place of `double`. -/
def intDouble : Double Int where
  ofLong i := i
  zero := 0
  half := 0
  one := 1
  four := 4
  add := (· + ·)
  mul := (· * ·)
  div := (· / ·)

/-- A run with two threads. -/
def twoThreads : List (Call (Op Int) Res) :=
  [⟨.getrlimitNproc, 8⟩, ⟨.setrlimitNproc 4, (0 : Int)⟩, ⟨.calloc 2, true⟩,
    ⟨.pthreadCreate 0 ⟨0, 100000000, 1⟩, (0 : Int)⟩,
    ⟨.pthreadCreate 1 ⟨100000000, 200000000, 2⟩, (0 : Int)⟩,
    ⟨.awaitWaiting 2, ()⟩, ⟨.storeBarrier, ()⟩, ⟨.pthreadJoin 0, ()⟩, ⟨.loadPsum 0, (2 : Int)⟩,
    ⟨.pthreadJoin 1, ()⟩, ⟨.loadPsum 1, (1 : Int)⟩, ⟨.printfDouble "PI = %16.14f\n" 3, ()⟩]

theorem work_split_partition_two : IsSplit (startedArgs twoThreads) 2 :=
  work_split_partition intDouble 2 4 (by decide) (by decide) twoThreads none
    (Code.performs_of_replay rfl) (by decide)

end McKernelTest.CpuThreadLimits
