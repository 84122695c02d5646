import McKernelTest.Process.Trace
import McKernelTest.TestApp.Execve

/-!
# The array behind the vector for `execve`

Six test cases build the vector for a new program in the same way.  Here the allocation
and the stores to it are operations, so that a trace shows how many bytes are requested
and which elements are written.  What the stores leave in the array is the vector of
`execve1Run`.

The numbers of the arguments are `int`.
-/

namespace McKernelTest.Execve

open Posix Process
open TestApp (ExecveArgs RunResult copyArgs execve1Run)

/-- The calls, and the stores to the array at `argv` and to `vfork_global`. -/
inductive ExecOp where
  | malloc (size : Nat)
  | store (argv index : Nat) (value : Option Arg)
  | sleep (seconds : Nat)
  | storeVforkGlobal (value : Int)
  | execve (path : Option Arg)
  deriving DecidableEq, Repr

/-- The result of a call: `malloc` returns an address. -/
@[reducible]
def ExecRes : ExecOp → Type
  | .malloc _ => Nat
  | .execve _ => Int
  | .store _ _ _ | .sleep _ | .storeVforkGlobal _ => Unit

abbrev ExecProgram := Code ExecOp ExecRes

abbrev ExecCall := Call ExecOp ExecRes

/-! ## The six copies -/

/-- `sizeof(char **)`. -/
def sizeofPointer : Nat := 8

/-- The number of bytes that is requested, computed as `size_t`. -/
def mallocSize (argc : Nat) : Nat :=
  argc * (sizeofPointer + 2) % 2 ^ 64

/-- The copying loop from `i` on, and the terminating NULL behind it. -/
def copyFrom (argv : Nat) (args : List Arg) (i : Nat) : Nat → ExecProgram Unit
  | 0 => .perform (ExecOp.store argv (i + 1) none)
  | remaining + 1 => do
      .perform (ExecOp.store argv (i + 1) args[i]?)
      copyFrom argv args (i + 1) remaining

/-- The part that all copies share. -/
def buildVector (args : ExecveArgs) : ExecProgram Unit := do
  let argv ← .perform (ExecOp.malloc (mallocSize args.argc))
  .perform (ExecOp.store argv 0 args.filePath)
  copyFrom argv args.argv 0 args.argc

/-- `child_execve` of `fork_execve#0`. -/
def forkExecve0ChildExecve (args : ExecveArgs) : ExecProgram Unit := do
  buildVector args
  let _ ← .perform (ExecOp.execve args.filePath)

/-- `child_execve_vfork_00`. -/
def childExecveVfork00 (args : ExecveArgs) : ExecProgram Unit := do
  buildVector args
  .perform (ExecOp.sleep 1)
  .perform (ExecOp.storeVforkGlobal 1)
  let _ ← .perform (ExecOp.execve args.filePath)

/-- `child_execve` of `vfork#2`. -/
def vfork2ChildExecve : ExecveArgs → ExecProgram Unit :=
  forkExecve0ChildExecve

/-- `child_execve` of `setpgid#4`. -/
def setpgid4ChildExecve : ExecveArgs → ExecProgram Unit :=
  forkExecve0ChildExecve

/-- `child_execve` of `sched_getaffinity#6`. -/
def schedGetaffinity6ChildExecve : ExecveArgs → ExecProgram Unit :=
  forkExecve0ChildExecve

/-- The run function of `execve#1`. -/
def execve1RunFunc : Option ExecveArgs → ExecProgram (Option String)
  | none => return some "invalid arguement."
  | some args =>
      if args.filePath = none then
        return some "invalid file path."
      else do
        buildVector args
        let _ ← .perform (ExecOp.execve args.filePath)
        return some "Why return from execve() ???"

/-- The test cases with a copy. -/
inductive ExecTest where
  | execve1
  | forkExecve0
  | vfork0
  | vfork2
  | setpgid4
  | schedGetaffinity6
  deriving DecidableEq, Repr

/-- What the process that calls `execve` runs: the run function of `execve#1`, and in the
other test cases the branch of the child from `child_execve` on, which fails if `execve`
returns.  The child of `sched_getaffinity#6` writes its CPU set to a file before that; the
file is not modelled. -/
def ExecTest.program (test : ExecTest) (args : ExecveArgs) : ExecProgram (Option String) :=
  match test with
  | .execve1 => execve1RunFunc (some args)
  | .forkExecve0 => do
      forkExecve0ChildExecve args
      return some "Why return from execve() ???"
  | .vfork0 => do
      childExecveVfork00 args
      return some "Why return from execve() ???"
  | .vfork2 => do
      vfork2ChildExecve args
      return some "Why return from execve() ???"
  | .setpgid4 => do
      setpgid4ChildExecve args
      return some "Why return from execve() ???"
  | .schedGetaffinity6 => do
      schedGetaffinity6ChildExecve args
      return some "Why return from execve() ???"

/-- Every store stays inside the bytes that were requested for its array. -/
def InsideAllocation (calls : List ExecCall) : Prop :=
  ∀ size argv index value, ⟨.malloc size, argv⟩ ∈ calls → ⟨.store argv index value, ()⟩ ∈ calls →
    index * sizeofPointer + sizeofPointer ≤ size

/-! ## The stores -/

/-- The stores of the elements from `index` on, and of the NULL behind them. -/
def storesFrom (argv index : Nat) : List (Option Arg) → List ExecCall
  | [] => [⟨.store argv index none, ()⟩]
  | value :: values => ⟨.store argv index value, ()⟩ :: storesFrom argv (index + 1) values

theorem mem_storesFrom_iff {argv index : Nat} {values : List (Option Arg)} {call : ExecCall} :
    call ∈ storesFrom argv index values ↔
      ∃ k ≤ values.length, call = ⟨.store argv (index + k) values[k]?.join, ()⟩ := by
  induction values generalizing index with
  | nil => simp [storesFrom]
  | cons value values ih =>
      rw [storesFrom, List.mem_cons, ih]
      constructor
      · rintro (rfl | ⟨k, bound, rfl⟩)
        · exact ⟨0, Nat.zero_le _, rfl⟩
        · exact ⟨k + 1, Nat.succ_le_succ bound, by simp [Nat.add_comm, Nat.add_left_comm]⟩
      · rintro ⟨k, bound, rfl⟩
        cases k with
        | zero => exact Or.inl rfl
        | succ k =>
            exact Or.inr ⟨k, Nat.le_of_succ_le_succ bound,
              by simp [Nat.add_comm, Nat.add_left_comm]⟩

theorem performs_copyFrom (argv : Nat) (before args : List Arg) (calls : List ExecCall) :
    (copyFrom argv (before ++ args) before.length args.length).Performs calls () ↔
      calls = storesFrom argv (before.length + 1) (args.map some) := by
  induction args generalizing before calls with
  | nil =>
      rw [List.length_nil, copyFrom, Code.perform, Code.performs_call]
      constructor
      · rintro ⟨-, rest, rfl, rfl, -⟩
        rfl
      · rintro rfl
        exact ⟨(), [], rfl, rfl, rfl⟩
  | cons arg args ih =>
      have next := ih (before ++ [arg])
      rw [List.append_assoc, List.length_append] at next
      have current : (before ++ arg :: args)[before.length]? = some arg := by
        rw [List.getElem?_append_right (Nat.le_refl _), Nat.sub_self, List.getElem?_cons_zero]
      rw [List.length_cons, copyFrom, current, Code.perform_bind, Code.performs_call]
      constructor
      · rintro ⟨-, rest, rfl, performs⟩
        rw [(next rest).mp performs]
        rfl
      · rintro rfl
        exact ⟨(), _, rfl, (next _).mpr rfl⟩

/-- The calls that build the vector. -/
def vectorCalls (argv : Nat) (path : Arg) (args : List Arg) : List ExecCall :=
  ⟨.malloc (mallocSize args.length), argv⟩ :: storesFrom argv 0 ((path :: args).map some)

theorem performs_buildVector (path : Arg) (args : List Arg) (calls : List ExecCall) :
    (buildVector ⟨some path, args, args.length⟩).Performs calls () ↔
      ∃ argv, calls = vectorCalls argv path args := by
  have copied (argv : Nat) := performs_copyFrom argv [] args
  simp only [List.nil_append, List.length_nil, Nat.zero_add] at copied
  simp only [buildVector, Code.perform_bind, Code.performs_call]
  constructor
  · rintro ⟨argv, rest, rfl, -, others, rfl, performs⟩
    rw [(copied argv others).mp performs]
    exact ⟨argv, rfl⟩
  · rintro ⟨argv, rfl⟩
    exact ⟨argv, _, rfl, (), _, rfl, (copied argv _).mpr rfl⟩

/-- The operations on the array. -/
def ExecOp.onArray : ExecOp → Bool
  | .malloc _ | .store _ _ _ => true
  | .sleep _ | .storeVforkGlobal _ | .execve _ => false

/-- What follows the vector in a copy. -/
def ExecTest.afterwards (test : ExecTest) (path : Arg) : ExecProgram (Option String) := do
  if test = .vfork0 then
    .perform (ExecOp.sleep 1)
    .perform (ExecOp.storeVforkGlobal 1)
  let _ ← .perform (ExecOp.execve (some path))
  return some "Why return from execve() ???"

theorem program_eq (test : ExecTest) (path : Arg) (args : List Arg) (argc : Nat) :
    test.program ⟨some path, args, argc⟩ =
      (buildVector ⟨some path, args, argc⟩ >>= fun _ => test.afterwards path) := by
  cases test
  case execve1 => rfl
  case vfork0 =>
    rw [ExecTest.program, childExecveVfork00, Code.bind_assoc]
    rfl
  all_goals
    rw [ExecTest.program]
    exact Code.bind_assoc ..

theorem onArray_of_performs_afterwards {test : ExecTest} {path : Arg} {calls : List ExecCall}
    {value : Option String} (performs : (test.afterwards path).Performs calls value) :
    ∀ call ∈ calls, call.op.onArray = false := by
  intro call member
  cases test
  case vfork0 =>
    rcases performs with ⟨_, _, rfl, _, _, rfl, _, _, rfl, rfl, -⟩
    simp only [List.mem_cons, List.not_mem_nil, or_false] at member
    rcases member with rfl | rfl | rfl <;> rfl
  all_goals
    rcases performs with ⟨_, _, rfl, rfl, -⟩
    rw [List.mem_singleton.mp member]
    rfl

/-- Every copy builds the vector first and leaves the array alone from then on. -/
theorem performs_program (test : ExecTest) (path : Arg) (args : List Arg) {calls : List ExecCall}
    {value : Option String}
    (performs : (test.program ⟨some path, args, args.length⟩).Performs calls value) :
    ∃ argv rest, calls = vectorCalls argv path args ++ rest ∧
      ∀ call ∈ rest, call.op.onArray = false := by
  rw [program_eq, Code.performs_bind] at performs
  rcases performs with ⟨first, rest, _, rfl, built, after⟩
  rcases (performs_buildVector path args first).mp built with ⟨argv, rfl⟩
  exact ⟨argv, rest, rfl, onArray_of_performs_afterwards after⟩

/-! ## The vector in the array -/

/-- The array after the stores to it. -/
def arrayAfter (argv : Nat) : List ExecCall → (Nat → Option Arg) → Nat → Option Arg
  | [], array => array
  | ⟨.store other index value, _⟩ :: calls, array =>
      arrayAfter argv calls (if other = argv then Function.update array index value else array)
  | _ :: calls, array => arrayAfter argv calls array

theorem arrayAfter_storesFrom (argv i : Nat) (args : List Arg) (array : Nat → Option Arg) :
    arrayAfter argv (storesFrom argv (i + 1) (args.map some)) array = copyArgs i args array := by
  induction args generalizing i array with
  | nil => simp [storesFrom, arrayAfter, copyArgs]
  | cons arg args ih =>
      rw [List.map_cons, storesFrom, arrayAfter, if_pos rfl, ih, copyArgs]

theorem arrayAfter_of_onArray {argv : Nat} {calls rest : List ExecCall}
    (leaves : ∀ call ∈ rest, call.op.onArray = false) (array : Nat → Option Arg) :
    arrayAfter argv (calls ++ rest) array = arrayAfter argv calls array := by
  have idle : ∀ array, arrayAfter argv rest array = array := by
    intro array
    induction rest with
    | nil => rfl
    | cons call rest ih =>
        have first := leaves call List.mem_cons_self
        have others := ih fun other member => leaves other (List.mem_cons_of_mem call member)
        rcases call with ⟨op, result⟩
        cases op with
        | malloc size => cases first
        | store other index value => cases first
        | sleep seconds => exact others
        | storeVforkGlobal value => exact others
        | execve path => exact others
  induction calls generalizing array with
  | nil => exact idle array
  | cons call calls ih =>
      rcases call with ⟨op, result⟩
      cases op <;> exact ih _

/-- The new program receives the vector that `execve1Run` describes. -/
theorem program_builds_vector {test : ExecTest} {path : Arg} {args : List Arg}
    {calls : List ExecCall} {value : Option String} (allocated : Nat → Option Arg)
    (performs : (test.program ⟨some path, args, args.length⟩).Performs calls value) :
    ∃ argv, execve1Run allocated (some ⟨some path, args, args.length⟩) =
      .execve path (arrayAfter argv calls allocated) := by
  rcases performs_program test path args performs with ⟨argv, rest, rfl, leaves⟩
  have built : arrayAfter argv (vectorCalls argv path args) allocated =
      copyArgs 0 args (Function.update allocated 0 (some path)) := by
    change arrayAfter argv (storesFrom argv 1 (args.map some))
      (if argv = argv then Function.update allocated 0 (some path) else allocated) = _
    rw [if_pos rfl, arrayAfter_storesFrom]
  refine ⟨argv, ?_⟩
  rw [arrayAfter_of_onArray leaves, built, execve1Run, List.take_length]

/-! ## The bound -/

theorem insideAllocation_vectorCalls_iff {argv : Nat} {path : Arg} {args : List Arg}
    {rest : List ExecCall} (isInt : args.length < 2 ^ 31)
    (leaves : ∀ call ∈ rest, call.op.onArray = false) :
    InsideAllocation (vectorCalls argv path args ++ rest) ↔ 8 ≤ args.length := by
  have requested : mallocSize args.length = args.length * 10 := by
    rw [mallocSize, sizeofPointer]
    omega
  constructor
  · -- The terminating NULL is the last element.
    intro inside
    have last : (⟨.store argv (args.length + 1) none, ()⟩ : ExecCall) ∈
        vectorCalls argv path args ++ rest := by
      refine List.mem_append_left _ (List.mem_cons_of_mem _ (mem_storesFrom_iff.mpr ?_))
      exact ⟨args.length + 1, by simp, by simp⟩
    have bound := inside _ argv _ none (List.mem_append_left _ List.mem_cons_self) last
    rw [requested, sizeofPointer] at bound
    omega
  · intro long size other index value allocated stored
    have isSize : size = mallocSize args.length := by
      rcases List.mem_append.mp allocated with member | member
      · rcases List.mem_cons.mp member with same | store
        · cases same
          rfl
        · rcases mem_storesFrom_iff.mp store with ⟨k, -, same⟩
          cases same
      · cases leaves _ member
    have isElement : index ≤ args.length + 1 := by
      rcases List.mem_append.mp stored with member | member
      · rcases List.mem_cons.mp member with same | store
        · cases same
        · rcases mem_storesFrom_iff.mp store with ⟨k, bound, same⟩
          cases same
          simpa using bound
      · cases leaves _ member
    rw [isSize, requested, sizeofPointer]
    omega

/-- The stores stay inside the allocation exactly for eight arguments or more: ten bytes
are requested for an argument, and the path and the NULL need an element each. -/
theorem vector_inside_iff (test : ExecTest) (path : Arg) (args : List Arg)
    (isInt : args.length < 2 ^ 31) :
    (∀ calls value, (test.program ⟨some path, args, args.length⟩).Performs calls value →
      InsideAllocation calls) ↔ 8 ≤ args.length := by
  constructor
  · intro inside
    have answers : ∀ op, Nonempty (ExecRes op) := by
      intro op
      cases op <;> exact ⟨default⟩
    rcases Code.exists_performs answers (test.program ⟨some path, args, args.length⟩) with
      ⟨calls, value, performs⟩
    rcases performs_program test path args performs with ⟨argv, rest, rfl, leaves⟩
    exact (insideAllocation_vectorCalls_iff isInt leaves).mp (inside _ _ performs)
  · intro long calls value performs
    rcases performs_program test path args performs with ⟨argv, rest, rfl, leaves⟩
    exact (insideAllocation_vectorCalls_iff isInt leaves).mpr long

/-- Eight arguments fit. -/
theorem vector_inside_iff_eight :
    (∀ calls value, (ExecTest.execve1.program ⟨some ['a'], List.replicate 8 ['b'], 8⟩).Performs
      calls value → InsideAllocation calls) ↔ 8 ≤ 8 :=
  vector_inside_iff .execve1 ['a'] (List.replicate 8 ['b']) (by decide)

/-- Without arguments nothing is requested, and two elements are written. -/
theorem empty_vector_overruns :
    ¬∀ calls value, (ExecTest.execve1.program ⟨some ['a'], [], 0⟩).Performs calls value →
      InsideAllocation calls := by
  intro inside
  have performs : (ExecTest.execve1.program ⟨some ['a'], [], 0⟩).Performs
      [⟨.malloc 0, 4096⟩, ⟨.store 4096 0 (some ['a']), ()⟩, ⟨.store 4096 1 none, ()⟩,
        ⟨.execve (some ['a']), -1⟩] (some "Why return from execve() ???") :=
    Code.performs_of_replay (by decide)
  have bound := inside _ _ performs 0 4096 1 none (by simp) (by simp)
  revert bound
  decide

end McKernelTest.Execve
