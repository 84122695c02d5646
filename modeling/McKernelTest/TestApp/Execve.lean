import McKernelTest.TestApp.Main

/-!
# Running a test case through `execve`

The first test case of the suite `execve` replaces the process by another
program.  It takes the path from its option `-f` and passes on what stands
behind its own `--`, so a whole command line of the test program can be given
to it as arguments.

The vector for the new program is built in an array from `malloc`, here a
function from indices to pointers whose first values are arbitrary.  The
array is taken to be large enough.
-/

namespace McKernelTest.TestApp

open Posix

/-- `struct execve_args`. -/
structure ExecveArgs where
  filePath : Option Arg
  argv : List Arg
  argc : Nat
  deriving DecidableEq, Repr

/-- The option loop of `execve_parse_args`: NULL on an unknown option, else the
path, the vector and the scanner. -/
def execveOptions (ordering : ArgOrdering) :
    Nat → Option Arg → List Arg → Getopt → Option (Option (Option Arg × List Arg × Getopt))
  | 0, _, _, _ => none
  | fuel + 1, filePath, argv, getopt =>
      match Getopt.getopt ordering "f:".toList argv getopt with
      | (.finished, argv, getopt) => some (some (filePath, argv, getopt))
      | (.option 'f', argv, getopt) => execveOptions ordering fuel getopt.optarg argv getopt
      | (_, _, _) => some none

/-- `execve_parse_args`. -/
def execveParseArgs (ordering : ArgOrdering) (argc : Nat) (argv : List Arg) (getopt : Getopt) :
    Option (Option ExecveArgs) :=
  (execveOptions ordering (optionFuel argv) none argv getopt).map
    (Option.map fun (filePath, argv, getopt) =>
      ⟨filePath, argv.drop getopt.optind, argc - getopt.optind⟩)

/-- The copying loop of the test case from index `i` on, and the terminating
NULL behind it. -/
def copyArgs : Nat → List Arg → (Nat → Option Arg) → Nat → Option Arg
  | i, [], array => Function.update array (i + 1) none
  | i, arg :: rest, array => copyArgs (i + 1) rest (Function.update array (i + 1) (some arg))

/-- What the test case does: it returns the text of a failed assertion, or it
calls `execve`. -/
inductive RunResult where
  | message (text : String)
  | execve (path : Arg) (argv : Nat → Option Arg)

/-- The run function of the test case, with the contents `malloc` gave the
array. -/
def execve1Run (allocated : Nat → Option Arg) : Option ExecveArgs → RunResult
  | none => .message "invalid arguement."
  | some args =>
      match args.filePath with
      | none => .message "invalid file path."
      | some filePath =>
          .execve filePath
            (copyArgs 0 (args.argv.take args.argc)
              (Function.update allocated 0 (some filePath)))

/-- A process that runs the test program on a command line: `main` returns or
dispatches some test case, and the dispatched wrapper goes on to its result. -/
inductive Process where
  | main (result : MainResult)
  | wrapper (result : RunResult)

/-- Run the program, with the wrapper followed into its run function. -/
def invoke (ordering : ArgOrdering) (table : CaseTable) (allocated : Nat → Option Arg)
    (argv : List Arg) : Option Process :=
  match testMain ordering table argv with
  | none => none
  | some (.dispatch testCase argc argv getopt) =>
      if testCase = ⟨"execve".toList, 1⟩ then
        (execveParseArgs ordering argc argv getopt).map fun args =>
          .wrapper (execve1Run allocated args)
      else
        some (.main (.dispatch testCase argc argv getopt))
  | some result => some (.main result)

/-- The NULL-terminated vector at `array` consists of `args`: this is what the
new program receives. -/
def IsVector (array : Nat → Option Arg) (args : List Arg) : Prop :=
  ∀ i ≤ args.length, array i = args[i]?

/-! ## The vector the wrapper builds -/

theorem copyArgs_isVector {i : Nat} {before args : List Arg} {array : Nat → Option Arg}
    (filled : before.length = i + 1) (stored : ∀ j ≤ i, array j = before[j]?) :
    IsVector (copyArgs i args array) (before ++ args) := by
  induction args generalizing i before array with
  | nil =>
      intro j bound
      rw [List.append_nil, filled] at bound
      rw [List.append_nil, copyArgs]
      by_cases last : j = i + 1
      · rw [last, Function.update_self, ← filled, List.getElem?_length]
      · rw [Function.update_of_ne last]
        exact stored j (by omega)
  | cons arg rest ih =>
      rw [copyArgs, List.append_cons]
      apply ih
      · simp [filled]
      · intro j bound
        by_cases last : j = i + 1
        · rw [last, Function.update_self, ← filled, List.getElem?_concat_length]
        · rw [Function.update_of_ne last, List.getElem?_append_left (by omega)]
          exact stored j (by omega)

/-- The wrapper's own command line `-f path -- args`, behind the program name. -/
def wrapperArgs (app path : Arg) (args : List Arg) : List Arg :=
  [app, ['-', 'f'], path, ['-', '-']] ++ args

theorem execveParseArgs_wrapperArgs (ordering : ArgOrdering) (app path : Arg) (args : List Arg)
    {getopt : Getopt} (index : getopt.optind = 1) (atElement : getopt.AtElement) :
    execveParseArgs ordering (wrapperArgs app path args).length (wrapperArgs app path args)
      getopt = some (some ⟨some path, args, args.length⟩) := by
  have known : takesArgument "f:".toList 'f' = some true := by decide
  have flag : (wrapperArgs app path args)[getopt.optind]? = some ['-', 'f'] := by
    rw [index]
    rfl
  have next : (wrapperArgs app path args)[getopt.optind + 1]? = some path := by
    rw [index]
    rfl
  obtain ⟨first, pathCall, firstIndex, firstArg, firstAt⟩ :=
    Getopt.getopt_option ordering atElement flag (by decide) known next
  rw [index] at firstIndex
  have dashes : (wrapperArgs app path args)[first.optind]? = some ['-', '-'] := by
    rw [firstIndex]
    rfl
  obtain ⟨second, endCall, secondIndex, -, -, -⟩ :=
    Getopt.getopt_dashes ordering "f:".toList firstAt dashes
  rw [firstIndex] at secondIndex
  obtain ⟨fuel, fuelEq⟩ : ∃ fuel, optionFuel (wrapperArgs app path args) = fuel + 2 := by
    refine ⟨optionFuel (wrapperArgs app path args) - 2, ?_⟩
    simp only [optionFuel, wrapperArgs, List.length_append, List.length_cons]
    omega
  rw [execveParseArgs, fuelEq]
  simp only [execveOptions, pathCall, firstArg, endCall, Option.map_some, secondIndex]
  simp [wrapperArgs]

/-- The complete command line that runs `path` through the wrapper. -/
def wrapperArgv (app path : Arg) (args : List Arg) : List Arg :=
  directArgv app "execve".toList ['1'] (['-', 'f'] :: path :: ['-', '-'] :: args)

theorem invoke_wrapperArgv (ordering : ArgOrdering) (table : CaseTable)
    (allocated : Nat → Option Arg) (app path : Arg) (args : List Arg)
    (present : table.findTestCase "execve".toList 1 = some ⟨"execve".toList, 1⟩) :
    ∃ array, invoke ordering table allocated (wrapperArgv app path args) =
        some (.wrapper (.execve path array)) ∧ IsVector array (path :: args) := by
  obtain ⟨getopt, index, atElement, dispatched⟩ :=
    testMain_directArgv ordering table app "execve".toList ['1']
      (['-', 'f'] :: path :: ['-', '-'] :: args) present
  have parsed := execveParseArgs_wrapperArgs ordering app path args index atElement
  refine ⟨copyArgs 0 args (Function.update allocated 0 (some path)), ?_, ?_⟩
  · rw [invoke, wrapperArgv, dispatched]
    dsimp only
    rw [if_pos rfl]
    have sameLength : (['-', 'f'] :: path :: ['-', '-'] :: args).length + 1 =
        (wrapperArgs app path args).length := by
      simp [wrapperArgs]
    rw [sameLength]
    change (execveParseArgs ordering _ (wrapperArgs app path args) getopt).map _ = _
    rw [parsed]
    simp [execve1Run]
  · have stored : ∀ j ≤ 0, Function.update allocated 0 (some path) j = [path][j]? := by
      intro j bound
      obtain rfl : j = 0 := Nat.le_zero.mp bound
      simp
    exact copyArgs_isVector rfl stored

/-- A terminated array holds one vector only. -/
theorem IsVector.unique {array : Nat → Option Arg} {first second : List Arg}
    (isFirst : IsVector array first) (isSecond : IsVector array second) : first = second := by
  have shorter : ∀ {left right : List Arg}, IsVector array left → IsVector array right →
      left.length ≤ right.length := by
    intro left right isLeft isRight
    by_contra longer
    have bound : right.length < left.length := Nat.lt_of_not_le longer
    have terminated := isRight right.length (Nat.le_refl _)
    rw [isLeft right.length (Nat.le_of_lt bound), List.getElem?_length] at terminated
    exact absurd (List.getElem?_eq_none_iff.mp terminated) (Nat.not_le_of_lt bound)
  have sameLength := Nat.le_antisymm (shorter isFirst isSecond) (shorter isSecond isFirst)
  apply List.ext_getElem?
  intro i
  by_cases inside : i ≤ first.length
  · rw [← isFirst i inside, isSecond i (sameLength ▸ inside)]
  · have beyond : first.length ≤ i := Nat.le_of_not_le inside
    rw [List.getElem?_eq_none_iff.mpr beyond, List.getElem?_eq_none_iff.mpr (sameLength ▸ beyond)]

/-- Running a test case through the wrapper is running it directly.  The
direct command line dispatches the named test case with the program name and
the arguments behind `--`.  The wrapper's command line reaches `execve` with
the path and the path followed by the wrapper's arguments.  Hence the program
started by the wrapper on its own path does what the direct command line does. -/
theorem wrapper_runs_direct_command_line (ordering : ArgOrdering) (table : CaseTable)
    (allocated : Nat → Option Arg) (app : Arg)
    (present : ⟨"execve".toList, 1⟩ ∈ table.cases) :
    (∀ suite number args, ⟨suite, Text.atoi number⟩ ∈ table.cases →
      ∃ getopt : Getopt, getopt.optind = 1 ∧ getopt.AtElement ∧
        testMain ordering table (directArgv app suite number args) =
          some (.dispatch ⟨suite, Text.atoi number⟩ (args.length + 1) (app :: args) getopt)) ∧
    (∀ path args, ∃ array, invoke ordering table allocated (wrapperArgv app path args) =
        some (.wrapper (.execve path array)) ∧ IsVector array (path :: args)) ∧
    (∀ suite number args, ∃ array,
      invoke ordering table allocated
          (wrapperArgv app app ((directArgv app suite number args).tail)) =
        some (.wrapper (.execve app array)) ∧
      ∀ argv, IsVector array argv →
        testMain ordering table argv =
          testMain ordering table (directArgv app suite number args)) := by
  refine ⟨fun suite number args member => ?_, fun path args => ?_, fun suite number args => ?_⟩
  · exact testMain_directArgv ordering table app suite number args
      (table.findTestCase_of_mem member)
  · exact invoke_wrapperArgv ordering table allocated app path args
      (table.findTestCase_of_mem present)
  · obtain ⟨array, reached, vector⟩ := invoke_wrapperArgv ordering table allocated app app
      (directArgv app suite number args).tail (table.findTestCase_of_mem present)
    refine ⟨array, reached, fun argv received => ?_⟩
    rw [received.unique vector]
    rfl

/-- A table with the wrapper and one more test case. -/
theorem wrapper_runs_direct_command_line_fork :
    ∃ array, invoke .permute
          ⟨[⟨"execve".toList, 1⟩, ⟨"fork".toList, 0⟩], by decide⟩ (fun _ => none)
          (wrapperArgv "app".toList "app".toList
            (directArgv "app".toList "fork".toList "0".toList ["x".toList]).tail) =
        some (.wrapper (.execve "app".toList array)) ∧
      ∀ argv, IsVector array argv →
        testMain .permute ⟨[⟨"execve".toList, 1⟩, ⟨"fork".toList, 0⟩], by decide⟩ argv =
          testMain .permute ⟨[⟨"execve".toList, 1⟩, ⟨"fork".toList, 0⟩], by decide⟩
            (directArgv "app".toList "fork".toList "0".toList ["x".toList]) :=
  (wrapper_runs_direct_command_line .permute
    ⟨[⟨"execve".toList, 1⟩, ⟨"fork".toList, 0⟩], by decide⟩ (fun _ => none) "app".toList
    (by decide)).2.2 "fork".toList "0".toList ["x".toList]

end McKernelTest.TestApp
