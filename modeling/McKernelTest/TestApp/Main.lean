import McKernelTest.Posix.Getopt
import McKernelTest.Text.Numeral

/-!
# The command line of the test program

`main` reads the options `-s` and `-n`, moves the argument vector past them
and past the element `--`, looks the test case up and hands the remaining
vector to its setup function with `optind` back at 1.

`test_case.list` is generated from the source tree when the program is built,
so the table of test cases is a parameter.  Its numbers are file names made of
digits.
-/

namespace McKernelTest.TestApp

open Posix

/-- `struct test_case`, without its functions. -/
structure TestCase where
  testSuite : Arg
  num : Int
  deriving DecidableEq, Repr

/-- The table `test_cases`. -/
structure CaseTable where
  cases : List TestCase
  num_nonneg : ∀ testCase ∈ cases, 0 ≤ testCase.num

/-- `find_test_case`: the first entry with this number and suite. -/
def CaseTable.findTestCase (table : CaseTable) (testSuite : Arg) (num : Int) :
    Option TestCase :=
  table.cases.find? fun testCase => testCase.num = num && testCase.testSuite = testSuite

theorem CaseTable.findTestCase_of_mem (table : CaseTable) {testCase : TestCase}
    (member : testCase ∈ table.cases) :
    table.findTestCase testCase.testSuite testCase.num = some testCase := by
  cases found : table.findTestCase testCase.testSuite testCase.num with
  | none =>
      have differs := List.find?_eq_none.mp found testCase member
      simp at differs
  | some other =>
      have selected := List.find?_some found
      simp only [Bool.and_eq_true, decide_eq_true_eq] at selected
      congr 1
      cases other
      cases testCase
      simp_all

/-- What `main` does after reading its command line.  `dispatch` is the call of
`run_test_case`, with the state in which it leaves `getopt`. -/
inductive MainResult where
  | exitSuccess
  | exitFailure
  | notFound (testSuite : Arg) (num : Int)
  | dispatch (testCase : TestCase) (argc : Nat) (argv : List Arg) (getopt : Getopt)
  deriving DecidableEq, Repr

/-- The variables `main` assigns in its option loop. -/
structure MainOptions where
  ts : Option Arg
  num : Int
  argv : List Arg
  getopt : Getopt

/-- The option loop of `main`.  It is left by `return`, or with the variables
it assigned.  Every turn reads at least one character of the vector. -/
def mainOptions (ordering : ArgOrdering) :
    Nat → MainOptions → Option (MainResult ⊕ MainOptions)
  | 0, _ => none
  | fuel + 1, options =>
      match Getopt.getopt ordering "s:n:h".toList options.argv options.getopt with
      | (.finished, argv, getopt) => some (.inr { options with argv := argv, getopt := getopt })
      | (.option 's', argv, getopt) =>
          mainOptions ordering fuel
            { options with ts := getopt.optarg, argv := argv, getopt := getopt }
      | (.option 'n', argv, getopt) =>
          mainOptions ordering fuel
            { options with
              num := Text.atoi (getopt.optarg.getD [])
              argv := argv
              getopt := getopt }
      | (.option 'h', _, _) => some (.inl .exitSuccess)
      | (_, _, _) => some (.inl .exitFailure)

/-- `main` behind the option loop. -/
def mainDispatch (table : CaseTable) (options : MainOptions) : MainResult :=
  let optind := options.getopt.optind
  let argv := (options.argv.set (optind - 1) (options.argv.headD [])).drop (optind - 1)
  let argc := options.argv.length - (optind - 1)
  let getopt := { options.getopt with optind := 1 }
  match options.ts with
  | none => .exitFailure
  | some ts =>
      if options.num = Text.intMin then
        .exitFailure
      else
        match table.findTestCase ts options.num with
        | none => .notFound ts options.num
        | some testCase => .dispatch testCase argc argv getopt

/-- The number of turns of an option loop that are enough for a vector. -/
def optionFuel (argv : List Arg) : Nat :=
  argv.flatten.length + argv.length + 1

/-- `main` of the test program, called with the vector `argv`. -/
def testMain (ordering : ArgOrdering) (table : CaseTable) (argv : List Arg) : Option MainResult :=
  (mainOptions ordering (optionFuel argv)
    ⟨none, Text.intMin, argv, Getopt.fresh⟩).map fun
    | .inl result => result
    | .inr options => mainDispatch table options

/-! ## Command lines that name a test case -/

/-- The command line `app -s suite -n number -- args`. -/
def directArgv (app suite number : Arg) (args : List Arg) : List Arg :=
  [app, ['-', 's'], suite, ['-', 'n'], number, ['-', '-']] ++ args

theorem optionFuel_directArgv (app suite number : Arg) (args : List Arg) :
    ∃ fuel, optionFuel (directArgv app suite number args) = fuel + 3 := by
  refine ⟨optionFuel (directArgv app suite number args) - 3, ?_⟩
  simp only [optionFuel, directArgv, List.length_append, List.length_cons]
  omega

theorem mainOptions_directArgv (ordering : ArgOrdering) (app suite number : Arg)
    (args : List Arg) (fuel : Nat) :
    ∃ getopt : Getopt, getopt.optind = 6 ∧ getopt.nextchar = [] ∧
      0 < getopt.firstNonopt ∧ 0 < getopt.lastNonopt ∧
      mainOptions ordering (fuel + 3)
          ⟨none, Text.intMin, directArgv app suite number args, Getopt.fresh⟩ =
        some (.inr ⟨some suite, Text.atoi number, directArgv app suite number args, getopt⟩) := by
  have suiteKnown : takesArgument "s:n:h".toList 's' = some true := by decide
  have numberKnown : takesArgument "s:n:h".toList 'n' = some true := by decide
  have suiteFlag : (directArgv app suite number args)[Getopt.fresh.optind]? =
      some ['-', 's'] := rfl
  have suiteNext : (directArgv app suite number args)[Getopt.fresh.optind + 1]? =
      some suite := rfl
  obtain ⟨first, suiteCall, firstIndex, firstArg, firstAt⟩ :=
    Getopt.getopt_option ordering Getopt.fresh_atElement suiteFlag (by decide)
      suiteKnown suiteNext
  have firstIndex : first.optind = 3 := firstIndex
  have numberFlag : (directArgv app suite number args)[first.optind]? = some ['-', 'n'] := by
    rw [firstIndex]
    rfl
  have numberNext : (directArgv app suite number args)[first.optind + 1]? = some number := by
    rw [firstIndex]
    rfl
  obtain ⟨second, numberCall, secondIndex, secondArg, secondAt⟩ :=
    Getopt.getopt_option ordering firstAt numberFlag (by decide) numberKnown numberNext
  rw [firstIndex] at secondIndex
  have dashes : (directArgv app suite number args)[second.optind]? = some ['-', '-'] := by
    rw [secondIndex]
    rfl
  obtain ⟨third, endCall, thirdIndex, thirdNext, thirdFirst, thirdLast⟩ :=
    Getopt.getopt_dashes ordering "s:n:h".toList secondAt dashes
  rw [secondIndex] at thirdIndex
  refine ⟨third, thirdIndex, thirdNext, thirdFirst, thirdLast, ?_⟩
  simp only [mainOptions, suiteCall, firstArg, numberCall, secondArg, endCall,
    Option.getD_some]

/-- `main` on a direct command line looks up the named test case; if there is
one, its setup function gets the program name and the arguments behind `--`,
with the scanner between two elements at index 1. -/
theorem testMain_directArgv (ordering : ArgOrdering) (table : CaseTable)
    (app suite number : Arg) (args : List Arg) {testCase : TestCase}
    (found : table.findTestCase suite (Text.atoi number) = some testCase) :
    ∃ getopt : Getopt, getopt.optind = 1 ∧ getopt.AtElement ∧
      testMain ordering table (directArgv app suite number args) =
        some (.dispatch testCase (args.length + 1) (app :: args) getopt) := by
  obtain ⟨fuel, fuelEq⟩ := optionFuel_directArgv app suite number args
  obtain ⟨getopt, index, between, first, last, parsed⟩ :=
    mainOptions_directArgv ordering app suite number args fuel
  have numNonneg : 0 ≤ testCase.num := table.num_nonneg _ (List.mem_of_find?_eq_some found)
  have numEq : testCase.num = Text.atoi number := by
    have selected := List.find?_some found
    simp only [Bool.and_eq_true, decide_eq_true_eq] at selected
    exact selected.1
  have notMin : Text.atoi number ≠ Text.intMin := by
    rw [← numEq]
    intro minimal
    rw [minimal] at numNonneg
    exact absurd numNonneg (by decide)
  refine ⟨{ getopt with optind := 1 }, rfl, Getopt.restart_atElement between first last, ?_⟩
  rw [testMain, fuelEq, parsed]
  simp [mainDispatch, index, notMin, found, directArgv]

end McKernelTest.TestApp
