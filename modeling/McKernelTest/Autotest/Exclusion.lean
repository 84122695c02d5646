import McKernelTest.Autotest.Generators

/-!
# Skipped sections

`extestcase_ofp.awk` writes the test cases of `extestcase.awk` without those of some
sections, with the same numbers, and `countexclude_ofp.awk` counts the rest.  The counter
writes no scripts and reads the listing to its end, even where the generators stop at a
conversion in the name of a section.
-/

namespace McKernelTest.Autotest

open Text

/-! ## Filtered prefixes -/

/-- Leaving elements out of a prefix, compared with the prefix of what is left.  Nothing
is lost exactly if both end together and nothing behind them is left out. -/
theorem filter_takeWhile_iff {α β : Type} (passes goes skips : α → Bool) (name : α → β)
    (list : List α) :
    (((list.filter (fun element => !skips element)).takeWhile goes).map name =
          ((list.takeWhile passes).filter (fun element => !skips element)).map name ∧
        (list.filter skips).length = ((list.takeWhile passes).filter skips).length) ↔
      ∀ first rest,
        list.dropWhile (fun element => passes element && (skips element || goes element)) =
            first :: rest →
          passes first = false ∧ goes first = false ∧
            ∀ element ∈ first :: rest, skips element = false := by
  induction list with
  | nil => simp
  | cons element list ih =>
      cases skip : skips element with
      | true =>
          cases pass : passes element with
          | true => simpa [skip, pass] using ih
          | false => simp [skip, pass]
      | false =>
          cases pass : passes element with
          | true =>
              cases go : goes element with
              | true => simpa [skip, pass, go] using ih
              | false => simp [skip, pass, go]
          | false =>
              cases go : goes element with
              | true => simp [skip, pass, go]
              | false => simp [skip, pass, go]

/-! ## Counting -/

/-- The script counts the test cases of the sections that it knows. -/
theorem countexcludeOfp_eq (listing : List Line) :
    countexcludeOfp listing =
      ((casesOf listing).filter fun testCase =>
        testCase.testname ∈ CountexcludeOfp.flagSkip).length := by
  have step : ∀ flag initialized testname count exclude,
      (flag = some true ↔ testname ∈ CountexcludeOfp.flagSkip) →
      CountexcludeOfp.run flag exclude listing =
        exclude + ((casesFrom initialized testname count listing).filter fun testCase =>
          testCase.testname ∈ CountexcludeOfp.flagSkip).length := by
    induction listing with
    | nil => intros; rfl
    | cons line rest ih =>
        intro flag initialized testname count exclude isFlag
        rw [CountexcludeOfp.run, casesFrom]
        by_cases isNew : isHeader line = true
        · rw [if_pos isNew, if_pos isNew]
          exact ih _ _ _ _ _ (by simp [listed])
        · rw [if_neg isNew, if_neg isNew]
          by_cases skip : testname ∈ CountexcludeOfp.flagSkip
          · rw [if_pos (isFlag.mpr skip), List.filter_cons_of_pos (by simpa using skip),
              List.length_cons, ih _ initialized testname (count + 1) _ isFlag]
            omega
          · rw [if_neg (fun counted => skip (isFlag.mp counted)),
              List.filter_cons_of_neg (by simpa using skip)]
            exact ih _ _ _ _ _ isFlag
  have start := step none false ['#'] 0 0 (by simp [CountexcludeOfp.flagSkip])
  rwa [Nat.zero_add] at start

/-! ## Exclusion -/

/-- The section and the index of a script. -/
def LinuxScript.caseId (script : LinuxScript) : Name × Nat :=
  (script.testname, script.testno)

/-- The scripts of `extestcase_ofp.awk` are those of `extestcase.awk` without the skipped
sections, and the number of the missing ones is printed. -/
structure ExcludesExactly (env : Environment) (listing : List Line) : Prop where
  emitted : ((extestcaseOfp env).scripts listing).map LinuxScript.caseId =
    (((extestcase env).scripts listing).filter fun script =>
      script.testname ∉ ExtestcaseOfp.flagSkip).map LinuxScript.caseId
  excluded : countexcludeOfp listing =
    (((extestcase env).scripts listing).filter fun script =>
      script.testname ∈ ExtestcaseOfp.flagSkip).length
  total : ((extestcaseOfp env).scripts listing).length + countexcludeOfp listing =
    ((extestcase env).scripts listing).length

/-- Neither generator stops at the test case. -/
def neitherStops (env : Environment) (testCase : Case) : Bool :=
  (extestcase env).passes testCase &&
    ((extestcaseOfp env).skips testCase || (extestcaseOfp env).passes testCase)

/-- The first test case that stops one of the generators stops both, and neither it nor
any later one belongs to a section that is skipped. -/
def StopUnskipped (env : Environment) (listing : List Line) : Prop :=
  ∀ first rest, (casesOf listing).dropWhile (neitherStops env) = first :: rest →
    (extestcase env).passes first = false ∧ (extestcaseOfp env).passes first = false ∧
      ∀ testCase ∈ first :: rest, (extestcaseOfp env).skips testCase = false

section Exclusion

variable (env : Environment) (listing : List Line)

/-- The section and the index of a test case. -/
def Case.ident (testCase : Case) : Name × Nat :=
  (testCase.testname, testCase.count)

theorem ofp_caseIds : ((extestcaseOfp env).scripts listing).map LinuxScript.caseId =
    (((casesOf listing).filter (fun testCase => !(extestcaseOfp env).skips testCase)).takeWhile
      (extestcaseOfp env).passes).map Case.ident := by
  rw [ofp_scripts, List.map_map]
  rfl

/-- What a choice of sections leaves of the scripts for Linux. -/
theorem linux_caseIds (chosen : Name → Bool) :
    (((extestcase env).scripts listing).filter fun script => chosen script.testname).map
        LinuxScript.caseId =
      (((casesOf listing).takeWhile (extestcase env).passes).filter fun testCase =>
        chosen testCase.testname).map Case.ident := by
  rw [linux_scripts, List.filter_map, List.map_map]
  rfl

/-- Both generators and the counter agree exactly if they stop together and not before a
section that is skipped. -/
theorem excludesExactly_iff : ExcludesExactly env listing ↔ StopUnskipped env listing := by
  have kept := linux_caseIds env listing fun testname => testname ∉ ExtestcaseOfp.flagSkip
  have removed := congrArg List.length
    (linux_caseIds env listing fun testname => testname ∈ ExtestcaseOfp.flagSkip)
  rw [List.length_map, List.length_map] at removed
  have keeps : (fun testCase => !(extestcaseOfp env).skips testCase) =
      fun testCase : Case => decide (testCase.testname ∉ ExtestcaseOfp.flagSkip) :=
    funext fun testCase => (decide_not (p := testCase.testname ∈ ExtestcaseOfp.flagSkip)).symm
  have condition : StopUnskipped env listing ↔
      (((extestcaseOfp env).scripts listing).map LinuxScript.caseId =
        (((extestcase env).scripts listing).filter fun script =>
          script.testname ∉ ExtestcaseOfp.flagSkip).map LinuxScript.caseId ∧
      countexcludeOfp listing =
        (((extestcase env).scripts listing).filter fun script =>
          script.testname ∈ ExtestcaseOfp.flagSkip).length) := by
    rw [ofp_caseIds, kept, removed, countexcludeOfp_eq, ← keeps]
    exact (filter_takeWhile_iff (extestcase env).passes (extestcaseOfp env).passes
      (extestcaseOfp env).skips Case.ident (casesOf listing)).symm
  rw [condition]
  constructor
  · intro exactly
    exact ⟨exactly.emitted, exactly.excluded⟩
  · rintro ⟨emitted, excluded⟩
    refine ⟨emitted, excluded, ?_⟩
    have lengths := congrArg List.length emitted
    rw [List.length_map, List.length_map] at lengths
    have parts := List.length_eq_length_filter_add (l := (extestcase env).scripts listing)
      fun script => decide (script.testname ∈ ExtestcaseOfp.flagSkip)
    rw [lengths, excluded, parts, Nat.add_comm]
    simp only [decide_not]

end Exclusion

/-- Names without `%` stop neither generator. -/
theorem stopUnskipped_of_plain {env : Environment} {listing : List Line}
    (creates : ∀ path, env.creates path = true) (home : '%' ∉ env.autotestHome)
    (cwd : '%' ∉ env.cwd) (plain : ∀ name ∈ headerNames listing, '%' ∉ name) :
    StopUnskipped env listing := by
  have bothGo : ∀ testCase ∈ casesOf listing, neitherStops env testCase = true := by
    intro testCase member
    have unmarked := percent_notMem_testname plain member
    rw [neitherStops, extestcase_passes creates home unmarked,
      extestcaseOfp_passes creates cwd unmarked, Bool.or_true]
    rfl
  intro first rest stopped
  rw [List.dropWhile_eq_nil_iff.mpr bothGo] at stopped
  cases stopped

/-- The generators stop at a conversion in the name of a section, the counter does not. -/
theorem skipped_case_not_removed :
    ¬ExcludesExactly plainEnvironment
      ["## a%s ##".toList, "x".toList, "## getuid ##".toList, "y".toList] := by
  intro exactly
  have differ : countexcludeOfp
      ["## a%s ##".toList, "x".toList, "## getuid ##".toList, "y".toList] ≠
      (((extestcase plainEnvironment).scripts
        ["## a%s ##".toList, "x".toList, "## getuid ##".toList, "y".toList]).filter fun script =>
          script.testname ∈ ExtestcaseOfp.flagSkip).length := by
    decide +kernel
  exact differ exactly.excluded

end McKernelTest.Autotest
