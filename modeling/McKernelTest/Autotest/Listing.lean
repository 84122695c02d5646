import McKernelTest.Text.Shell
import Mathlib.Data.List.TakeWhile
import Mathlib.Data.List.Nodup

/-!
# Listings of test cases

The awk scripts that generate test scripts read a listing line by line.  A line that
begins with `##` names the section of the test cases behind it; every other line is
the command of a test case.  They are all of one form and differ in the sections they
know, in the scripts they write and in what makes them stop.
-/

namespace McKernelTest.Autotest

open Text

/-! ## Prefixes -/

section Prefixes

variable {α : Type} {p q : α → Bool} {list : List α}

/-- Two conditions cut a list at the same place if the first element that violates one
of them violates both. -/
theorem takeWhile_eq_iff :
    list.takeWhile p = list.takeWhile q ↔
      ∀ first rest, list.dropWhile (fun element => p element && q element) = first :: rest →
        p first = false ∧ q first = false := by
  induction list with
  | nil => simp
  | cons element list ih =>
      cases left : p element with
      | true =>
          cases right : q element with
          | true => simpa [left, right] using ih
          | false => simp [left, right]
      | false =>
          cases right : q element with
          | true => simp [left, right]
          | false => simp [left, right]

theorem takeWhile_and_of_eq (same : list.takeWhile p = list.takeWhile q) :
    list.takeWhile (fun element => p element && q element) = list.takeWhile p := by
  have both := List.takeWhile_takeWhile p q list
  rw [← same, List.takeWhile_idem] at both
  simpa using both.symm

/-- Prefixes of one list can be told apart by their lengths. -/
theorem takeWhile_eq_of_length
    (same : (list.takeWhile p).length = (list.takeWhile q).length) :
    list.takeWhile p = list.takeWhile q := by
  have isPrefix := List.prefix_of_prefix_length_le (List.takeWhile_prefix p)
    (List.takeWhile_prefix q) same.le
  exact isPrefix.eq_of_length same

end Prefixes

/-! ## Lines -/

abbrev Line := List Char

abbrev Name := List Char

/-- The pattern `/^##/`. -/
def isHeader (line : Line) : Bool :=
  ['#', '#'].isPrefixOf line

/-- The field `$2` of a header. -/
def sectionName (line : Line) : Name :=
  ((words line)[1]?).getD []

/-- The names of all sections of a listing. -/
def headerNames (listing : List Line) : List Name :=
  (listing.filter isHeader).map sectionName

/-- A section is one of those that a script names. -/
def listed (names : List Name) (testname : Name) : Bool :=
  testname ∈ names

theorem listed_eq_true_iff {names : List Name} {testname : Name} :
    listed names testname = true ↔ testname ∈ names :=
  decide_eq_true_iff

theorem listed_eq_false_iff {names : List Name} {testname : Name} :
    listed names testname = false ↔ testname ∉ names :=
  decide_eq_false_iff_not

/-! ## Generators -/

/-- The variables that a generator keeps from line to line. -/
structure State where
  testname : Name
  count : Nat
  existScript : Bool
  flagSkip : Bool

/-- The variables before the first line. -/
def State.initial : State :=
  ⟨['#'], 0, false, false⟩

/-- A generator: the sections with scripts of their own, the sections that are skipped,
the lines at which awk stops, and the scripts that are written for the others. -/
structure Generator (Script : Type) where
  scripted : List Name
  skipped : List Name
  stops : State → Line → Bool
  write : State → Line → Script

namespace Generator

variable {Script : Type}

/-- The rule for a header. -/
def header (generator : Generator Script) (line : Line) : State :=
  let testname := sectionName line
  ⟨testname, 0, listed generator.scripted testname, listed generator.skipped testname⟩

/-- The scripts that are written for a listing. -/
def run (generator : Generator Script) : State → List Line → List Script
  | _, [] => []
  | state, line :: rest =>
      if isHeader line then generator.run (generator.header line) rest
      else if state.flagSkip then generator.run state rest
      else if generator.stops state line then []
      else generator.write state line ::
        generator.run { state with count := state.count + 1 } rest

/-- The scripts that are written for a whole listing. -/
def scripts (generator : Generator Script) (listing : List Line) : List Script :=
  generator.run State.initial listing

end Generator

/-! ## Test cases -/

/-- A test case of a listing, and whether it stands under a header at all. -/
structure Case where
  initialized : Bool
  testname : Name
  count : Nat
  command : Line
  deriving DecidableEq

/-- The test cases of a listing, from a line in the middle of a section on. -/
def casesFrom (initialized : Bool) (testname : Name) (count : Nat) : List Line → List Case
  | [] => []
  | line :: rest =>
      if isHeader line then casesFrom true (sectionName line) 0 rest
      else ⟨initialized, testname, count, line⟩ :: casesFrom initialized testname (count + 1) rest

/-- The test cases of a listing. -/
def casesOf (listing : List Line) : List Case :=
  casesFrom false ['#'] 0 listing

namespace Generator

variable {Script : Type} (generator : Generator Script)

/-- The variables at a test case that is not skipped. -/
def stateAt (testCase : Case) : State :=
  ⟨testCase.testname, testCase.count, listed generator.scripted testCase.testname, false⟩

/-- The test case belongs to a section that is skipped. -/
def skips (testCase : Case) : Bool :=
  listed generator.skipped testCase.testname

/-- The generator goes on at the test case. -/
def passes (testCase : Case) : Bool :=
  !generator.stops (generator.stateAt testCase) testCase.command

/-- The script for a test case. -/
def scriptOf (testCase : Case) : Script :=
  generator.write (generator.stateAt testCase) testCase.command

/-- Both flags follow from the name of the section, and nothing counts the test cases
that are skipped. -/
theorem run_eq (initialized : Bool) (testname : Name) (current count : Nat) (listing : List Line)
    (counted : testname ∉ generator.skipped → current = count) :
    generator.run
        ⟨testname, current, listed generator.scripted testname, listed generator.skipped testname⟩
        listing =
      (((casesFrom initialized testname count listing).filter
        (fun testCase => !generator.skips testCase)).takeWhile generator.passes).map
          generator.scriptOf := by
  induction listing generalizing testname current count initialized with
  | nil => rfl
  | cons line rest ih =>
      rw [run, casesFrom]
      by_cases isNew : isHeader line = true
      · rw [if_pos isNew, if_pos isNew]
        exact ih true (sectionName line) 0 0 fun _ => rfl
      · rw [if_neg isNew, if_neg isNew]
        by_cases skip : testname ∈ generator.skipped
        · have flag := listed_eq_true_iff.mpr skip
          rw [if_pos flag, List.filter_cons_of_neg (by simp [skips, flag])]
          exact ih initialized testname _ _ fun unskipped => absurd skip unskipped
        · have same := counted skip
          subst same
          have flag := listed_eq_false_iff.mpr skip
          have following := ih initialized testname (current + 1) (current + 1) fun _ => rfl
          rw [flag] at following ⊢
          rw [if_neg Bool.false_ne_true, List.filter_cons_of_pos (by simp [skips, flag]),
            List.takeWhile_cons]
          cases stop : generator.stops
              ⟨testname, current, listed generator.scripted testname, false⟩ line with
          | true => simp [passes, stateAt, stop]
          | false => simp [passes, stateAt, stop, following, scriptOf]

/-- The scripts of a generator that does not know a section `#`. -/
theorem scripts_eq (listing : List Line) (unscripted : ['#'] ∉ generator.scripted)
    (unskipped : ['#'] ∉ generator.skipped) :
    generator.scripts listing =
      (((casesOf listing).filter (fun testCase => !generator.skips testCase)).takeWhile
        generator.passes).map generator.scriptOf := by
  have started := generator.run_eq false ['#'] 0 0 listing fun _ => rfl
  rw [listed_eq_false_iff.mpr unscripted, listed_eq_false_iff.mpr unskipped] at started
  exact started

end Generator

/-! ## Numbering -/

/-- What tells test cases apart if every section is listed once. -/
def Case.key (testCase : Case) : Bool × Name × Nat :=
  (testCase.initialized, testCase.testname, testCase.count)

section Numbering

variable {initialized : Bool} {testname : Name} {count : Nat} {listing : List Line}
  {testCase : Case}

theorem headerNames_cons_of_isHeader {line : Line} (isNew : isHeader line = true) :
    headerNames (line :: listing) = sectionName line :: headerNames listing := by
  rw [headerNames, List.filter_cons_of_pos isNew]
  rfl

theorem headerNames_cons_of_not {line : Line} (isCase : ¬isHeader line = true) :
    headerNames (line :: listing) = headerNames listing := by
  rw [headerNames, List.filter_cons_of_neg isCase]
  rfl

/-- A test case belongs to the current section or to a later one. -/
theorem mem_casesFrom (member : testCase ∈ casesFrom initialized testname count listing) :
    testCase.initialized = initialized ∧ testCase.testname = testname ∧ count ≤ testCase.count ∨
      testCase.initialized = true ∧ testCase.testname ∈ headerNames listing := by
  induction listing generalizing initialized testname count with
  | nil => cases member
  | cons line rest ih =>
      rw [casesFrom] at member
      by_cases isNew : isHeader line = true
      · rw [if_pos isNew] at member
        rw [headerNames_cons_of_isHeader isNew]
        rcases ih member with ⟨isInitialized, isName, -⟩ | ⟨isInitialized, later⟩
        · exact Or.inr ⟨isInitialized, isName ▸ List.mem_cons_self⟩
        · exact Or.inr ⟨isInitialized, List.mem_cons_of_mem _ later⟩
      · rw [if_neg isNew, List.mem_cons] at member
        rw [headerNames_cons_of_not isNew]
        rcases member with rfl | later
        · exact Or.inl ⟨rfl, rfl, Nat.le_refl count⟩
        · rcases ih later with ⟨same, isName, behind⟩ | other
          · exact Or.inl ⟨same, isName, Nat.le_of_succ_le behind⟩
          · exact Or.inr other

/-- Sections that are listed once have test cases with different keys. -/
theorem nodup_keys_casesFrom (distinct : (headerNames listing).Nodup)
    (current : initialized = true → testname ∉ headerNames listing) :
    ((casesFrom initialized testname count listing).map Case.key).Nodup := by
  induction listing generalizing initialized testname count with
  | nil => exact List.nodup_nil
  | cons line rest ih =>
      rw [casesFrom]
      by_cases isNew : isHeader line = true
      · rw [headerNames_cons_of_isHeader isNew, List.nodup_cons] at distinct
        rw [if_pos isNew]
        exact ih distinct.2 fun _ => distinct.1
      · rw [headerNames_cons_of_not isNew] at distinct current
        rw [if_neg isNew, List.map_cons, List.nodup_cons]
        refine ⟨?_, ih distinct current⟩
        intro repeated
        obtain ⟨testCase, later, isKey⟩ := List.mem_map.mp repeated
        simp only [Case.key, Prod.mk.injEq] at isKey
        rcases mem_casesFrom later with ⟨-, -, behind⟩ | ⟨isInitialized, other⟩
        · exact absurd (isKey.2.2 ▸ behind) (Nat.not_succ_le_self count)
        · exact current (isKey.1 ▸ isInitialized) (isKey.2.1 ▸ other)

theorem nodup_keys_casesOf (distinct : (headerNames listing).Nodup) :
    ((casesOf listing).map Case.key).Nodup :=
  nodup_keys_casesFrom distinct (by simp)

/-- A test case is the next one of the current section or follows one of its own. -/
theorem exists_before (passes : Case → Bool) (positive : testCase.count ≠ 0)
    (member : testCase ∈ (casesFrom initialized testname count listing).takeWhile passes) :
    testCase.key = (initialized, testname, count) ∨
      ∃ before ∈ (casesFrom initialized testname count listing).takeWhile passes,
        before.initialized = testCase.initialized ∧ before.testname = testCase.testname ∧
          before.count + 1 = testCase.count := by
  induction listing generalizing initialized testname count with
  | nil => cases member
  | cons line rest ih =>
      rw [casesFrom] at member ⊢
      by_cases isNew : isHeader line = true
      · rw [if_pos isNew] at member ⊢
        rcases ih member with first | found
        · exact absurd (congrArg (fun key => key.2.2) first) positive
        · exact Or.inr found
      · rw [if_neg isNew, List.takeWhile_cons] at member ⊢
        split at member
        · rename_i passed
          rw [if_pos passed]
          rcases List.mem_cons.mp member with rfl | later
          · exact Or.inl rfl
          · refine Or.inr ?_
            rcases ih later with next | ⟨before, found, isBefore⟩
            · simp only [Case.key, Prod.mk.injEq] at next
              exact ⟨_, List.mem_cons_self, next.1.symm, next.2.1.symm, next.2.2.symm⟩
            · exact ⟨before, List.mem_cons_of_mem _ found, isBefore⟩
        · cases member

/-- Every section that is reached is reached at its first test case. -/
theorem exists_first (passes : Case → Bool)
    (member : testCase ∈ (casesOf listing).takeWhile passes) :
    ∃ first ∈ (casesOf listing).takeWhile passes,
      first.initialized = testCase.initialized ∧ first.testname = testCase.testname ∧
        first.count = 0 := by
  induction isCount : testCase.count generalizing testCase with
  | zero => exact ⟨testCase, member, rfl, rfl, isCount⟩
  | succ count ih =>
      have positive : testCase.count ≠ 0 := by simp [isCount]
      rcases exists_before passes positive member with start | ⟨before, found, same, isName, next⟩
      · exact absurd (congrArg (fun key => key.2.2) start) positive
      · obtain ⟨first, reached, isFirst⟩ := ih found (by omega)
        exact ⟨first, reached, same ▸ isName ▸ isFirst⟩

end Numbering

end McKernelTest.Autotest
