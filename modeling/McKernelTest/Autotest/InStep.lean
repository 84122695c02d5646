import McKernelTest.Autotest.Generators
import McKernelTest.Text.Strtoll

/-!
# The scripts for Linux and for McKernel

Both generators read a listing in the same way.  They stay in step as long as neither
stops alone, and a listing with distinct sections leads to distinct scripts unless it
has test cases before its first header and others under a header `#`.
-/

namespace McKernelTest.Autotest

open Text

/-! ## Names of scripts -/

section Numbered

theorem numeralValue_padZero (width number : Nat) :
    numeralValue 10 (padZero width (decimal number)) = number := by
  have zeros : ∀ count, numeralValue 10 (List.replicate count '0') = 0 := by
    intro count
    induction count with
    | zero => rfl
    | succ count ih =>
        rw [List.replicate_succ', numeralValue, List.foldl_append, ← numeralValue, ih]
        rfl
  have value := numeralValue_toDigits 10 (by decide) (by decide) number
  rw [padZero, numeralValue, List.foldl_append, ← numeralValue, zeros]
  exact value

theorem period_notMem_padZero (width number : Nat) : '.' ∉ padZero width (decimal number) := by
  rw [padZero, List.mem_append]
  rintro (inZeros | inDigits)
  · exact absurd (List.eq_of_mem_replicate inZeros) (by decide)
  · exact absurd (decimal_plain inDigits).2.2 (by decide)

/-- The last period of a name separates the section from the index. -/
theorem numbered_inj {testname other : Name} {count index : Nat}
    (same : numbered testname count = numbered other index) :
    testname = other ∧ count = index := by
  have parts := congrArg (List.splitOn '.') same
  rw [numbered, numbered, List.splitOn_append_cons_self, List.splitOn_append_cons_self,
    List.splitOn_eq_singleton (period_notMem_padZero 3 count),
    List.splitOn_eq_singleton (period_notMem_padZero 3 index)] at parts
  have sameIndex : padZero 3 (decimal count) = padZero 3 (decimal index) := by
    simpa using (List.append_inj' parts rfl).2
  rw [numbered, numbered, sameIndex] at same
  refine ⟨List.append_cancel_right same, ?_⟩
  rw [← numeralValue_padZero 3 count, sameIndex, numeralValue_padZero]

end Numbered

/-! ## In step -/

/-- The value of `$DATADIR`. -/
def Environment.datadir (env : Environment) : List Char :=
  env.autotestHome ++ "/data".toList

/-- A file name behind `$DATADIR`, for a value of the variable. -/
def expandDatadir (datadir path : List Char) : List Char :=
  if "$DATADIR".toList.isPrefixOf path then datadir ++ path.drop "$DATADIR".length else path

/-- What both generators have to agree on for a test case. -/
structure Emission where
  testname : Name
  count : Nat
  command : Line
  background : Bool
  hooks : Bool
  deriving DecidableEq

def LinuxScript.emission (script : LinuxScript) : Emission :=
  ⟨script.testname, script.testno, script.command, script.background, script.hooks.isSome⟩

def AutotestScript.emission (script : AutotestScript) : Emission :=
  ⟨script.testname, script.testno, script.command, script.background, script.hooks.isSome⟩

/-- The output of a script for Linux is the file that a script for McKernel has as its
reference. -/
def Refers (env : Environment) (linux : LinuxScript) (autotest : AutotestScript) : Prop :=
  expandDatadir env.datadir autotest.outputfileHost = linux.outputfile ∧
    ∀ reference, autotest.check = .default reference →
      expandDatadir env.datadir reference = linux.outputfile

/-- The generators write the same test cases in the same order, refer to the same files,
and give different test cases different scripts. -/
structure InStep (env : Environment) (listing : List Line) : Prop where
  same : ((extestcase env).scripts listing).map LinuxScript.emission =
    ((extestcaseAutotest env).scripts listing).map AutotestScript.emission
  reference : List.Forall₂ (Refers env) ((extestcase env).scripts listing)
    ((extestcaseAutotest env).scripts listing)
  distinct : (headerNames listing).Nodup →
    (((extestcase env).scripts listing).map LinuxScript.testscript).Nodup ∧
      (((extestcaseAutotest env).scripts listing).map AutotestScript.testscript).Nodup

/-- Neither generator stops at the test case. -/
def bothPass (env : Environment) (testCase : Case) : Bool :=
  (extestcase env).passes testCase && (extestcaseAutotest env).passes testCase

/-- The first test case that stops one of the generators stops both. -/
def StopTogether (env : Environment) (listing : List Line) : Prop :=
  ∀ first rest, (casesOf listing).dropWhile (bothPass env) = first :: rest →
    (extestcase env).passes first = false ∧ (extestcaseAutotest env).passes first = false

/-- There are not both test cases before the first header and under a header `#`, among
those that are written. -/
def NoHashClash (env : Environment) (listing : List Line) : Prop :=
  ∀ bare ∈ (casesOf listing).takeWhile (bothPass env),
    ∀ headed ∈ (casesOf listing).takeWhile (bothPass env),
      bare.initialized = false → headed.initialized = true → headed.testname ≠ ['#']

section Agreement

variable (env : Environment) {listing : List Line}

/-- What both generators make of a test case. -/
def Case.emission (testCase : Case) : Emission :=
  ⟨testCase.testname, testCase.count, testCase.command,
    Extestcase.background testCase.testname testCase.count,
    listed Extestcase.existScript testCase.testname⟩

theorem hooks_isSome (before after : List Char) (state : State) :
    (hooks before after state).isSome = state.existScript := by
  unfold hooks
  cases state.existScript <;> rfl

theorem linux_emission (testCase : Case) :
    ((extestcase env).scriptOf testCase).emission = testCase.emission := by
  simp only [LinuxScript.emission, Generator.scriptOf, extestcase, Paths.write, hooks_isSome]
  rfl

theorem autotest_emission (testCase : Case) :
    ((extestcaseAutotest env).scriptOf testCase).emission = testCase.emission := by
  simp only [AutotestScript.emission, Generator.scriptOf, extestcaseAutotest,
    ExtestcaseAutotest.write, hooks_isSome]
  rfl

theorem expandDatadir_append (datadir rest : List Char) :
    expandDatadir datadir ("$DATADIR".toList ++ rest) = datadir ++ rest := by
  have isPrefix : "$DATADIR".toList.isPrefixOf ("$DATADIR".toList ++ rest) = true := by
    rw [List.isPrefixOf_iff_prefix]
    exact List.prefix_append _ _
  rw [expandDatadir, if_pos isPrefix]
  exact congrArg (datadir ++ ·) List.drop_left

theorem expand_outputfileHost (testname : Name) (count : Nat) :
    expandDatadir env.datadir (ExtestcaseAutotest.outputfileHost testname count) =
      (Extestcase.paths env).outputfile testname count := by
  have directories : "/data".toList ++ "/linux/ostest-".toList =
      "/data/linux".toList ++ "/ostest-".toList := by decide
  unfold ExtestcaseAutotest.outputfileHost Extestcase.paths Environment.datadir
  simp only [List.append_assoc, expandDatadir_append]
  rw [← List.append_assoc "/data".toList, directories, List.append_assoc]

/-- The scripts of a test case refer to the same file. -/
theorem refers_scriptOf (testCase : Case) :
    Refers env ((extestcase env).scriptOf testCase)
      ((extestcaseAutotest env).scriptOf testCase) := by
  have expanded := expand_outputfileHost env testCase.testname testCase.count
  refine ⟨expanded, ?_⟩
  intro reference isDefault
  have isReference : reference =
      ExtestcaseAutotest.outputfileHost testCase.testname testCase.count := by
    change ExtestcaseAutotest.check testCase.testname testCase.count = .default reference
      at isDefault
    unfold ExtestcaseAutotest.check at isDefault
    split at isDefault
    · cases isDefault
    · split at isDefault
      · cases isDefault
      · cases isDefault
        rfl
  rw [isReference]
  exact expanded

/-- The generators write the same test cases exactly if they stop together. -/
theorem same_iff_stopTogether :
    ((extestcase env).scripts listing).map LinuxScript.emission =
        ((extestcaseAutotest env).scripts listing).map AutotestScript.emission ↔
      StopTogether env listing := by
  have prefixes : StopTogether env listing ↔
      (casesOf listing).takeWhile (extestcase env).passes =
        (casesOf listing).takeWhile (extestcaseAutotest env).passes :=
    takeWhile_eq_iff.symm
  have linux : LinuxScript.emission ∘ (extestcase env).scriptOf = Case.emission :=
    funext (linux_emission env)
  have autotest : AutotestScript.emission ∘ (extestcaseAutotest env).scriptOf = Case.emission :=
    funext (autotest_emission env)
  rw [prefixes, linux_scripts, autotest_scripts, List.map_map, List.map_map, linux, autotest]
  constructor
  · intro same
    apply takeWhile_eq_of_length
    simpa using congrArg List.length same
  · intro same
    rw [same]

end Agreement

/-! ## Distinct scripts -/

section Distinct

variable {env : Environment} {listing : List Line} {testCase other : Case}

theorem linux_testscript_eq_iff :
    ((extestcase env).scriptOf testCase).testscript = ((extestcase env).scriptOf other).testscript ↔
      testCase.testname = other.testname ∧ testCase.count = other.count := by
  change (Extestcase.paths env).testscript testCase.testname testCase.count =
    (Extestcase.paths env).testscript other.testname other.count ↔ _
  constructor
  · intro same
    have names := List.append_cancel_left same
    exact numbered_inj (List.cons.inj names).2
  · rintro ⟨sameName, sameCount⟩
    rw [sameName, sameCount]

theorem autotest_testscript_eq_iff :
    ((extestcaseAutotest env).scriptOf testCase).testscript =
        ((extestcaseAutotest env).scriptOf other).testscript ↔
      testCase.testname = other.testname ∧ testCase.count = other.count := by
  change ExtestcaseAutotest.testscript env testCase.testname testCase.count =
    ExtestcaseAutotest.testscript env other.testname other.count ↔ _
  constructor
  · intro same
    exact numbered_inj (List.append_cancel_left same)
  · rintro ⟨sameName, sameCount⟩
    rw [sameName, sameCount]

/-- Test cases before the first header have the name `#`. -/
theorem testname_of_bare (member : testCase ∈ casesOf listing)
    (bare : testCase.initialized = false) : testCase.testname = ['#'] := by
  rcases mem_casesFrom member with ⟨-, isName, -⟩ | ⟨isInitialized, -⟩
  · exact isName
  · rw [bare] at isInitialized
    cases isInitialized

/-- File names that show the section and the index are distinct unless sections clash. -/
theorem nodup_testscripts_iff {path : Case → List Char} (distinct : (headerNames listing).Nodup)
    (isPath : ∀ testCase other, path testCase = path other ↔
      testCase.testname = other.testname ∧ testCase.count = other.count) :
    (((casesOf listing).takeWhile (bothPass env)).map path).Nodup ↔ NoHashClash env listing := by
  have written := (List.takeWhile_prefix (bothPass env) (l := casesOf listing)).sublist
  constructor
  · intro nodup bare isBare headed isHeaded notInitialized initialized isHash
    obtain ⟨first, reached, sameFlag, sameName, zero⟩ := exists_first (bothPass env) isBare
    obtain ⟨second, found, otherFlag, otherName, otherZero⟩ := exists_first (bothPass env) isHeaded
    have bareName := testname_of_bare (written.subset isBare) notInitialized
    have same : path first = path second := by
      rw [isPath, sameName, otherName, bareName, isHash, zero, otherZero]
      exact ⟨rfl, rfl⟩
    have equal := List.inj_on_of_nodup_map nodup reached found same
    rw [equal, otherFlag, initialized, notInitialized] at sameFlag
    cases sameFlag
  · intro noClash
    have keys := (nodup_keys_casesOf distinct).sublist (written.map Case.key)
    refine List.Nodup.map_on ?_ keys.of_map
    intro first reached second found same
    obtain ⟨sameName, sameCount⟩ := (isPath first second).mp same
    apply List.inj_on_of_nodup_map keys reached found
    have sameFlag : first.initialized = second.initialized := by
      cases isFirst : first.initialized <;> cases isSecond : second.initialized
      · rfl
      · have bareName := testname_of_bare (written.subset reached) isFirst
        exact absurd (sameName ▸ bareName) (noClash first reached second found isFirst isSecond)
      · have bareName := testname_of_bare (written.subset found) isSecond
        exact absurd (sameName ▸ bareName) (noClash second found first reached isSecond isFirst)
      · rfl
    rw [Case.key, Case.key, sameFlag, sameName, sameCount]

end Distinct

/-- The generators stay in step exactly if the first test case that stops one of them
stops both, and distinct sections do not clash with the test cases before them. -/
theorem inStep_iff (env : Environment) (listing : List Line) :
    InStep env listing ↔
      StopTogether env listing ∧ ((headerNames listing).Nodup → NoHashClash env listing) := by
  constructor
  · intro inStep
    have together := (same_iff_stopTogether env).mp inStep.same
    refine ⟨together, fun distinct => ?_⟩
    have prefixes := takeWhile_and_of_eq (takeWhile_eq_iff.mpr together)
    have nodup := (inStep.distinct distinct).1
    rw [linux_scripts, List.map_map, ← prefixes] at nodup
    exact (nodup_testscripts_iff distinct fun _ _ => linux_testscript_eq_iff).mp nodup
  · rintro ⟨together, noClash⟩
    have same := takeWhile_eq_iff.mpr together
    have prefixes := takeWhile_and_of_eq same
    refine ⟨(same_iff_stopTogether env).mpr together, ?_, fun distinct => ?_⟩
    · rw [linux_scripts, autotest_scripts, ← same, List.forall₂_map_left_iff,
        List.forall₂_map_right_iff, List.forall₂_same]
      exact fun testCase _ => refers_scriptOf env testCase
    · have noClash := noClash distinct
      rw [linux_scripts, autotest_scripts, List.map_map, List.map_map, ← same, ← prefixes]
      exact ⟨(nodup_testscripts_iff distinct fun _ _ => linux_testscript_eq_iff).mpr noClash,
        (nodup_testscripts_iff distinct fun _ _ => autotest_testscript_eq_iff).mpr noClash⟩

/-- Names without `%` stop neither generator. -/
theorem stopTogether_of_plain {env : Environment} {listing : List Line}
    (creates : ∀ path, env.creates path = true) (home : '%' ∉ env.autotestHome)
    (plain : ∀ name ∈ headerNames listing, '%' ∉ name) : StopTogether env listing := by
  have bothGo : ∀ testCase ∈ casesOf listing, bothPass env testCase = true := by
    intro testCase member
    have linux := extestcase_passes creates home (percent_notMem_testname plain member)
    rw [bothPass, linux, extestcaseAutotest_passes creates]
    rfl
  intro first rest stopped
  rw [List.dropWhile_eq_nil_iff.mpr bothGo] at stopped
  cases stopped

/-- A conversion in the name of a section stops only the generator for Linux, and a
header `#` reuses the scripts of the test cases before it. -/
theorem generators_out_of_step :
    ¬InStep plainEnvironment ["## a%s ##".toList, "x".toList] ∧
      ¬InStep plainEnvironment ["x".toList, "## # ##".toList, "y".toList] := by
  constructor
  · intro inStep
    have lengths := congrArg List.length inStep.same
    rw [List.length_map, List.length_map] at lengths
    have differ : ((extestcase plainEnvironment).scripts
        ["## a%s ##".toList, "x".toList]).length ≠
        ((extestcaseAutotest plainEnvironment).scripts
          ["## a%s ##".toList, "x".toList]).length := by
      decide +kernel
    exact differ lengths
  · intro inStep
    have distinct : (headerNames ["x".toList, "## # ##".toList, "y".toList]).Nodup := by
      decide +kernel
    have clash : ¬(((extestcase plainEnvironment).scripts
        ["x".toList, "## # ##".toList, "y".toList]).map LinuxScript.testscript).Nodup := by
      decide +kernel
    exact clash (inStep.distinct distinct).1

end McKernelTest.Autotest
