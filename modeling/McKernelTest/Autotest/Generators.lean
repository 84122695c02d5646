import McKernelTest.Autotest.Listing
import McKernelTest.Text.Awk

/-!
# The generators

`extestcase.awk` writes the scripts that record the output of Linux,
`extestcase_autotest.awk` those that compare McKernel with it, and
`extestcase_ofp.awk` the scripts for a machine on which some sections are skipped;
`countexclude_ofp.awk` counts what the latter skips.

`extestcase.awk` and `extestcase_ofp.awk` print the `cd` command of a script with the
directory as the format, so that awk stops at a section whose name contains a
conversion.
-/

namespace McKernelTest.Autotest

open Text

/-- Where the generators are run, and which script files awk can create. -/
structure Environment where
  cwd : List Char
  autotestHome : List Char
  creates : List Char → Bool

/-- The conversion `%s.%03d` of a section and an index. -/
def numbered (testname : Name) (count : Nat) : List Char :=
  testname ++ '.' :: padZero 3 (decimal count)

/-- The format that holds the command `cd`. -/
def cdFormat (workdir : List Char) : List Char :=
  "cd ".toList ++ workdir ++ ['\n']

/-- The scripts of a section that stand around its commands. -/
def hooks (before after : List Char) (state : State) : Option (List Char × List Char) :=
  if state.existScript then
    some (before ++ state.testname ++ ".sh".toList, after ++ state.testname ++ ".sh".toList)
  else
    none

/-! ## `extestcase.awk` -/

/-- A script of `extestcase.awk` or `extestcase_ofp.awk`. -/
structure LinuxScript where
  testscript : List Char
  testcase : List Char
  testno : Nat
  testname : Name
  cd : List Char
  hooks : Option (List Char × List Char)
  command : Line
  outputfile : List Char
  background : Bool
  deriving DecidableEq

/-- The files and the directory that belong to a case. -/
structure Paths where
  testscript : Name → Nat → List Char
  outputfile : Name → Nat → List Char
  workdir2 : Name → Nat → List Char

namespace Paths

/-- Awk stops at a file that it cannot create and at a conversion in the format. -/
def stops (paths : Paths) (env : Environment) (state : State) : Bool :=
  !env.creates (paths.testscript state.testname state.count) ||
    (Awk.printf (cdFormat (paths.workdir2 state.testname state.count))).isNone

/-- The script for a case. -/
def write (paths : Paths) (background : Name → Nat → Bool) (state : State) (line : Line) :
    LinuxScript where
  testscript := paths.testscript state.testname state.count
  testcase := numbered state.testname state.count
  testno := state.count
  testname := state.testname
  cd := (Awk.printf (cdFormat (paths.workdir2 state.testname state.count))).getD []
  hooks := hooks "before_".toList "after_".toList state
  command := line
  outputfile := paths.outputfile state.testname state.count
  background := background state.testname state.count

end Paths

namespace Extestcase

/-- The sections for which `existScript` is set. -/
def existScript : List Name :=
  ["siginfo".toList, "mem_stack_limits".toList, "mmap_populate".toList, "mmap_file".toList,
    "sched_getaffinity".toList, "mmap_locked".toList, "madvise".toList, "wait4".toList,
    "lv07".toList, "lv09".toList, "lv11".toList, "lv15".toList, "readlinkat".toList,
    "force_exit".toList, "mem_limits".toList]

/-- The variables `testscript`, `outputfile` and `workdir2`. -/
def paths (env : Environment) : Paths where
  testscript testname count :=
    env.cwd ++ "/testcase_linux".toList ++ '/' :: numbered testname count
  outputfile testname count :=
    env.autotestHome ++ "/data/linux".toList ++ "/ostest-".toList ++ numbered testname count ++
      ".output".toList
  workdir2 testname count :=
    env.autotestHome ++ "/data/linux".toList ++ "/ostest-".toList ++ numbered testname count

/-- The command of a case is run in the background. -/
def background (testname : Name) (count : Nat) : Bool :=
  testname = "siginfo".toList && count = 1 || testname = "force_exit".toList && count = 0

end Extestcase

/-- `extestcase.awk`. -/
def extestcase (env : Environment) : Generator LinuxScript where
  scripted := Extestcase.existScript
  skipped := []
  stops state _ := (Extestcase.paths env).stops env state
  write := (Extestcase.paths env).write Extestcase.background

/-! ## `extestcase_autotest.awk` -/

/-- The check at the end of a script.  The default check reads the output of Linux. -/
inductive Check where
  | pageFault
  | getrusage (file : List Char)
  | default (reference : List Char)
  deriving DecidableEq

/-- A script for McKernel.  Files below `$WORKDIR` and `$DATADIR` are named as in the
script. -/
structure AutotestScript where
  testscript : List Char
  testcase : List Char
  testno : Nat
  testname : Name
  outputfile : List Char
  workdir : List Char
  outputfileHost : List Char
  workdirHost : List Char
  hooks : Option (List Char × List Char)
  command : Line
  background : Bool
  check : Check
  entry : List Char
  deriving DecidableEq

namespace ExtestcaseAutotest

/-- The sections for which `existScript` is set. -/
def existScript : List Name :=
  ["siginfo".toList, "mem_stack_limits".toList, "mmap_populate".toList, "mmap_file".toList,
    "sched_getaffinity".toList, "mmap_locked".toList, "madvise".toList, "wait4".toList,
    "lv07".toList, "lv09".toList, "lv11".toList, "lv15".toList, "readlinkat".toList,
    "force_exit".toList, "mem_limits".toList]

/-- The file `testscript`. -/
def testscript (env : Environment) (testname : Name) (count : Nat) : List Char :=
  env.autotestHome ++ "/data/script".toList ++ "/ostest-".toList ++ numbered testname count

/-- The file `outputfile_host`. -/
def outputfileHost (testname : Name) (count : Nat) : List Char :=
  "$DATADIR".toList ++ "/linux/ostest-".toList ++ numbered testname count ++ ".output".toList

/-- The command of a case is run in the background. -/
def background (testname : Name) (count : Nat) : Bool :=
  testname = "siginfo".toList && count = 1 || testname = "force_exit".toList && count = 0

/-- The cases that are checked with `check/page_fault.sh`. -/
def pageFaultCases : List (Name × Nat) :=
  [("lv11".toList, 0), ("lv11".toList, 2), ("lv11".toList, 6), ("lv12".toList, 2),
    ("mmap_file".toList, 1), ("mmap_file".toList, 3), ("mmap_file".toList, 5),
    ("mmap_file".toList, 7), ("mmap_file".toList, 12), ("mmap_file".toList, 13),
    ("mmap_file".toList, 14), ("mmap_file".toList, 15), ("mmap_file".toList, 33),
    ("mmap_file".toList, 35), ("mmap_file".toList, 37), ("mmap_file".toList, 39),
    ("mmap_file".toList, 44), ("mmap_file".toList, 45), ("mmap_file".toList, 46),
    ("mmap_file".toList, 47), ("nfo".toList, 3), ("times".toList, 1),
    ("clock_gettime".toList, 0)]

/-- The choice of the check. -/
def check (testname : Name) (count : Nat) : Check :=
  if (testname, count) ∈ pageFaultCases then
    .pageFault
  else if testname = "getrusage".toList ∧ (count = 0 ∨ count = 1 ∨ count = 2) then
    .getrusage ("check/".toList ++ numbered testname count ++ ".sh".toList)
  else
    .default (outputfileHost testname count)

/-- The script for a case. -/
def write (env : Environment) (state : State) (line : Line) : AutotestScript where
  testscript := testscript env state.testname state.count
  testcase := numbered state.testname state.count
  testno := state.count
  testname := state.testname
  outputfile := "$WORKDIR/output/ostest-".toList ++ numbered state.testname state.count ++
    ".output".toList
  workdir := "$WORKDIR/output/ostest-".toList ++ numbered state.testname state.count
  outputfileHost := outputfileHost state.testname state.count
  workdirHost := "$DATADIR/linux/ostest-".toList ++ numbered state.testname state.count
  hooks := hooks "init/".toList "fini/".toList state
  command := line
  background := background state.testname state.count
  check := check state.testname state.count
  entry := "ostest-".toList ++ numbered state.testname state.count

end ExtestcaseAutotest

/-- `extestcase_autotest.awk`. -/
def extestcaseAutotest (env : Environment) : Generator AutotestScript where
  scripted := ExtestcaseAutotest.existScript
  skipped := []
  stops state _ := !env.creates (ExtestcaseAutotest.testscript env state.testname state.count)
  write := ExtestcaseAutotest.write env

/-! ## `extestcase_ofp.awk` -/

namespace ExtestcaseOfp

/-- The sections for which `existScript` is set. -/
def existScript : List Name :=
  ["siginfo".toList, "mem_stack_limits".toList, "mmap_populate".toList, "mmap_file".toList,
    "sched_getaffinity".toList, "mmap_locked".toList, "madvise".toList, "wait4".toList,
    "lv07".toList, "lv09".toList, "lv11".toList, "lv15".toList, "readlinkat".toList,
    "force_exit".toList]

/-- The sections for which `flagSkip` is set. -/
def flagSkip : List Name :=
  ["mmap_dev".toList, "getegid".toList, "geteuid".toList, "getgid".toList, "getresgid".toList,
    "getresuid".toList, "getuid".toList, "setfsgid".toList, "setfsuid".toList, "setgid".toList,
    "setregid".toList, "setresgid".toList, "setresuid".toList, "setreuid".toList,
    "setuid".toList, "force_exit".toList]

/-- The variables `testscript`, `outputfile` and `workdir2`. -/
def paths (env : Environment) : Paths where
  testscript testname count :=
    env.cwd ++ "/testcase_ofp".toList ++ '/' :: numbered testname count
  outputfile testname count :=
    env.cwd ++ "/output_ofp".toList ++ '/' :: numbered testname count
  workdir2 testname count :=
    env.cwd ++ "/work_ofp".toList ++ '/' :: numbered testname count

/-- The command of a case is run in the background. -/
def background (testname : Name) (count : Nat) : Bool :=
  (testname = "siginfo".toList || testname = "force_exit".toList) && count = 1

end ExtestcaseOfp

/-- `extestcase_ofp.awk`. -/
def extestcaseOfp (env : Environment) : Generator LinuxScript where
  scripted := ExtestcaseOfp.existScript
  skipped := ExtestcaseOfp.flagSkip
  stops state _ := (ExtestcaseOfp.paths env).stops env state
  write := (ExtestcaseOfp.paths env).write ExtestcaseOfp.background

/-! ## `countexclude_ofp.awk` -/

namespace CountexcludeOfp

/-- The sections for which `flagSkip` is set. -/
def flagSkip : List Name :=
  ["mmap_dev".toList, "getegid".toList, "geteuid".toList, "getgid".toList, "getresgid".toList,
    "getresuid".toList, "getuid".toList, "setfsgid".toList, "setfsuid".toList, "setgid".toList,
    "setregid".toList, "setresgid".toList, "setresuid".toList, "setreuid".toList,
    "setuid".toList, "force_exit".toList]

/-- The rules of the script; the flag has no value before the first header. -/
def run : Option Bool → Nat → List Line → Nat
  | _, exclude, [] => exclude
  | flag, exclude, line :: rest =>
      if isHeader line then run (some (listed flagSkip (sectionName line))) exclude rest
      else if flag = some true then run flag (exclude + 1) rest
      else run flag exclude rest

end CountexcludeOfp

/-- The number that `countexclude_ofp.awk` prints. -/
def countexcludeOfp (listing : List Line) : Nat :=
  CountexcludeOfp.run none 0 listing

/-! ## What the generators write -/

section Scripts

variable (env : Environment) (listing : List Line)

theorem hash_unscripted : ['#'] ∉ Extestcase.existScript := by
  simp [Extestcase.existScript]

theorem linux_scripts : (extestcase env).scripts listing =
    ((casesOf listing).takeWhile (extestcase env).passes).map (extestcase env).scriptOf := by
  rw [Generator.scripts_eq _ _ hash_unscripted (by simp [extestcase])]
  simp [Generator.skips, extestcase, listed]

theorem autotest_scripts : (extestcaseAutotest env).scripts listing =
    ((casesOf listing).takeWhile (extestcaseAutotest env).passes).map
      (extestcaseAutotest env).scriptOf := by
  rw [Generator.scripts_eq _ _ hash_unscripted (by simp [extestcaseAutotest])]
  simp [Generator.skips, extestcaseAutotest, listed]

theorem ofp_scripts : (extestcaseOfp env).scripts listing =
    (((casesOf listing).filter (fun testCase => !(extestcaseOfp env).skips testCase)).takeWhile
      (extestcaseOfp env).passes).map (extestcaseOfp env).scriptOf := by
  apply Generator.scripts_eq
  · simp [extestcaseOfp, ExtestcaseOfp.existScript]
  · simp [extestcaseOfp, ExtestcaseOfp.flagSkip]

end Scripts

/-! ## Listings without conversions -/

section Plain

variable {env : Environment} {listing : List Line}

/-- A number at the end of a name contains no conversion. -/
theorem percent_notMem_numbered {testname : Name} (plain : '%' ∉ testname) (count : Nat) :
    '%' ∉ numbered testname count := by
  rw [numbered, List.mem_append, List.mem_cons, padZero, List.mem_append]
  rintro (inName | isPeriod | inZeros | inDigits)
  · exact plain inName
  · contradiction
  · exact absurd (List.eq_of_mem_replicate inZeros) (by decide)
  · exact absurd (decimal_plain inDigits).2.2 (by decide)

/-- Awk goes on if it can create the file and the directory is a plain text. -/
theorem Paths.stops_eq_false {paths : Paths} {state : State}
    (created : env.creates (paths.testscript state.testname state.count) = true)
    (plain : '%' ∉ paths.workdir2 state.testname state.count) : paths.stops env state = false := by
  have format : '%' ∉ cdFormat (paths.workdir2 state.testname state.count) := by
    simpa [cdFormat] using plain
  rw [stops, created, Awk.printf_of_notMem format]
  rfl

theorem extestcase_passes {testCase : Case} (creates : ∀ path, env.creates path = true)
    (home : '%' ∉ env.autotestHome) (plain : '%' ∉ testCase.testname) :
    (extestcase env).passes testCase = true := by
  have goes : (Extestcase.paths env).stops env ((extestcase env).stateAt testCase) = false := by
    apply Paths.stops_eq_false (creates _)
    simpa [Extestcase.paths, Generator.stateAt, home] using
      percent_notMem_numbered plain testCase.count
  exact congrArg not goes

theorem extestcaseAutotest_passes {testCase : Case} (creates : ∀ path, env.creates path = true) :
    (extestcaseAutotest env).passes testCase = true := by
  have goes : (!env.creates (ExtestcaseAutotest.testscript env testCase.testname
      testCase.count)) = false := by
    rw [creates]
    rfl
  exact congrArg not goes

theorem extestcaseOfp_passes {testCase : Case} (creates : ∀ path, env.creates path = true)
    (cwd : '%' ∉ env.cwd) (plain : '%' ∉ testCase.testname) :
    (extestcaseOfp env).passes testCase = true := by
  have goes : (ExtestcaseOfp.paths env).stops env ((extestcaseOfp env).stateAt testCase) =
      false := by
    apply Paths.stops_eq_false (creates _)
    simpa [ExtestcaseOfp.paths, Generator.stateAt, cwd] using
      percent_notMem_numbered plain testCase.count
  exact congrArg not goes

/-- The names of test cases come from the headers. -/
theorem percent_notMem_testname {testCase : Case} (plain : ∀ name ∈ headerNames listing, '%' ∉ name)
    (member : testCase ∈ casesOf listing) : '%' ∉ testCase.testname := by
  rcases mem_casesFrom member with ⟨-, isHash, -⟩ | ⟨-, named⟩
  · simp [isHash]
  · exact plain _ named

end Plain

/-- An environment in which every file can be created. -/
def plainEnvironment : Environment :=
  ⟨"/work".toList, "/home".toList, fun _ => true⟩

end McKernelTest.Autotest
