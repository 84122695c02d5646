import McKernelTest.TestApp.Main
import McKernelTest.Text.Awk
import McKernelTest.Text.Strtoll

/-!
# The default verdict

A generated test script counts the lines of the two output files and the core files,
extracts the field behind `RESULT:` and leaves the comparison to `check/default.sh`.
That script refuses a result of Linux that is not a single digit: such test cases are
meant to have a check of their own.  What `main` prints are the messages of the test
cases, of which hardly any is a digit.
-/

namespace McKernelTest.Autotest

open Text TestApp Posix

/-! ## The output of `main` -/

/-- What `main` prints before it runs a test case. -/
def printInfo (testCase : TestCase) (argv : List Arg) : List Char :=
  "TEST_SUITE: ".toList ++ testCase.testSuite ++ ['\n'] ++
    "TEST_NUMBER: ".toList ++ decimalInt testCase.num ++ ['\n'] ++
    "ARGS: ".toList ++ argv.tail.flatMap (· ++ [' ']) ++ ['\n']

/-- What a run of a test case prints and returns, and what it leaves behind: its core
files and the file that its output is written to.  The test case ends its own output
with a newline, so that the result is a line. -/
structure TestRun where
  printed : List Char
  complete : printed = [] ∨ printed.getLast? = some '\n'
  result : Option (List Char)
  cores : Nat
  outputfile : List Char
  plain : PlainWord outputfile

namespace TestRun

/-- The message behind `RESULT: `. -/
def message (run : TestRun) : List Char :=
  run.result.getD "ok".toList

/-- The output of `main` before its last line. -/
def front (testCase : TestCase) (argv : List Arg) (run : TestRun) : List Char :=
  printInfo testCase argv ++ run.printed

/-- The output of `main`. -/
def output (testCase : TestCase) (argv : List Arg) (run : TestRun) : List Char :=
  run.front testCase argv ++ "RESULT: ".toList ++ run.message ++ ['\n']

end TestRun

/-! ## The check -/

/-- `wc -l` of a file. -/
def wc (path text : List Char) : List Char :=
  decimal (text.count '\n') ++ ' ' :: path ++ ['\n']

/-- `awk -F ':' '$1=="RESULT" {print $2}'`. -/
def resultFields (text : List Char) : List Char :=
  (lines text).flatMap fun line =>
    if Awk.field ':' 1 line = "RESULT".toList then Awk.field ':' 2 line ++ ['\n'] else []

/-- The variables that a generated script sets for one of the two systems. -/
structure Variables where
  nl : List Char
  result : List Char
  core : List Char

/-- The beginning of the default check, for one of the two systems. -/
def checkVariables (outputfile text : List Char) (cores : Nat) : Variables where
  nl := substitute (onLines (cutField ' ' 1) (wc outputfile text))
  result := substitute (resultFields text)
  core := substitute (decimal cores ++ ['\n'])

/-- The test `-ne` on texts of digits. -/
def testNe (left right : List Char) : Bool :=
  numeralValue 10 left ≠ numeralValue 10 right

/-- `grep -cE '^[0-9]$'`. -/
def grepDigit (stream : List Char) : Bool :=
  (lines stream).any fun line => line.length = 1 && line.all Char.isDigit

/-- A shell prints an unquoted expansion with `echo`.  What it makes of patterns,
options and backslashes is left open; texts without any of them are printed word by
word. -/
structure Shell where
  echo : List Char → List Char
  echo_plain : ∀ text, (∀ character ∈ text, character.isAlphanum = true ∨ isIfs character = true) →
    echo text = Text.echo (words text)

/-- `check/default.sh`. -/
def defaultSh (shell : Shell) (linux mck : Variables) : Nat :=
  let rc := 0
  let rc := if testNe linux.core mck.core then 1 else rc
  let rc := if testNe linux.nl mck.nl then 1 else rc
  let rc := if !grepDigit (shell.echo linux.result) then 1 else rc
  let rc := if linux.result ≠ mck.result then 1 else rc
  rc

/-- The verdict on two outputs of `main` for the same test case. -/
def verdict (shell : Shell) (testCase : TestCase) (argv : List Arg) (linux mck : TestRun) : Nat :=
  defaultSh shell (checkVariables linux.outputfile (linux.output testCase argv) linux.cores)
    (checkVariables mck.outputfile (mck.output testCase argv) mck.cores)

/-! ## What the variables are -/

section Variables

theorem testNe_decimal (left right : Nat) : testNe (decimal left) (decimal right) = true ↔
    left ≠ right := by
  have value := numeralValue_toDigits 10 (by decide) (by decide)
  simp [testNe, decimal, value]

variable {outputfile text : List Char} {cores : Nat}

theorem checkVariables_nl (plain : PlainWord outputfile) :
    (checkVariables outputfile text cores).nl = decimal (text.count '\n') := by
  have noBlank : ' ' ∉ decimal (text.count '\n') :=
    fun member => absurd (decimal_plain member).1 (by simp [isIfs])
  have single : '\n' ∉ decimal (text.count '\n') ++ ' ' :: outputfile := by
    intro member
    rcases List.mem_append.mp member with inCount | inPath
    · exact newline_notMem_decimal _ inCount
    · rcases List.mem_cons.mp inPath with isBlank | inPath
      · contradiction
      · exact absurd (plain.noIfs _ inPath) (by simp [isIfs])
  have cut : onLines (cutField ' ' 1) (wc outputfile text) =
      decimal (text.count '\n') ++ ['\n'] := by
    rw [wc, onLines_line _ single, cutField_one_append noBlank]
  rw [checkVariables, cut, substitute_line (newline_notMem_decimal _)]

theorem checkVariables_core : (checkVariables outputfile text cores).core = decimal cores :=
  substitute_line (newline_notMem_decimal cores)

end Variables

/-- What `echo` prints contains a single digit on a line. -/
def Shell.EchoesDigit (shell : Shell) (text : List Char) : Prop :=
  grepDigit (shell.echo text) = true

/-- The script succeeds exactly if it finds no difference and a single digit. -/
theorem defaultSh_eq_zero_iff (shell : Shell) (linux mck : Variables) :
    defaultSh shell linux mck = 0 ↔
      testNe linux.core mck.core = false ∧ testNe linux.nl mck.nl = false ∧
        shell.EchoesDigit linux.result ∧ linux.result = mck.result := by
  unfold defaultSh Shell.EchoesDigit
  by_cases result : linux.result = mck.result
  · cases grepDigit (shell.echo linux.result) with
    | true =>
        cases testNe linux.core mck.core <;> cases testNe linux.nl mck.nl <;> simp [result]
    | false => simp [result]
  · simp [result]

section Verdict

variable {testCase : TestCase} {argv : List Arg}

/-- The result that the script extracts. -/
def TestRun.extracted (testCase : TestCase) (argv : List Arg) (run : TestRun) : List Char :=
  substitute (resultFields (run.output testCase argv))

/-- The verdict on any two outputs. -/
theorem verdict_eq_zero_iff (shell : Shell) (testCase : TestCase) (argv : List Arg)
    (linux mck : TestRun) :
    verdict shell testCase argv linux mck = 0 ↔
      linux.cores = mck.cores ∧
        (linux.output testCase argv).count '\n' = (mck.output testCase argv).count '\n' ∧
        shell.EchoesDigit (linux.extracted testCase argv) ∧
        linux.extracted testCase argv = mck.extracted testCase argv := by
  rw [verdict, defaultSh_eq_zero_iff, checkVariables_core, checkVariables_core,
    checkVariables_nl linux.plain, checkVariables_nl mck.plain, ← Bool.not_eq_true,
    ← Bool.not_eq_true, testNe_decimal, testNe_decimal, not_not, not_not]
  simp only [TestRun.extracted, checkVariables]

theorem TestRun.front_eq (testCase : TestCase) (argv : List Arg) (run : TestRun) :
    ∃ body, run.front testCase argv = body ++ ['\n'] := by
  rcases run.complete with empty | last
  · unfold front printInfo
    rw [empty, List.append_nil]
    exact ⟨_, rfl⟩
  · rw [front, ← List.dropLast_append_getLast? _ last, ← List.append_assoc]
    exact ⟨_, rfl⟩

/-- The result line of `main` is the only one, and its message has a single field. -/
structure TestRun.Extractable (testCase : TestCase) (argv : List Arg) (run : TestRun) : Prop where
  only : ∀ line ∈ lines (run.front testCase argv), Awk.field ':' 1 line ≠ "RESULT".toList
  noColon : ':' ∉ run.message
  noNewline : '\n' ∉ run.message

/-- Such a message is extracted with the blank before it. -/
theorem TestRun.Extractable.extracted_eq {run : TestRun}
    (extractable : run.Extractable testCase argv) :
    run.extracted testCase argv = ' ' :: run.message := by
  obtain ⟨body, isFront⟩ := run.front_eq testCase argv
  have resultLine : run.output testCase argv =
      body ++ '\n' :: (("RESULT".toList ++ ':' :: ' ' :: run.message) ++ ['\n']) := by
    have isPrefix : "RESULT: ".toList = "RESULT".toList ++ [':', ' '] := by simp
    rw [output, isFront, isPrefix]
    simp only [List.append_assoc, List.cons_append, List.nil_append]
  have single : '\n' ∉ "RESULT".toList ++ ':' :: ' ' :: run.message := by
    simp [extractable.noNewline]
  have isLines : lines (run.output testCase argv) =
      lines (run.front testCase argv) ++ ["RESULT".toList ++ ':' :: ' ' :: run.message] := by
    rw [resultLine, isFront, lines_append_cons, lines_line single, lines_append_cons]
    simp [lines]
  have noColon : ':' ∉ ' ' :: run.message := by
    simp [extractable.noColon]
  have before : (lines (run.front testCase argv)).flatMap (fun line =>
      if Awk.field ':' 1 line = "RESULT".toList then Awk.field ':' 2 line ++ ['\n'] else []) =
      [] := by
    rw [List.flatMap_eq_nil_iff]
    exact fun line member => if_neg (extractable.only line member)
  have fields : resultFields (run.output testCase argv) = ' ' :: run.message ++ ['\n'] := by
    rw [resultFields, isLines, List.flatMap_append, before, List.nil_append,
      List.flatMap_singleton, if_pos (Awk.field_one_append (by simp)),
      Awk.field_two_append (by simp) noColon]
  rw [extracted, fields, substitute_line]
  simp [extractable.noNewline]

/-- A plain text is echoed as a single digit only if the digit is its only word. -/
theorem Shell.echoesDigit_iff (shell : Shell) {text : List Char}
    (plain : ∀ character ∈ text, character.isAlphanum = true ∨ isIfs character = true) :
    shell.EchoesDigit text ↔ ∃ digit, digit.isDigit = true ∧ words text = [[digit]] := by
  have isPlain : ∀ word ∈ words text, PlainWord word := fun _ => plainWord_of_mem_words
  rw [EchoesDigit, grepDigit, shell.echo_plain text plain, Text.echo,
    lines_line (newline_notMem_echoLine isPlain)]
  cases isWords : words text with
  | nil => simp [echoLine]
  | cons word rest =>
      cases rest with
      | nil =>
          constructor
          · intro found
            have single : word.length = 1 ∧ word.all Char.isDigit = true := by
              simpa [echoLine] using found
            obtain ⟨digit, rfl⟩ := List.length_eq_one_iff.mp single.1
            exact ⟨digit, by simpa using single.2, rfl⟩
          · rintro ⟨digit, isDigit, ⟨⟩⟩
            simp [echoLine, isDigit]
      | cons next rest =>
          have nonempty := (isPlain word (isWords ▸ List.mem_cons_self)).nonempty
          have long : (echoLine (word :: next :: rest)).length ≠ 1 := by
            have := List.length_pos_iff.mpr nonempty
            simp [echoLine]
            omega
          simp [long]

/-- The default verdict needs a single digit from Linux.  If the results can be
extracted, it is 0 exactly if nothing differs and there is such a digit. -/
theorem verdict_of_outputs (shell : Shell) (testCase : TestCase) (argv : List Arg)
    (linux mck : TestRun) :
    (verdict shell testCase argv linux mck = 0 →
      linux.cores = mck.cores ∧
        (linux.output testCase argv).count '\n' = (mck.output testCase argv).count '\n' ∧
        shell.EchoesDigit (linux.extracted testCase argv)) ∧
    (linux.Extractable testCase argv → mck.Extractable testCase argv →
      (verdict shell testCase argv linux mck = 0 ↔
        linux.cores = mck.cores ∧
          (linux.output testCase argv).count '\n' = (mck.output testCase argv).count '\n' ∧
          linux.message = mck.message ∧ shell.EchoesDigit (' ' :: linux.message))) := by
  constructor
  · intro succeeds
    obtain ⟨cores, sameLines, digit, -⟩ := (verdict_eq_zero_iff _ _ _ _ _).mp succeeds
    exact ⟨cores, sameLines, digit⟩
  · intro fromLinux fromMck
    rw [verdict_eq_zero_iff, fromLinux.extracted_eq, fromMck.extracted_eq, List.cons.injEq,
      and_comm (a := shell.EchoesDigit _)]
    simp

end Verdict

/-! ## Two runs -/

/-- A shell whose `echo` knows no options and no patterns. -/
def plainShell : Shell :=
  ⟨fun text => echo (words text), fun _ _ => rfl⟩

/-- A test case that prints nothing itself and dumps no core. -/
def quietRun (result : Option (List Char)) : TestRun where
  printed := []
  complete := Or.inl rfl
  result := result
  cores := 0
  outputfile := ['o', 'u', 't']
  plain := ⟨by simp, by simp [isIfs]⟩

/-- A test case of the suite `getuid`. -/
def getuid0 : TestCase :=
  ⟨"getuid".toList, 0⟩

theorem quietRun_extractable {result : Option (List Char)}
    (noColon : ':' ∉ (quietRun result).message)
    (noNewline : '\n' ∉ (quietRun result).message) :
    (quietRun result).Extractable getuid0 [] := by
  refine ⟨?_, noColon, noNewline⟩
  have checked : (lines (printInfo getuid0 [] ++ [])).all
      (fun line => Awk.field ':' 1 line ≠ "RESULT".toList) = true := by
    decide +kernel
  intro line member
  exact of_decide_eq_true (List.all_eq_true.mp checked line member)

/-- Two outputs with the result 1. -/
theorem verdict_of_outputs_digit :
    verdict plainShell getuid0 [] (quietRun (some ['1'])) (quietRun (some ['1'])) = 0 := by
  have extractable : (quietRun (some ['1'])).Extractable getuid0 [] :=
    quietRun_extractable (by decide) (by decide)
  have digit : plainShell.EchoesDigit (' ' :: (quietRun (some ['1'])).message) := by
    unfold Shell.EchoesDigit
    decide +kernel
  exact ((verdict_of_outputs plainShell getuid0 [] _ _).2 extractable extractable).mpr
    ⟨rfl, rfl, rfl, digit⟩

/-- Two equal outputs with the result `ok` fail the default check. -/
theorem ok_needs_custom_check :
    ¬(verdict plainShell getuid0 [] (quietRun none) (quietRun none) = 0 ↔
      (quietRun none).cores = (quietRun none).cores ∧
        ((quietRun none).output getuid0 []).count '\n' =
          ((quietRun none).output getuid0 []).count '\n' ∧
        (quietRun none).message = (quietRun none).message) := by
  have refused : verdict plainShell getuid0 [] (quietRun none) (quietRun none) = 1 := by
    decide +kernel
  rw [refused]
  simp

end McKernelTest.Autotest
