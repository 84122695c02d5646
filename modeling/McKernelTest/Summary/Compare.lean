import McKernelTest.Autotest.Verdict
import Mathlib.Data.List.Zip

/-!
# Comparing summaries

`getsummary.sh` prints a line for every output file, and `comparesummary.py` compares two
such texts line by line.  The script goes through the first file and reads a line of the
second for each of its lines, and then through the rest of the second.  Where the second
file has ended, `readline` returns an empty text, which is the same as an empty line.
-/

namespace McKernelTest.Summary

open Text

/-! ## The script -/

/-- The lines of a file with their ends, as an iteration over the file returns them. -/
def fileLines : List Char → List (List Char)
  | [] => []
  | character :: text =>
      if character = '\n' then [character] :: fileLines text
      else
        match fileLines text with
        | [] => [[character]]
        | line :: rest => (character :: line) :: rest

/-- `rstrip('\n')`. -/
def rstrip (line : List Char) : List Char :=
  line.rdropWhile (· = '\n')

/-- `readline`, which returns an empty text at the end of the file. -/
def readline : List (List Char) → List Char × List (List Char)
  | [] => ([], [])
  | line :: rest => (line, rest)

/-- What the script reports: two lines that differ, or a line of the second file only. -/
inductive Report where
  | differ (line1 line2 : List Char)
  | extra (line2 : List Char)
  deriving DecidableEq, Repr

namespace Report

/-- What is printed for a report. -/
def print : Report → List Char
  | differ line1 line2 => "- ".toList ++ line1 ++ ['\n'] ++ "+ ".toList ++ line2 ++ ['\n']
  | extra line2 => "-\n".toList ++ "+ ".toList ++ line2 ++ ['\n']

/-- The texts behind `-` and `+`. -/
def texts : Report → List Char × List Char
  | differ line1 line2 => (line1, line2)
  | extra line2 => ([], line2)

theorem print_ne_nil (report : Report) : report.print ≠ [] := by
  cases report <;> exact List.append_ne_nil_of_right_ne_nil _ (List.cons_ne_nil _ _)

end Report

/-- The two loops. -/
def compareLines : List (List Char) → List (List Char) → List Report
  | [], f2 => f2.map fun line2 => .extra (rstrip line2)
  | line1 :: f1, f2 =>
      let line1 := rstrip line1
      let line2 := rstrip (readline f2).1
      if line1 ≠ line2 then .differ line1 line2 :: compareLines f1 (readline f2).2
      else compareLines f1 (readline f2).2

/-- The reports on two files. -/
def reports (text1 text2 : List Char) : List Report :=
  compareLines (fileLines text1) (fileLines text2)

/-- What the script prints. -/
def comparesummary (text1 text2 : List Char) : List Char :=
  (reports text1 text2).flatMap Report.print

/-! ## Lines -/

section Lines

variable {character : Char} {text line : List Char}

theorem rstrip_cons (different : character ≠ '\n') :
    rstrip (character :: line) = character :: rstrip line := by
  rw [rstrip, List.rdropWhile, List.reverse_cons, List.dropWhile_append,
    List.dropWhile_cons_of_neg (by simpa using different), rstrip, List.rdropWhile]
  split
  · rename_i empty
    rw [List.isEmpty_iff.mp empty]
    rfl
  · simp

/-- The script sees the lines of the files. -/
theorem fileLines_rstrip (text : List Char) : (fileLines text).map rstrip = lines text := by
  induction text with
  | nil => rfl
  | cons character text ih =>
      rw [fileLines]
      split
      · rename_i same
        subst same
        have split := lines_append_cons [] text
        rw [List.nil_append] at split
        rw [List.map_cons, ih, split]
        rfl
      · rename_i different
        rw [lines_cons different, ← ih]
        cases fileLines text with
        | nil =>
            simp only [List.map_cons, List.map_nil, rstrip_cons different]
            rfl
        | cons line rest => simp only [List.map_cons, rstrip_cons different]

end Lines

/-! ## The reports -/

section Reports

variable {text1 text2 : List Char}

theorem compareLines_cons_nil (line1 : List Char) (f1 : List (List Char)) :
    compareLines (line1 :: f1) [] =
      if rstrip line1 = [] then compareLines f1 []
      else .differ (rstrip line1) [] :: compareLines f1 [] :=
  ite_not _ _ _

theorem compareLines_cons_cons (line1 line2 : List Char) (f1 f2 : List (List Char)) :
    compareLines (line1 :: f1) (line2 :: f2) =
      if rstrip line1 = rstrip line2 then compareLines f1 f2
      else .differ (rstrip line1) (rstrip line2) :: compareLines f1 f2 :=
  ite_not _ _ _

/-- The pairs of lines that are reported.  Lines of the first file behind the end of the
second are left out if they are empty. -/
theorem texts_compareLines (f1 f2 : List (List Char)) :
    (compareLines f1 f2).map Report.texts =
      ((f1.map rstrip).zip (f2.map rstrip)).filter (fun pair => pair.1 ≠ pair.2) ++
        (((f1.map rstrip).drop f2.length).filter (· ≠ [])).map (·, []) ++
        ((f2.map rstrip).drop f1.length).map ([], ·) := by
  induction f1 generalizing f2 with
  | nil =>
      rw [compareLines]
      simp [Report.texts, Function.comp_def]
  | cons line1 f1 ih =>
      cases f2 with
      | nil =>
          have after := ih []
          rw [compareLines_cons_nil]
          by_cases empty : rstrip line1 = []
          · rw [if_pos empty, after]
            simp [empty]
          · rw [if_neg empty, List.map_cons, after]
            simp [empty, Report.texts]
      | cons line2 f2 =>
          have after := ih f2
          rw [compareLines_cons_cons]
          by_cases same : rstrip line1 = rstrip line2
          · rw [if_pos same, after]
            simp [same]
          · rw [if_neg same, List.map_cons, after]
            simp [same, Report.texts]

/-- The lines of the two files behind the end of the other one. -/
def overhang (text1 text2 : List Char) : List (List Char) × List (List Char) :=
  ((lines text1).drop (lines text2).length, (lines text2).drop (lines text1).length)

/-- The pairs of lines of both files that differ. -/
def differences (text1 text2 : List Char) : List (List Char × List Char) :=
  ((lines text1).zip (lines text2)).filter fun pair => pair.1 ≠ pair.2

theorem texts_reports (text1 text2 : List Char) :
    (reports text1 text2).map Report.texts =
      differences text1 text2 ++ ((overhang text1 text2).1.filter (· ≠ [])).map (·, []) ++
        (overhang text1 text2).2.map ([], ·) := by
  have count (text : List Char) : (fileLines text).length = (lines text).length := by
    rw [← fileLines_rstrip, List.length_map]
  rw [reports, texts_compareLines, fileLines_rstrip, fileLines_rstrip, count, count]
  rfl

theorem differences_swap : differences text2 text1 = (differences text1 text2).map Prod.swap := by
  rw [differences, differences, ← List.zip_swap, List.filter_map]
  congr 2
  funext pair
  simp [eq_comm]

/-- At most one of the files is longer. -/
theorem overhang_eq_nil (text1 text2 : List Char) :
    (overhang text1 text2).1 = [] ∨ (overhang text1 text2).2 = [] := by
  simp only [overhang, List.drop_eq_nil_iff]
  exact Nat.le_total _ _

theorem eq_iff_zip (list1 list2 : List (List Char)) :
    (list1.zip list2).filter (fun pair => pair.1 ≠ pair.2) = [] ∧ list1.drop list2.length = [] ∧
      list2.drop list1.length = [] ↔ list1 = list2 := by
  induction list1 generalizing list2 with
  | nil => cases list2 <;> simp
  | cons line1 list1 ih =>
      cases list2 with
      | nil => simp
      | cons line2 list2 =>
          rw [List.cons.injEq, ← ih list2]
          by_cases same : line1 = line2 <;> simp [same]

theorem comparesummary_eq_nil_iff : comparesummary text1 text2 = [] ↔ reports text1 text2 = [] := by
  rw [comparesummary, List.flatMap_eq_nil_iff]
  constructor
  · intro silent
    exact List.eq_nil_iff_forall_not_mem.mpr fun report member =>
      report.print_ne_nil (silent report member)
  · intro none report member
    rw [none] at member
    cases member

end Reports

/-! ## What the script is for -/

/-- The script prints nothing for files with the same lines and only for them, and
exchanging the files exchanges the texts of every report. -/
structure Compares (text1 text2 : List Char) : Prop where
  silent : comparesummary text1 text2 = [] ↔ lines text1 = lines text2
  swapped : (reports text2 text1).map Report.texts =
    (reports text1 text2).map (Prod.swap ∘ Report.texts)

/-- Every line behind the end of the other file has a text. -/
def OverhangNonempty (text1 text2 : List Char) : Prop :=
  ∀ line ∈ (overhang text1 text2).1 ++ (overhang text1 text2).2, line ≠ []

instance (text1 text2 : List Char) : Decidable (OverhangNonempty text1 text2) :=
  inferInstanceAs (Decidable (∀ line ∈ _, _))

section Compares

variable {text1 text2 : List Char}

theorem nonempty_of_swapped
    (swapped : (reports text2 text1).map Report.texts =
      (reports text1 text2).map (Prod.swap ∘ Report.texts)) : OverhangNonempty text1 text2 := by
  rw [← List.map_map, texts_reports, texts_reports, differences_swap] at swapped
  have lengths := congrArg List.length swapped
  simp only [List.length_append, List.length_map] at lengths
  have flipped : overhang text2 text1 = ((overhang text1 text2).2, (overhang text1 text2).1) := rfl
  rw [flipped] at lengths
  intro line member
  rcases overhang_eq_nil text1 text2 with empty | empty
  · rw [empty] at lengths member
    have all : ((overhang text1 text2).2.filter (· ≠ [])).length =
        (overhang text1 text2).2.length := by
      simpa using lengths
    simpa using List.length_filter_eq_length_iff.mp all line member
  · rw [empty] at lengths member
    have all : ((overhang text1 text2).1.filter (· ≠ [])).length =
        (overhang text1 text2).1.length := by
      simpa using lengths.symm
    rw [List.append_nil] at member
    simpa using List.length_filter_eq_length_iff.mp all line member

theorem compares_of_nonempty (nonempty : OverhangNonempty text1 text2) : Compares text1 text2 := by
  have first : (overhang text1 text2).1.filter (· ≠ []) = (overhang text1 text2).1 :=
    List.filter_eq_self.mpr fun line member => by
      simpa using nonempty line (List.mem_append_left _ member)
  have second : (overhang text1 text2).2.filter (· ≠ []) = (overhang text1 text2).2 :=
    List.filter_eq_self.mpr fun line member => by
      simpa using nonempty line (List.mem_append_right _ member)
  constructor
  · rw [comparesummary_eq_nil_iff, ← List.map_eq_nil_iff (f := Report.texts), texts_reports, first,
      ← eq_iff_zip]
    simp [differences, overhang]
  · have flipped : overhang text2 text1 =
        ((overhang text1 text2).2, (overhang text1 text2).1) := rfl
    rw [← List.map_map, texts_reports, texts_reports, differences_swap, flipped, first, second]
    rcases overhang_eq_nil text1 text2 with empty | empty
    · simp [empty, Function.comp_def]
    · simp [empty, Function.comp_def]

end Compares

/-- The script compares the files exactly if no line behind the end of the shorter file is
empty. -/
theorem compares_iff (text1 text2 : List Char) :
    Compares text1 text2 ↔ OverhangNonempty text1 text2 :=
  ⟨fun compares => nonempty_of_swapped compares.swapped, compares_of_nonempty⟩

/-- An empty line in the first file only is not reported. -/
theorem empty_line_missed : ¬Compares ['\n'] [] := by
  intro compares
  have nonempty := nonempty_of_swapped compares.swapped
  revert nonempty
  decide

/-! ## Summaries -/

/-- An output file, with the number of core files of its test case. -/
structure Entry where
  file : List Char
  plain : PlainWord file
  text : List Char
  cores : Nat

/-- The words of the line for one file.  No pattern in them matches a file name. -/
def summaryWords (testoutputdir : List Char) (entry : Entry) : List (List Char) :=
  let path := testoutputdir ++ '/' :: entry.file
  let checked := Autotest.checkVariables path entry.text entry.cores
  words (entry.file ++ ' ' :: (checked.core ++ ' ' :: (checked.nl ++ ' ' :: checked.result)))

/-- The line of `getsummary.sh` for one file. -/
def summaryLine (testoutputdir : List Char) (entry : Entry) : List Char :=
  echoLine (summaryWords testoutputdir entry)

/-- `getsummary.sh`. -/
def getsummary (testoutputdir : List Char) (entries : List Entry) : List Char :=
  entries.flatMap fun entry => summaryLine testoutputdir entry ++ ['\n']

theorem lines_getsummary (testoutputdir : List Char) (entries : List Entry) :
    lines (getsummary testoutputdir entries) = entries.map (summaryLine testoutputdir) := by
  have printed : getsummary testoutputdir entries =
      (entries.map (summaryLine testoutputdir)).flatMap (· ++ ['\n']) := by
    rw [getsummary, List.flatMap_map]
  rw [printed]
  apply lines_flatMap
  intro line member
  rcases List.mem_map.mp member with ⟨entry, -, rfl⟩
  exact newline_notMem_echoLine fun word member => plainWord_of_mem_words member

theorem summaryLine_ne_nil (testoutputdir : List Char) (entry : Entry) :
    summaryLine testoutputdir entry ≠ [] := by
  intro empty
  have printed : words (summaryLine testoutputdir entry) = summaryWords testoutputdir entry :=
    words_echoLine fun word member => plainWord_of_mem_words member
  rw [empty, words_nil, summaryWords, words_append_cons rfl, entry.plain.words] at printed
  cases printed

/-- Summaries have no empty lines, so that the script compares them. -/
theorem compares_getsummary (dir1 dir2 : List Char) (entries1 entries2 : List Entry) :
    Compares (getsummary dir1 entries1) (getsummary dir2 entries2) := by
  apply compares_of_nonempty
  intro line member
  simp only [overhang, lines_getsummary] at member
  rcases List.mem_append.mp member with first | second
  · rcases List.mem_map.mp (List.mem_of_mem_drop first) with ⟨entry, -, rfl⟩
    exact summaryLine_ne_nil dir1 entry
  · rcases List.mem_map.mp (List.mem_of_mem_drop second) with ⟨entry, -, rfl⟩
    exact summaryLine_ne_nil dir2 entry

end McKernelTest.Summary
