import McKernelTest.Getrusage.Core

/-!
# Finding the records in an output

An output consists of records and of other text around them, which does not mention the
fields.  For each of the fields `grep` finds one line in every record, and `cut` leaves the
value on it.
-/

namespace McKernelTest.Getrusage

open Perl Text

/-! ## Outputs -/

/-- The fields that the scripts look for. -/
inductive Field where
  | utime
  | stime
  | maxrss
  deriving DecidableEq, Repr

namespace Field

def name : Field → List Char
  | utime => "ru_utime".toList
  | stime => "ru_stime".toList
  | maxrss => "ru_maxrss".toList

/-- The text behind the name in a record. -/
def value : Field → Rusage → List Char
  | utime, usage => usage.ruUtime.text
  | stime, usage => usage.ruStime.text
  | maxrss, usage => decimalInt usage.ruMaxrss

/-- The beginning of the name that tells a line with the field from the others.  Its last
character is in no value. -/
def stem : Field → List Char
  | utime => "ru_utime".toList
  | stime => "ru_stime".toList
  | maxrss => "ru_max".toList

/-- The last character of the stem. -/
def stemEnd : Field → Char
  | utime => 'e'
  | stime => 'e'
  | maxrss => 'x'

theorem stem_getLast (field : Field) : field.stem.getLast? = some field.stemEnd := by
  cases field <;> rfl

end Field

/-- An output: records, each with the text behind it, and the text before the first one. -/
structure Output where
  front : List Char
  records : List (Rusage × List Char)
  noField : ∀ text ∈ front :: records.map Prod.snd, ∀ field : Field, ¬field.name <:+: text

namespace Output

def text (output : Output) : List Char :=
  output.front ++ output.records.flatMap fun record => showRusage (some record.1) ++ record.2

def usages (output : Output) : List Rusage :=
  output.records.map Prod.fst

end Output

/-! ## The lines of a record -/

/-- The lines with a field. -/
def found (field : Field) (list : List (List Char)) : List (List Char) :=
  list.filter fun line => (strstr line field.name).isSome

section Lines

variable {field : Field} {usage : Rusage} {character : Char}

theorem found_append (field : Field) (first second : List (List Char)) :
    found field (first ++ second) = found field first ++ found field second :=
  List.filter_append _ _

theorem found_eq_nil {list : List (List Char)} (absent : ∀ line ∈ list, ¬field.stem <:+: line) :
    found field list = [] := by
  have isStem : field.stem <:+: field.name := by
    cases field <;> decide
  apply List.filter_eq_nil_iff.mpr
  intro line member present
  exact absent line member (isStem.trans (isSome_strstr.mp present))

/-- The characters of the values. -/
def isValueChar (character : Char) : Bool :=
  character.isDigit || character ∈ ['-', 's', ' ', '+', 'u']

theorem isValueChar_decimalInt {number : Int} (member : character ∈ decimalInt number) :
    isValueChar character = true := by
  have digit {number : Nat} (member : character ∈ decimal number) :
      isValueChar character = true := by
    simp [isValueChar, (decimal_plain member).2.2]
  cases number with
  | ofNat number => exact digit member
  | negSucc number =>
      rcases List.mem_cons.mp member with rfl | later
      · decide
      · exact digit later

theorem isValueChar_timeText {time : UsedTime} (member : character ∈ time.text) :
    isValueChar character = true := by
  have units : ∀ character ∈ "s + ".toList ++ "us".toList, isValueChar character = true :=
    List.all_eq_true.mp (by decide)
  simp only [UsedTime.text, List.mem_append] at member
  rcases member with ((sec | between) | usec) | behind
  · exact isValueChar_decimalInt sec
  · exact units _ (List.mem_append_left _ between)
  · exact isValueChar_decimalInt usec
  · exact units _ (List.mem_append_right _ behind)

theorem isValueChar_value (member : character ∈ field.value usage) :
    isValueChar character = true := by
  cases field with
  | utime => exact isValueChar_timeText member
  | stime => exact isValueChar_timeText member
  | maxrss => exact isValueChar_decimalInt member

/-- The stem of a field is not in the line of another one. -/
theorem stem_notIn_fieldLine {name value : List Char} (other : ¬field.stem <:+: "  ".toList ++ name)
    (chars : ∀ character ∈ value, isValueChar character = true) :
    ¬field.stem <:+: fieldLine name value := by
  have notValue : isValueChar field.stemEnd = false := by
    cases field <;> decide
  have notMark : field.stemEnd ≠ '=' := by
    cases field <;> decide
  intro isInfix
  have split : field.stem <:+: ("  ".toList ++ name) ++ '=' :: value := isInfix
  apply other
  refine infix_of_infix_append ?_ split
  intro character isLast member
  rw [field.stem_getLast] at isLast
  cases isLast
  rcases List.mem_cons.mp member with same | later
  · exact notMark same
  · cases notValue.symm.trans (chars _ later)

/-- The line of a field in a record. -/
def Field.line (field : Field) (usage : Rusage) : List Char :=
  fieldLine field.name (field.value usage)

theorem found_line (field other : Field) (usage : Rusage) :
    found field [other.line usage] = if other = field then [other.line usage] else [] := by
  split
  · rename_i same
    subst same
    have present : (strstr (other.line usage) other.name).isSome = true :=
      isSome_strstr.mpr ⟨"  ".toList, '=' :: other.value usage, rfl⟩
    exact List.filter_cons_of_pos present
  · rename_i different
    have absent : ¬field.stem <:+: "  ".toList ++ other.name := by
      cases field <;> cases other <;> first | exact absurd rfl different | decide
    apply found_eq_nil
    rintro line member
    rw [List.mem_singleton.mp member]
    exact stem_notIn_fieldLine absent fun character => isValueChar_value

theorem otherFields_names (usage : Rusage) : usage.otherFields.map Prod.fst =
    ["ru_ixrss", "ru_idrss", "ru_isrss", "ru_minflt", "ru_majflt", "ru_nswap", "ru_inblock",
      "ru_oublock", "ru_msgsnd", "ru_msgrcv", "ru_nsignals", "ru_nvcsw", "ru_nivcsw"] :=
  rfl

theorem found_otherFields (field : Field) (usage : Rusage) :
    found field ((usage.otherFields.filter (·.2 ≠ 0)).map fun other =>
      fieldLine other.1.toList (decimalInt other.2)) = [] := by
  have names : ∀ name ∈ usage.otherFields.map Prod.fst,
      ¬field.stem <:+: "  ".toList ++ name.toList := by
    rw [otherFields_names]
    cases field <;> decide
  apply found_eq_nil
  intro line member
  rcases List.mem_map.mp member with ⟨other, kept, rfl⟩
  have isName := List.mem_map_of_mem (f := Prod.fst) (List.mem_of_mem_filter kept)
  exact stem_notIn_fieldLine (names other.1 isName) fun character => isValueChar_decimalInt

/-- One line of a record has the field. -/
theorem found_lines (field : Field) (usage : Rusage) :
    found field usage.lines = [field.line usage] := by
  have lines : usage.lines = ["show_rusage():".toList] ++ [Field.utime.line usage] ++
      [Field.stime.line usage] ++ [Field.maxrss.line usage] ++
      ((usage.otherFields.filter (·.2 ≠ 0)).map fun other =>
        fieldLine other.1.toList (decimalInt other.2)) := rfl
  have header : found field ["show_rusage():".toList] = [] := by
    cases field <;> decide
  rw [lines, found_append, found_append, found_append, found_append, header, found_line, found_line,
    found_line, found_otherFields]
  cases field <;> rfl

end Lines

/-! ## The lines of an output -/

section Output

variable {field : Field} {usage : Rusage} {text : List Char}

theorem newline_notMem_fieldLine {name value : List Char} (noName : '\n' ∉ name)
    (chars : ∀ character ∈ value, isValueChar character = true) : '\n' ∉ fieldLine name value := by
  intro member
  simp only [fieldLine, List.mem_append, List.mem_cons] at member
  rcases member with (blank | inName) | mark | inValue
  · exact absurd blank (by decide)
  · exact noName inName
  · cases mark
  · cases chars _ inValue

theorem newline_notMem_fieldLine_field (field : Field) (usage : Rusage) :
    '\n' ∉ field.line usage := by
  have noName : '\n' ∉ field.name := by
    cases field <;> decide
  exact newline_notMem_fieldLine noName fun character => isValueChar_value

theorem newline_notMem_line (member : text ∈ usage.lines) : '\n' ∉ text := by
  rcases List.mem_append.mp member with first | other
  · simp only [List.mem_cons, List.not_mem_nil, or_false] at first
    rcases first with rfl | rfl | rfl | rfl
    · decide
    · exact newline_notMem_fieldLine_field .utime usage
    · exact newline_notMem_fieldLine_field .stime usage
    · exact newline_notMem_fieldLine_field .maxrss usage
  · have names : ∀ name ∈ usage.otherFields.map Prod.fst, '\n' ∉ name.toList := by
      rw [otherFields_names]
      decide
    rcases List.mem_map.mp other with ⟨field, kept, rfl⟩
    have isName := List.mem_map_of_mem (f := Prod.fst) (List.mem_of_mem_filter kept)
    exact newline_notMem_fieldLine (names field.1 isName) fun character => isValueChar_decimalInt

theorem found_text (absent : ¬field.name <:+: text) : found field (lines text) = [] := by
  apply List.filter_eq_nil_iff.mpr
  intro line member present
  exact absent ((isSome_strstr.mp present).trans (infix_of_mem_lines member))

theorem append_flatMap_cons (text rest first : List Char) (list : List (List Char)) :
    text ++ ((first :: list).flatMap (· ++ ['\n']) ++ rest) =
      (text ++ first) ++ '\n' :: (list.flatMap (· ++ ['\n']) ++ rest) := by
  simp

/-- The lines of a record and of the text in front of it. -/
theorem found_record (absent : ¬field.name <:+: text) (rest : List Char) :
    found field (lines (text ++ (showRusage (some usage) ++ rest))) =
      field.line usage :: found field (lines rest) := by
  have whole : text ++ (showRusage (some usage) ++ rest) =
      (text ++ dashes) ++ '\n' :: ((usage.lines ++ [dashes]).flatMap (· ++ ['\n']) ++ rest) :=
    append_flatMap_cons text rest dashes (usage.lines ++ [dashes])
  have noDashes : ¬field.name <:+: text ++ dashes := by
    have last : ∃ last, field.name.getLast? = some last ∧ last ∉ dashes := by
      cases field <;> exact ⟨_, rfl, by decide⟩
    rcases last with ⟨last, isLast, noDash⟩
    intro isInfix
    apply absent
    refine infix_of_infix_append (fun other isOther => ?_) isInfix
    cases isLast.symm.trans isOther
    exact noDash
  have nothing : found field ((text ++ dashes).splitOn '\n') = [] := by
    apply List.filter_eq_nil_iff.mpr
    intro line member present
    exact noDashes ((isSome_strstr.mp present).trans (infix_of_mem_splitOn member))
  have last : found field [dashes] = [] := by
    cases field <;> decide
  have single : ∀ line ∈ usage.lines ++ [dashes], '\n' ∉ line := by
    intro line member
    rcases List.mem_append.mp member with inside | isLast
    · exact newline_notMem_line inside
    · rw [List.mem_singleton.mp isLast]
      decide
  rw [whole, lines_append_cons, lines_flatMap_append single, found_append, found_append,
    found_append, nothing, found_lines, last]
  rfl

/-- `grep` finds the line of every record. -/
theorem found_output (field : Field) (output : Output) :
    found field (lines output.text) = output.usages.map field.line := by
  rcases output with ⟨front, records, noField⟩
  simp only [Output.text, Output.usages]
  induction records generalizing front with
  | nil =>
      have absent := noField front List.mem_cons_self field
      simpa using found_text absent
  | cons record records ih =>
      have absent := noField front List.mem_cons_self field
      have later := ih record.2 fun text member => noField text (List.mem_cons_of_mem _ member)
      rw [List.flatMap_cons, List.append_assoc, found_record absent, later]
      rfl

theorem grep_output (field : Field) (output : Output) :
    grep field.name output.text = (output.usages.map field.line).flatMap (· ++ ['\n']) := by
  rw [← found_output]
  rfl

/-- `cut` leaves the value. -/
theorem cutField_line (field : Field) (usage : Rusage) :
    cutField '=' 2 (field.line usage) = field.value usage := by
  have noName : '=' ∉ "  ".toList ++ field.name := by
    cases field <;> decide
  have noValue : '=' ∉ field.value usage := by
    intro member
    cases isValueChar_value member
  have fields : (field.line usage).splitOn '=' =
      ["  ".toList ++ field.name, field.value usage] := by
    rw [Field.line, fieldLine, List.splitOn_append_cons_self_of_not_mem noName,
      List.splitOn_eq_singleton noValue]
  rw [cutField, fields]
  rfl

/-- What the Perl programs read. -/
theorem lines_cut_grep (field : Field) (output : Output) :
    lines (onLines (cutField '=' 2) (grep field.name output.text)) =
      output.usages.map field.value := by
  have noLine : ∀ line ∈ output.usages.map field.line, '\n' ∉ line := by
    intro line member
    rcases List.mem_map.mp member with ⟨usage, -, rfl⟩
    exact newline_notMem_fieldLine_field field usage
  have noValue : ∀ value ∈ output.usages.map field.value, '\n' ∉ value := by
    intro value member
    rcases List.mem_map.mp member with ⟨usage, -, rfl⟩
    intro inside
    cases isValueChar_value inside
  have cut : onLines (cutField '=' 2) (grep field.name output.text) =
      (output.usages.map field.value).flatMap (· ++ ['\n']) := by
    rw [grep_output, onLines, lines_flatMap noLine, List.flatMap_map, List.flatMap_map]
    simp only [cutField_line]
  rw [cut, lines_flatMap noValue]

end Output

end McKernelTest.Getrusage
