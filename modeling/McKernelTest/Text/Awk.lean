import McKernelTest.Text.Shell

/-!
# Parts of awk

Fields with a separator of one character, and `printf` with a format only.  A
conversion in such a format has no argument to print; awk stops there.  The scanner
follows GNU awk.
-/

namespace McKernelTest.Text.Awk

/-! ## Fields -/

/-- The fields of a record with `-F` and one character; an empty record has none. -/
def fields (separator : Char) (line : List Char) : List (List Char) :=
  if line = [] then [] else line.splitOn separator

/-- A field of a record, empty if the record is too short. -/
def field (separator : Char) (number : Nat) (line : List Char) : List Char :=
  ((fields separator line)[number - 1]?).getD []

section Fields

variable {separator : Char} {first rest : List Char}

theorem field_one_append (single : separator ∉ first) :
    field separator 1 (first ++ separator :: rest) = first := by
  have nonempty : first ++ separator :: rest ≠ [] := by simp
  rw [field, fields, if_neg nonempty, List.splitOn_append_cons_self_of_not_mem single]
  rfl

theorem field_two_append (single : separator ∉ first) (last : separator ∉ rest) :
    field separator 2 (first ++ separator :: rest) = rest := by
  have nonempty : first ++ separator :: rest ≠ [] := by simp
  rw [field, fields, if_neg nonempty, List.splitOn_append_cons_self_of_not_mem single,
    List.splitOn_eq_singleton last]
  rfl

end Fields

/-! ## Formats without arguments -/

/-- Where a directive is: before its period, behind it, behind a minus there, in the
digits of the precision, or behind those. -/
inductive Place where
  | width
  | precision
  | negative
  | digits
  | done
  deriving DecidableEq

/-- A directive that has begun: its place, the length modifiers and the text so far. -/
structure Directive where
  place : Place
  lengths : List Char
  text : List Char

/-- What a character does to a directive. -/
inductive Effect where
  | more (place : Place) (lengths : List Char)
  | percent
  | unknown
  | fatal

/-- The letters that ask for an argument. -/
def conversions : List Char :=
  ['d', 'i', 'o', 'x', 'X', 'u', 'c', 's', 'e', 'E', 'f', 'F', 'g', 'G', 'a', 'A']

/-- The next character of a directive.  There are no arguments, so that a conversion
and a reference to an argument are fatal. -/
def Directive.read (directive : Directive) (character : Char) : Effect :=
  if character = '%' then .percent
  else if character ∈ conversions ∨ character = '$' then .fatal
  else if character.isDigit then
    match directive.place with
    | .width => .more .width directive.lengths
    | .precision | .negative | .digits => .more .digits directive.lengths
    | .done => .unknown
  else if character = '*' then
    if directive.place = .digits ∨ directive.place = .done then .unknown else .fatal
  else if character = ' ' ∨ character = '+' ∨ character = '#' ∨ character = '\'' then
    if directive.place = .width then .more .width directive.lengths else .unknown
  else if character = '-' then
    match directive.place with
    | .width => .more .width directive.lengths
    | .precision => .more .negative directive.lengths
    | _ => .unknown
  else if character = '.' then
    if directive.place = .width then .more .precision directive.lengths else .unknown
  else if character = 'l' ∨ character = 'L' ∨ character = 'h' then
    if character ∈ directive.lengths then .unknown
    else
      .more (if directive.place = .digits then .done else directive.place)
        (character :: directive.lengths)
  else .unknown

/-- The scanner, in the text or inside a directive.  Unknown and unfinished directives
are printed as they are. -/
def scan : Option Directive → List Char → Option (List Char)
  | none, [] => some []
  | some directive, [] => some directive.text
  | none, character :: rest =>
      if character = '%' then scan (some ⟨.width, [], ['%']⟩) rest
      else (scan none rest).map (character :: ·)
  | some directive, character :: rest =>
      match directive.read character with
      | .more place lengths =>
          scan (some ⟨place, lengths, directive.text ++ [character]⟩) rest
      | .percent => (scan none rest).map ('%' :: ·)
      | .unknown => (scan none rest).map (directive.text ++ character :: ·)
      | .fatal => none

/-- `printf` with a format only; awk may stop at it. -/
def printf (format : List Char) : Option (List Char) :=
  scan none format

/-- A text without `%` is printed as it is. -/
theorem printf_of_notMem {format : List Char} (plain : '%' ∉ format) :
    printf format = some format := by
  unfold printf
  induction format with
  | nil => rfl
  | cons character rest ih =>
      have inText : character ≠ '%' := by
        rintro rfl
        exact plain List.mem_cons_self
      have rests := ih fun member => plain (List.mem_cons_of_mem character member)
      simp [scan, inText, rests]

example : printf "cd a%%b%z\n".toList = some "cd a%b%z\n".toList := by decide

example : printf "cd a%s".toList = none := by decide

end McKernelTest.Text.Awk
