import McKernelTest.Text.Format
import Mathlib.Data.List.DropRight

/-!
# Texts in shell pipelines

The parts of a shell script that pass texts around: splitting an unquoted
expansion into words, `echo`, filters that work line by line, and command
substitution.  Words are plain when nothing in them is special to the shell, so
that splitting and printing are inverse to each other.
-/

namespace McKernelTest.Text

/-- The characters of the default `IFS`. -/
def isIfs (character : Char) : Bool :=
  character = ' ' || character = '\t' || character = '\n'

/-- The words of an unquoted expansion. -/
def words (text : List Char) : List (List Char) :=
  (text.splitOnP isIfs).filter (· ≠ [])

/-- The line that `echo` prints. -/
def echoLine (args : List (List Char)) : List Char :=
  [' '].intercalate args

/-- `echo`. -/
def echo (args : List (List Char)) : List Char :=
  echoLine args ++ ['\n']

/-- The lines of a stream. -/
def lines (stream : List Char) : List (List Char) :=
  let parts := stream.splitOn '\n'
  if parts.getLast? = some [] then parts.dropLast else parts

/-- A filter that works line by line. -/
def onLines (filter : List Char → List Char) (stream : List Char) : List Char :=
  (lines stream).flatMap fun line => filter line ++ ['\n']

/-- Command substitution, which removes the newlines at the end. -/
def substitute (output : List Char) : List Char :=
  output.rdropWhile (· = '\n')

/-- `cut -d -f` on one line; a line without the separator is passed on. -/
def cutField (separator : Char) (number : Nat) (line : List Char) : List Char :=
  let fields := line.splitOn separator
  if fields.length = 1 then line else (fields[number - 1]?).getD []

/-- The number of fields that `awk` sees in one line. -/
def fieldCount (line : List Char) : Nat :=
  (words line).length

/-- A word that splitting leaves alone. -/
structure PlainWord (word : List Char) : Prop where
  nonempty : word ≠ []
  noIfs : ∀ character ∈ word, isIfs character = false

section Words

variable {word text rest : List Char} {list : List (List Char)}

theorem words_nil : words [] = [] := by
  simp [words]

theorem PlainWord.words (plain : PlainWord word) : words word = [word] := by
  rw [Text.words, List.splitOnP_eq_singleton plain.noIfs]
  simp [plain.nonempty]

/-- Digits are plain. -/
theorem decimal_plain {number : Nat} {character : Char} (member : character ∈ decimal number) :
    isIfs character = false ∧ character ≠ nul ∧ character.isDigit = true := by
  have digit := Nat.isDigit_of_mem_toDigits (by decide) (by decide) member
  refine ⟨?_, ?_, digit⟩
  · by_contra special
    simp only [isIfs, Bool.not_eq_false, Bool.or_eq_true, decide_eq_true_eq] at special
    rcases special with (rfl | rfl) | rfl
    all_goals contradiction
  · rintro rfl
    contradiction

theorem newline_notMem_decimal (number : Nat) : '\n' ∉ decimal number := by
  intro member
  have plain := (decimal_plain member).1
  contradiction

theorem noIfs_of_mem_splitOnP (member : word ∈ text.splitOnP isIfs) :
    ∀ character ∈ word, isIfs character = false := by
  induction text generalizing word with
  | nil =>
      have empty : word = [] := by simpa using member
      simp [empty]
  | cons first rest ih =>
      rw [List.splitOnP_cons_eq_if_modifyHead] at member
      split at member
      · rcases List.mem_cons.mp member with rfl | later
        · simp
        · exact ih later
      · rename_i inside
        obtain ⟨head, tail, parts⟩ := List.exists_cons_of_ne_nil (List.splitOnP_ne_nil isIfs rest)
        rw [parts, List.modifyHead_cons, List.mem_cons] at member
        rcases member with rfl | later
        · intro character member
          rcases List.mem_cons.mp member with rfl | member
          · simpa using inside
          · exact ih (parts ▸ List.mem_cons_self) character member
        · exact ih (parts ▸ List.mem_cons_of_mem head later)

/-- Splitting leaves the words alone that it has made. -/
theorem plainWord_of_mem_words (member : word ∈ words text) : PlainWord word := by
  obtain ⟨part, nonempty⟩ := List.mem_filter.mp member
  exact ⟨by simpa using nonempty, noIfs_of_mem_splitOnP part⟩

/-- A separator separates. -/
theorem words_append_cons {separator : Char} (separates : isIfs separator = true) :
    words (text ++ separator :: rest) = words text ++ words rest := by
  rw [words, List.splitOnP_append_cons _ _ separates, List.filter_append]
  rfl

theorem words_cons {separator : Char} (separates : isIfs separator = true) :
    words (separator :: rest) = words rest := by
  have split : words ([] ++ separator :: rest) = words [] ++ words rest :=
    words_append_cons separates
  rwa [words_nil, List.nil_append] at split

/-- Separators before a text. -/
theorem words_replicate_append (count : Nat) :
    words (List.replicate count ' ' ++ text) = words text := by
  induction count with
  | zero => rfl
  | succ count ih => rw [List.replicate_succ, List.cons_append, words_cons rfl, ih]

/-- A plain word followed by separators. -/
theorem PlainWord.words_append (plain : PlainWord word) (count : Nat) :
    Text.words (word ++ List.replicate (count + 1) ' ' ++ rest) = word :: Text.words rest := by
  rw [List.replicate_succ, List.append_assoc, List.cons_append, words_append_cons rfl,
    words_replicate_append, plain.words]
  rfl

/-- A blank at the end makes no difference. -/
theorem words_dropLast (last : text.getLast? = some ' ') : words text.dropLast = words text := by
  have split : text.dropLast ++ [' '] = text := List.dropLast_append_getLast? ' ' last
  rw [← split, words_append_cons rfl, words_nil, List.append_nil, List.dropLast_concat]

/-- Command substitution keeps the words. -/
theorem words_substitute (output : List Char) : words (substitute output) = words output := by
  induction output using List.reverseRecOn with
  | nil => rfl
  | append_singleton output last ih =>
      by_cases newline : last = '\n'
      · subst newline
        rw [substitute, List.rdropWhile_concat_pos _ _ _ (by simp), ← substitute, ih,
          words_append_cons rfl, words_nil, List.append_nil]
      · rw [substitute, List.rdropWhile_concat_neg _ _ _ (by simpa using newline)]

/-- Splitting undoes `echo`. -/
theorem words_echoLine (plain : ∀ word ∈ list, PlainWord word) : words (echoLine list) = list := by
  induction list with
  | nil => exact words_nil
  | cons word rest ih =>
      have first := plain word List.mem_cons_self
      cases rest with
      | nil => simpa [echoLine] using first.words
      | cons next rest =>
          have others := ih fun other member => plain other (List.mem_cons_of_mem word member)
          have line : echoLine (word :: next :: rest) = word ++ ' ' :: echoLine (next :: rest) := by
            simp [echoLine]
          rw [line, words_append_cons rfl, first.words, others]
          rfl

/-- `echo` prints one line. -/
theorem newline_notMem_echoLine (plain : ∀ word ∈ list, PlainWord word) :
    '\n' ∉ echoLine list := by
  intro member
  induction list with
  | nil => simp [echoLine] at member
  | cons word rest ih =>
      have first : '\n' ∉ word := by
        intro inside
        have noIfs := (plain word List.mem_cons_self).noIfs _ inside
        contradiction
      cases rest with
      | nil => exact first (by simpa [echoLine] using member)
      | cons next rest =>
          have line : echoLine (word :: next :: rest) = word ++ ' ' :: echoLine (next :: rest) := by
            simp [echoLine]
          rw [line, List.mem_append, List.mem_cons] at member
          rcases member with inside | blank | later
          · exact first inside
          · contradiction
          · exact ih (fun other member => plain other (List.mem_cons_of_mem word member)) later

/-- A stream is cut at every newline. -/
theorem lines_append_cons (first rest : List Char) :
    lines (first ++ '\n' :: rest) = first.splitOn '\n' ++ lines rest := by
  have nonempty := List.splitOn_ne_nil '\n' rest
  simp only [lines, List.splitOn_append_cons_self, List.getLast?_append_of_ne_nil _ nonempty]
  split
  · rw [List.dropLast_append_of_ne_nil nonempty]
  · rfl

/-- A character that is not a newline belongs to the first line. -/
theorem lines_cons {character : Char} (different : character ≠ '\n') :
    lines (character :: text) =
      match lines text with
      | [] => [[character]]
      | line :: rest => (character :: line) :: rest := by
  obtain ⟨first, others, parts⟩ := List.exists_cons_of_ne_nil (List.splitOn_ne_nil '\n' text)
  have split : (character :: text).splitOn '\n' = (character :: first) :: others := by
    rw [List.splitOn_eq_splitOnP, List.splitOnP_cons_eq_if_modifyHead,
      if_neg (by simpa using different), ← List.splitOn_eq_splitOnP, parts]
    rfl
  simp only [lines, split, parts]
  cases others with
  | nil =>
      cases first with
      | nil => rfl
      | cons _ _ => rfl
  | cons next others =>
      simp only [List.getLast?_cons_cons]
      split <;> simp

/-- Lines that have been printed one by one. -/
theorem lines_flatMap_append (single : ∀ line ∈ list, '\n' ∉ line) :
    lines (list.flatMap (· ++ ['\n']) ++ rest) = list ++ lines rest := by
  induction list with
  | nil => rfl
  | cons line list ih =>
      have whole : (line :: list).flatMap (· ++ ['\n']) ++ rest =
          line ++ '\n' :: (list.flatMap (· ++ ['\n']) ++ rest) := by
        simp
      rw [whole, lines_append_cons, List.splitOn_eq_singleton (single line List.mem_cons_self),
        ih fun other member => single other (List.mem_cons_of_mem _ member)]
      rfl

theorem lines_flatMap (single : ∀ line ∈ list, '\n' ∉ line) :
    lines (list.flatMap (· ++ ['\n'])) = list := by
  have whole : lines (list.flatMap (· ++ ['\n']) ++ []) = list ++ lines [] :=
    lines_flatMap_append single
  have nothing : lines [] = [] := rfl
  rwa [List.append_nil, nothing, List.append_nil] at whole

/-- The parts of a text are in it, the first one at its beginning. -/
theorem infix_of_splitOn {first : List Char} (parts : text.splitOn '\n' = first :: list) :
    first <+: text ∧ ∀ line ∈ list, line <:+: text := by
  induction text generalizing first list with
  | nil =>
      cases parts
      exact ⟨List.prefix_refl _, fun line member => absurd member List.not_mem_nil⟩
  | cons character text ih =>
      obtain ⟨head, tail, split⟩ := List.exists_cons_of_ne_nil (List.splitOn_ne_nil '\n' text)
      rcases ih split with ⟨isPrefix, inside⟩
      rw [List.splitOn_eq_splitOnP, List.splitOnP_cons_eq_if_modifyHead,
        ← List.splitOn_eq_splitOnP, split] at parts
      split at parts
      · cases parts
        refine ⟨List.nil_prefix, fun line member => ?_⟩
        rcases List.mem_cons.mp member with rfl | later
        · exact isPrefix.isInfix.trans (List.suffix_cons _ _).isInfix
        · exact (inside line later).trans (List.suffix_cons _ _).isInfix
      · cases parts
        refine ⟨List.cons_prefix_cons.mpr ⟨rfl, isPrefix⟩, fun line member => ?_⟩
        exact (inside line member).trans (List.suffix_cons _ _).isInfix

theorem infix_of_mem_splitOn (member : word ∈ text.splitOn '\n') : word <:+: text := by
  obtain ⟨first, others, parts⟩ := List.exists_cons_of_ne_nil (List.splitOn_ne_nil '\n' text)
  rcases infix_of_splitOn parts with ⟨isPrefix, inside⟩
  rw [parts] at member
  rcases List.mem_cons.mp member with rfl | later
  · exact isPrefix.isInfix
  · exact inside word later

theorem infix_of_mem_lines (member : word ∈ lines text) : word <:+: text := by
  rw [lines] at member
  split at member
  · exact infix_of_mem_splitOn (List.dropLast_subset _ member)
  · exact infix_of_mem_splitOn member

/-- Words that have been printed line by line. -/
theorem words_flatMap (plain : ∀ word ∈ list, PlainWord word) :
    words (list.flatMap (· ++ ['\n'])) = list := by
  induction list with
  | nil => exact words_nil
  | cons word list ih =>
      have whole : (word :: list).flatMap (· ++ ['\n']) =
          word ++ '\n' :: list.flatMap (· ++ ['\n']) := by
        simp
      rw [whole, words_append_cons rfl, (plain word List.mem_cons_self).words,
        ih fun other member => plain other (List.mem_cons_of_mem _ member)]
      rfl

theorem lines_line (single : '\n' ∉ text) : lines (text ++ ['\n']) = [text] := by
  rw [lines_append_cons, List.splitOn_eq_singleton single]
  rfl

/-- A filter on one line. -/
theorem onLines_line (filter : List Char → List Char) (single : '\n' ∉ text) :
    onLines filter (text ++ ['\n']) = filter text ++ ['\n'] := by
  rw [onLines, lines_line single]
  simp

/-- The substitution of one line. -/
theorem substitute_line (single : '\n' ∉ text) : substitute (text ++ ['\n']) = text := by
  rw [substitute, List.rdropWhile_concat_pos _ _ _ (by simp), List.rdropWhile_eq_self_iff]
  intro nonempty
  have last := List.getLast_mem nonempty
  simp only [decide_eq_true_eq]
  exact fun isNewline => single (isNewline ▸ last)

/-- The first field that `cut` finds. -/
theorem cutField_one_append {separator : Char} (absent : separator ∉ text) :
    cutField separator 1 (text ++ separator :: rest) = text := by
  rw [cutField, List.splitOn_append_cons_self_of_not_mem absent]
  simp [List.splitOn_ne_nil]

/-- What `cut` makes of a line of `echo`: behind the last of several words it finds nothing,
but a single word is passed on whatever field is asked for. -/
theorem cutField_echoLine_eq (plain : ∀ word ∈ list, PlainWord word) (number : Nat) :
    cutField ' ' number (echoLine list) =
      if list.length = 1 then list.headD [] else (list[number - 1]?).getD [] := by
  cases list with
  | nil => rfl
  | cons first others =>
      have noBlank : ∀ word ∈ first :: others, ' ' ∉ word := by
        intro word member inside
        have noIfs := (plain word member).noIfs _ inside
        contradiction
      have fields : (echoLine (first :: others)).splitOn ' ' = first :: others :=
        List.splitOn_intercalate ' ' noBlank (List.cons_ne_nil _ _)
      rw [cutField, fields]
      cases others with
      | nil => simp [echoLine]
      | cons second others => rfl

/-- `cut` finds the words that `echo` has printed. -/
theorem cutField_echoLine {i : Nat} (plain : ∀ word ∈ list, PlainWord word)
    (found : list[i]? = some word) : cutField ' ' (i + 1) (echoLine list) = word := by
  rw [cutField_echoLine_eq plain]
  split
  · rename_i single
    rcases List.length_eq_one_iff.mp single with ⟨only, rfl⟩
    rcases List.getElem?_eq_some_iff.mp found with ⟨bound, rfl⟩
    have zero : i = 0 := by simpa using bound
    subst zero
    rfl
  · simp [found]

theorem substitute_cut_echo (plain : ∀ word ∈ list, PlainWord word) (number : Nat) :
    substitute (onLines (cutField ' ' number) (echo list)) =
      if list.length = 1 then list.headD [] else (list[number - 1]?).getD [] := by
  have noNewline : ∀ word ∈ list, '\n' ∉ word := by
    intro word member inside
    have noIfs := (plain word member).noIfs _ inside
    contradiction
  rw [echo, onLines_line _ (newline_notMem_echoLine plain), cutField_echoLine_eq plain]
  apply substitute_line
  split
  · cases list with
    | nil => exact List.not_mem_nil
    | cons first others => exact noNewline first List.mem_cons_self
  · cases found : list[number - 1]? with
    | none => exact List.not_mem_nil
    | some word => exact noNewline word (List.mem_of_getElem? found)

end Words

end McKernelTest.Text
