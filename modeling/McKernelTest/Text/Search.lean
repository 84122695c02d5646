import McKernelTest.Machine.Word
import McKernelTest.Text.Format
import McKernelTest.Text.Numeral
import Mathlib.Data.List.Infix

/-!
# Reading lines and searching in them

`fgets` takes a line from a stream, or as much of it as the buffer can hold.  The search
functions return the rest of the text from the place that they have found.
-/

namespace McKernelTest.Text

/-! ## Lines -/

/-- At most `count` characters of a stream up to the end of its first line, and the rest
of the stream. -/
def readLine : Nat → List Char → List Char × List Char
  | 0, stream => ([], stream)
  | _ + 1, [] => ([], [])
  | count + 1, character :: stream =>
      if character = '\n' then ([character], stream)
      else
        let (line, rest) := readLine count stream
        (character :: line, rest)

/-- `fgets` with a buffer of the given size.  At the end of the stream it returns `NULL`. -/
def fgets (size : Nat) (stream : List Char) : Option (List Char × List Char) :=
  if stream = [] then none else some (readLine (size - 1) stream)

theorem readLine_line {count : Nat} {line rest : List Char} (single : '\n' ∉ line)
    (fits : line.length < count) :
    readLine count (line ++ '\n' :: rest) = (line ++ ['\n'], rest) := by
  induction line generalizing count with
  | nil =>
      cases count with
      | zero => cases fits
      | succ count => rfl
  | cons character line ih =>
      cases count with
      | zero => cases fits
      | succ count =>
          have different : character ≠ '\n' := fun same => single (same ▸ List.mem_cons_self)
          have later := ih (fun member => single (List.mem_cons_of_mem _ member))
            (Nat.lt_of_succ_lt_succ fits)
          rw [List.cons_append, readLine, if_neg different, later]
          rfl

/-- A line that fits in the buffer is read as a whole. -/
theorem fgets_line {size : Nat} {line rest : List Char} (single : '\n' ∉ line)
    (fits : line.length < size - 1) :
    fgets size (line ++ '\n' :: rest) = some (line ++ ['\n'], rest) := by
  rw [fgets, if_neg (by simp), readLine_line single fits]

theorem readLine_length_le (count : Nat) (stream : List Char) :
    (readLine count stream).2.length ≤ stream.length := by
  induction count generalizing stream with
  | zero => exact Nat.le_refl _
  | succ count ih =>
      cases stream with
      | nil => exact Nat.le_refl _
      | cons character stream =>
          rw [readLine]
          split
          · exact Nat.le_succ _
          · exact (ih stream).trans (Nat.le_succ _)

/-- There is less to read after every line, as long as the buffer can hold a character. -/
theorem fgets_length_lt {size : Nat} {stream line rest : List Char} (holds : 1 < size)
    (read : fgets size stream = some (line, rest)) : rest.length < stream.length := by
  cases stream with
  | nil => cases read
  | cons character stream =>
      obtain ⟨count, same⟩ : ∃ count, size - 1 = count + 1 := ⟨size - 2, by omega⟩
      rw [fgets, if_neg (List.cons_ne_nil _ _), same, readLine] at read
      split at read
      · cases read
        exact Nat.lt_succ_self _
      · cases read
        exact Nat.lt_succ_of_le (readLine_length_le count stream)

/-! ## Searches -/

/-- `strstr`. -/
def strstr (text key : List Char) : Option (List Char) :=
  match text with
  | [] => if key = [] then some [] else none
  | character :: rest =>
      if key.isPrefixOf (character :: rest) then some (character :: rest) else strstr rest key

/-- `strrchr`. -/
def strrchr (text : List Char) (wanted : Char) : Option (List Char) :=
  match text with
  | [] => none
  | character :: rest =>
      match strrchr rest wanted with
      | some found => some found
      | none => if character = wanted then some (character :: rest) else none

variable {text front back key : List Char} {wanted : Char}

theorem isSome_strstr : (strstr text key).isSome = true ↔ key <:+: text := by
  induction text with
  | nil =>
      rw [strstr, List.infix_nil]
      split <;> simp_all
  | cons character rest ih =>
      rw [strstr, List.infix_cons_iff, ← ih, ← List.isPrefixOf_iff_prefix]
      split <;> simp_all

theorem strrchr_eq_none (absent : wanted ∉ text) : strrchr text wanted = none := by
  induction text with
  | nil => rfl
  | cons character rest ih =>
      have different : character ≠ wanted := fun same => absent (same ▸ List.mem_cons_self)
      rw [strrchr, ih fun member => absent (List.mem_cons_of_mem _ member)]
      exact if_neg different

/-- The last occurrence is the one with none behind it. -/
theorem strrchr_append (absent : wanted ∉ back) :
    strrchr (front ++ wanted :: back) wanted = some (wanted :: back) := by
  induction front with
  | nil =>
      rw [List.nil_append, strrchr, strrchr_eq_none absent]
      exact if_pos rfl
  | cons character front ih => rw [List.cons_append, strrchr, ih]

/-- A text whose last character is not in the rest of a line is found in front of the rest. -/
theorem infix_of_infix_append (ends : ∀ last, key.getLast? = some last → last ∉ back)
    (isInfix : key <:+: front ++ back) : key <:+: front := by
  induction back using List.reverseRecOn with
  | nil => rwa [List.append_nil] at isInfix
  | append_singleton back character ih =>
      rw [← List.append_assoc] at isInfix
      rcases List.infix_concat_iff.mp isInfix with isSuffix | inside
      · rcases List.suffix_concat_iff.mp isSuffix with rfl | ⟨stem, rfl, -⟩
        · exact List.nil_infix
        · exact absurd (by simp) (ends character (by simp))
      · exact ih (fun last isLast member => ends last isLast (List.mem_append_left _ member)) inside

/-! ## Numbers -/

theorem takeWhile_isDigit_decimal (number : Nat) {rest : List Char}
    (stops : rest.takeWhile Char.isDigit = []) :
    (decimal number ++ rest).takeWhile Char.isDigit = decimal number := by
  rw [List.takeWhile_append_of_pos, stops, List.append_nil]
  exact fun character member => Nat.isDigit_of_mem_toDigits (by decide) (by decide) member

theorem dropWhile_isDigit_decimal (number : Nat) {rest : List Char}
    (stops : rest.takeWhile Char.isDigit = []) :
    (decimal number ++ rest).dropWhile Char.isDigit = rest := by
  rw [List.dropWhile_append_of_pos]
  · cases rest with
    | nil => rfl
    | cons next rest =>
        apply List.dropWhile_cons_of_neg
        intro digit
        rw [List.takeWhile_cons_of_pos digit] at stops
        cases stops
  · exact fun character member => Nat.isDigit_of_mem_toDigits (by decide) (by decide) member

/-- A printed number has no sign. -/
theorem readSign_decimal (number : Nat) (rest : List Char) :
    readSign ((decimal number ++ rest).dropWhile isSpace) = (false, decimal number ++ rest) := by
  obtain ⟨first, others, isFirst⟩ := List.exists_cons_of_ne_nil
    (Nat.toDigits_ne_nil : Nat.toDigits 10 number ≠ [])
  have digit : first.isDigit = true :=
    Nat.isDigit_of_mem_toDigits (by decide) (by decide) (isFirst ▸ List.mem_cons_self)
  rw [decimal, isFirst]
  exact readSign_of_isDigit digit

/-- `strtol` reads back a number that is followed by something else. -/
theorem strtol_decimal_cons {number : Nat} {next : Char} (notDigit : next.isDigit = false)
    (small : number < 2 ^ 63) (rest : List Char) :
    strtol (decimal number ++ next :: rest) = number := by
  have stops : (next :: rest).takeWhile Char.isDigit = [] :=
    List.takeWhile_cons_of_neg (by simp [notDigit])
  have fits : (number : Int) ≤ longMax := by
    rw [longMax]
    omega
  rw [strtol, readSign_decimal]
  change min (Nat.ofDigitChars 10 ((decimal number ++ next :: rest).takeWhile Char.isDigit) 0 : Int)
    longMax = number
  rw [takeWhile_isDigit_decimal number stops, decimal, Nat.ofDigitChars_ten_toDigits]
  exact Int.min_eq_left fits

/-- `atoi` reads back an `unsigned int` if its result is taken as one again. -/
theorem toUint_atoi_decimal_cons {number : Nat} {next : Char} (notDigit : next.isDigit = false)
    (small : number < 2 ^ 32) (rest : List Char) :
    Machine.toUint (atoi (decimal number ++ next :: rest)) = number := by
  have same : (number : Int).bmod (2 ^ 32) % 2 ^ 32 = number % 2 ^ 32 := Int.bmod_emod
  rw [atoi, strtol_decimal_cons notDigit (by omega), Machine.toInt, Machine.toUint, same]
  omega

end McKernelTest.Text
