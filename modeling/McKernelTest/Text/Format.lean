import Mathlib.Data.List.Basic

/-!
# Formatted output into character buffers

C texts are lists of characters, and a character array is a list that is long
enough to hold the text and its terminating NUL.  `snprintf` is split as in C:
the formatted text is produced first, then as much of it as the size argument
allows is stored, and the length of the whole text is returned.
-/

namespace McKernelTest.Text

/-- The terminator of a C text. -/
def nul : Char :=
  Char.ofNat 0

/-- The conversion `%d` of a nonnegative number. -/
def decimal (number : Nat) : List Char :=
  Nat.toDigits 10 number

/-- The conversion `%d`. -/
def decimalInt : Int → List Char
  | .ofNat number => decimal number
  | .negSucc number => '-' :: decimal (number + 1)

/-- Right justification, as in `%3d`. -/
def padLeft (width : Nat) (text : List Char) : List Char :=
  List.replicate (width - text.length) ' ' ++ text

/-- Right justification with zeros, as in `%010d`. -/
def padZero (width : Nat) (text : List Char) : List Char :=
  List.replicate (width - text.length) '0' ++ text

/-- Left justification, as in `%-3d`. -/
def padRight (width : Nat) (text : List Char) : List Char :=
  text ++ List.replicate (width - text.length) ' '

/-- Store `chars` from `position` on. -/
def store (buffer : List Char) (position : Nat) (chars : List Char) : List Char :=
  buffer.take position ++ chars ++ buffer.drop (position + chars.length)

/-- Store the formatted `text` at `position` of `buffer`, writing at most
`size` characters with the terminator included.  The second component is the
length that the text would have had without the limit. -/
def snprintf (buffer : List Char) (position size : Nat) (text : List Char) :
    List Char × Nat :=
  (if size = 0 then buffer
    else store buffer position (text.take (size - 1) ++ [nul]),
    text.length)

/-- The C text that starts at the front of a buffer. -/
def cString (buffer : List Char) : List Char :=
  buffer.takeWhile (· ≠ nul)

@[simp]
theorem store_length {buffer chars : List Char} {position : Nat}
    (fits : position + chars.length ≤ buffer.length) :
    (store buffer position chars).length = buffer.length := by
  simp only [store, List.length_append, List.length_take, List.length_drop]
  omega

@[simp]
theorem cString_nul_cons (rest : List Char) : cString (nul :: rest) = [] := by
  simp [cString]

theorem cString_append {text : List Char} (rest : List Char) (noNul : nul ∉ text) :
    cString (text ++ rest) = text ++ cString rest := by
  apply List.takeWhile_append_of_pos
  intro character member
  simp only [decide_eq_true_eq]
  rintro rfl
  exact noNul member

/-- The text in front of the zeros of a buffer. -/
theorem cString_append_zeros {text : List Char} (zeros : Nat) (noNul : nul ∉ text) :
    cString (text ++ List.replicate zeros nul) = text := by
  rw [cString_append _ noNul]
  cases zeros with
  | zero => simp [cString]
  | succ zeros => simp [List.replicate_succ]

end McKernelTest.Text
