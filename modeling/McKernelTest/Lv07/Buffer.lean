import McKernelTest.Lv07.Core
import McKernelTest.Machine.Memory

/-!
# The buffer of `read_write`

Both versions of `read_write` put a tag and a colon in front of what `fread` has read, and a
NUL behind it.  `fread` may fill the buffer up to its end, and then the NUL is written behind
it.
-/

namespace McKernelTest.Lv07

open Machine

/-- The two programs with a `read_write`. -/
inductive Version where
  | singleThread
  | pthread
  deriving DecidableEq, Repr

/-- `sizeof(buf)`. -/
def bufSize : Nat := 256

/-- The byte in front of the colon. -/
def Version.tag : Version → Nat → UInt8
  | .singleThread, num => UInt8.ofNat (48 + num)
  | .pthread, num => tagByte num

/-- What `fread` reads from a file. -/
def freadData (content : List UInt8) : List UInt8 :=
  content.take (bufSize - 2)

/-- The stores to `buf` with their indices. -/
def bufStores (version : Version) (num : Nat) (content : List UInt8) : List (UInt8 × Nat) :=
  let cnt := (freadData content).length
  [(version.tag num, 0), (58, 1)] ++ (freadData content).zipIdx 2 ++ [(0, cnt + 2)]

/-- All stores are inside the buffer, and the text that is printed is the tag, a colon and
the beginning of the file. -/
structure BufferSafe (version : Version) (num : Nat) (content : List UInt8) : Prop where
  inside : ∀ store ∈ bufStores version num content, store.2 < bufSize
  printed : ∀ stack : Memory, (stack.storeAll (bufStores version num content)).HasText 0
    (version.tag num :: 58 :: (content.take (bufSize - 2)).takeWhile (· ≠ 0))
  letter : version = .pthread → 65 ≤ version.tag num ∧ version.tag num ≤ 90

section Stores

variable {version : Version} {num : Nat} {content : List UInt8}

/-- The stores go through the buffer from its beginning on. -/
theorem bufStores_eq :
    bufStores version num content =
      (version.tag num :: 58 :: freadData content ++ [0]).zipIdx 0 := by
  simp [bufStores, List.zipIdx_append, Nat.add_comm]

theorem hasText_bufStores (version : Version) (num : Nat) (content : List UInt8) (stack : Memory) :
    (stack.storeAll (bufStores version num content)).HasText 0
      ((version.tag num :: 58 :: freadData content).takeWhile (· ≠ 0)) := by
  rw [bufStores_eq]
  exact Memory.hasText_storeAll _

theorem takeWhile_concat_zero (bytes : List UInt8) :
    (bytes ++ [0]).takeWhile (· ≠ 0) = bytes.takeWhile (· ≠ 0) := by
  induction bytes with
  | nil => rfl
  | cons byte bytes ih => rw [List.cons_append, List.takeWhile_cons, List.takeWhile_cons, ih]

/-- The text that a thread prints is the one in its buffer. -/
theorem hasText_bufText (num : Nat) (content : List UInt8) (stack : Memory) :
    (stack.storeAll (bufStores .pthread num content)).HasText 0
      (bufText num (freadData content)) := by
  rw [bufText, takeWhile_concat_zero]
  exact hasText_bufStores .pthread num content stack

theorem tagByte_bounds (num : Nat) : 65 ≤ tagByte num ∧ tagByte num ≤ 90 := by
  have small : num % 26 < 26 := Nat.mod_lt num (by decide)
  have value : (tagByte num).toNat = 65 + num % 26 := by
    rw [tagByte, UInt8.toNat_ofNat']
    omega
  rw [UInt8.le_iff_toNat_le, UInt8.le_iff_toNat_le, value]
  constructor
  · exact Nat.le_add_right 65 _
  · change 65 + num % 26 ≤ 90
    omega

theorem tag_ne_zero_iff :
    version.tag num ≠ 0 ↔ (version = .singleThread → (48 + num) % 256 ≠ 0) := by
  cases version with
  | singleThread =>
      rw [Ne, ← UInt8.toNat_inj, Version.tag, UInt8.toNat_ofNat']
      simp
  | pthread =>
      have least := (tagByte_bounds num).1
      have nonzero : tagByte num ≠ 0 := by
        intro zero
        rw [zero] at least
        exact absurd least (by decide)
      simp [Version.tag, nonzero]

/-- The last store is the one of the NUL. -/
theorem inside_iff :
    (∀ store ∈ bufStores version num content, store.2 < bufSize) ↔
      content.length < bufSize - 2 := by
  have count : (freadData content).length = min (bufSize - 2) content.length := List.length_take
  have size : bufSize = 256 := rfl
  constructor
  · intro inside
    have last := inside (0, (freadData content).length + 2) (by simp [bufStores])
    simp only [count, size] at last ⊢
    omega
  · intro short store member
    rw [bufStores_eq] at member
    have bound := (List.mem_zipIdx member).2.1
    simp only [List.length_append, List.length_cons, List.length_nil, count, size] at bound short ⊢
    omega

theorem printed_iff (stack : Memory) :
    (stack.storeAll (bufStores version num content)).HasText 0
      (version.tag num :: 58 :: (content.take (bufSize - 2)).takeWhile (· ≠ 0)) ↔
      version.tag num ≠ 0 := by
  constructor
  · exact And.left
  · intro nonzero
    have printed := hasText_bufStores version num content stack
    rw [List.takeWhile_cons_of_pos (by simpa using nonzero),
      List.takeWhile_cons_of_pos (by decide)] at printed
    exact printed

end Stores

/-- The buffer is large enough for files of less than 254 bytes.  In the version without
threads the tag must not be NUL. -/
theorem buffer_safe_iff (version : Version) (num : Nat) (content : List UInt8) :
    BufferSafe version num content ↔
      content.length < 254 ∧ (version = .singleThread → (48 + num) % 256 ≠ 0) := by
  rw [← tag_ne_zero_iff]
  constructor
  · intro safe
    exact ⟨inside_iff.mp safe.inside, (printed_iff fun _ => 0).mp (safe.printed _)⟩
  · rintro ⟨short, nonzero⟩
    refine ⟨inside_iff.mpr short, fun stack => (printed_iff stack).mpr nonzero, ?_⟩
    rintro rfl
    exact tagByte_bounds num

/-- A file of 254 bytes puts the NUL behind the buffer. -/
theorem long_file_overflows : ¬BufferSafe .pthread 0 (List.replicate 254 97) := by
  intro safe
  have short := inside_iff.mp safe.inside
  rw [List.length_replicate] at short
  exact absurd short (by decide)

end McKernelTest.Lv07
