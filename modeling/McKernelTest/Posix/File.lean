import McKernelTest.Text.Format
import Mathlib.Logic.Function.Basic

/-!
# Regular files

A file is its size and its bytes, so that a file of any size can be written down.
A file system gives the file behind a path, if there is one.
-/

namespace McKernelTest.Posix

/-- The contents of a regular file. -/
structure File where
  size : Nat
  byte : Nat → Char

/-- A file that has just been created. -/
def File.empty : File :=
  ⟨0, fun _ => Text.nul⟩

/-- Write one byte at an offset.  The gap behind the old end reads as zeros. -/
def File.write (file : File) (offset : Nat) (char : Char) : File where
  size := max file.size (offset + 1)
  byte := fun index =>
    if index = offset then char else if index < file.size then file.byte index else Text.nul

/-- The files by their paths. -/
abbrev FileSystem := List Char → Option File

/-- `open` with `O_CREAT` and `O_EXCL`: a path that exists is refused. -/
def FileSystem.create (files : FileSystem) (path : List Char) : Option FileSystem :=
  if (files path).isNone then some (Function.update files path (some File.empty)) else none

/-- `unlink` of a file that the caller may remove. -/
def FileSystem.unlink (files : FileSystem) (path : List Char) : FileSystem :=
  Function.update files path none

/-- `write` of one byte to an open file at an offset. -/
def FileSystem.write (files : FileSystem) (path : List Char) (offset : Nat) (char : Char) :
    FileSystem :=
  Function.update files path ((files path).map (·.write offset char))

/-- `lseek` from the beginning of the file.  It refuses negative offsets. -/
def lseek (succeeds : Bool) (offset : Int) : Option Nat :=
  if succeeds = true ∧ 0 ≤ offset then some offset.toNat else none

/-- Removing a file that has just been created leaves no trace of it. -/
theorem FileSystem.unlink_of_create {files created : FileSystem} {path : List Char}
    (new : files.create path = some created) : created.unlink path = files := by
  rcases Option.ite_none_right_eq_some.mp new with ⟨absent, ⟨⟩⟩
  rw [unlink, Function.update_idem, Function.update_eq_self_iff]
  exact (Option.isNone_iff_eq_none.mp absent).symm

theorem FileSystem.create_self {files created : FileSystem} {path : List Char}
    (new : files.create path = some created) : created path = some File.empty := by
  rcases Option.ite_none_right_eq_some.mp new with ⟨_, ⟨⟩⟩
  exact Function.update_self _ _ _

end McKernelTest.Posix
