import McKernelTest.Machine.Word
import McKernelTest.Posix.File
import McKernelTest.Text.Numeral

/-!
# Temporary files of a given size

`test_mck_create_temp_file` makes a file of a given size by writing one byte at
its end.  The offset that `lseek` returns passes through an `int`, where -1 stands
for a failure; the offset just below a multiple of `2 ^ 32` becomes -1 there.
-/

namespace McKernelTest.TestApp

open Text Machine Posix

/-- The outcomes of the calls of `test_mck_create_temp_file`.  `mkstemp` yields the
characters that replace `XXXXXX`. -/
structure TempFileCalls where
  asprintf : Bool
  mkstemp : Option (List Char)
  lseek : Bool
  write : Bool
  fsync : Bool
  close : Bool

/-- The path that is made of the prefix and the characters that `mkstemp` chooses. -/
def tempPath (pathPrefix chosen : List Char) : List Char :=
  pathPrefix ++ ['-'] ++ chosen

/-- `mkstemp`: the path and the file system with the new file, or nothing. -/
def mkstemp (files : FileSystem) (pathPrefix : List Char) (outcome : Option (List Char)) :
    Option (List Char × FileSystem) :=
  outcome.bind fun chosen =>
    (files.create (tempPath pathPrefix chosen)).map fun files => (tempPath pathPrefix chosen, files)

/-- The offset argument of `lseek`: `size-1` as a `size_t`, converted to `off_t`. -/
def endOffset (size : Nat) : Int :=
  toLong (toUlong ((size : Int) - 1))

/-- The result of `lseek` as it is stored in `state`. -/
def lseekState (result : Option Nat) : Int :=
  match result with
  | none => -1
  | some offset => toInt offset

/-- `test_mck_create_temp_file`.  `fsync` and `close` do not change the file. -/
def testMckCreateTempFile (calls : TempFileCalls) (files : FileSystem) (pathPrefix : List Char)
    (size : Nat) : Option (List Char) × FileSystem :=
  if calls.asprintf then
    match mkstemp files pathPrefix calls.mkstemp with
    | none => (none, files)
    | some (path, files) =>
        let state := lseekState (lseek calls.lseek (endOffset size))
        if state = -1 then
          (none, files.unlink path)
        else
          let files :=
            if calls.write then files.write path (endOffset size).toNat 'Z' else files
          (some path, files)
  else
    (none, files)

/-- `test_mck_delete_temp_file`. -/
def testMckDeleteTempFile (files : FileSystem) (path : Option (List Char)) : FileSystem :=
  match path with
  | none => files
  | some path => files.unlink path

/-- All calls of the function succeed; `lseek` returns the offset it was given. -/
structure CallsSucceed (calls : TempFileCalls) (files : FileSystem) (pathPrefix : List Char)
    (size : Nat) : Prop where
  asprintf : calls.asprintf = true
  mkstemp : (mkstemp files pathPrefix calls.mkstemp).isSome
  lseek : lseek calls.lseek (endOffset size) = some (size - 1)
  write : calls.write = true
  fsync : calls.fsync = true
  close : calls.close = true

/-- What the function promises: a file of the given size that ends in `Z` if no call
fails, and no new file if it returns NULL. -/
structure TempFileCorrect (calls : TempFileCalls) (files : FileSystem) (pathPrefix : List Char)
    (size : Nat) : Prop where
  created : CallsSucceed calls files pathPrefix size →
    ∃ path file, (testMckCreateTempFile calls files pathPrefix size).1 = some path ∧
      (testMckCreateTempFile calls files pathPrefix size).2 path = some file ∧
      file.size = size ∧ file.byte (size - 1) = 'Z'
  noTrace : (testMckCreateTempFile calls files pathPrefix size).1 = none →
    (testMckCreateTempFile calls files pathPrefix size).2 = files

section

variable {calls : TempFileCalls} {files : FileSystem} {pathPrefix : List Char} {size : Nat}

/-- Which offsets are taken for a failure. -/
theorem toInt_eq_neg_one_iff (offset : Nat) :
    toInt offset = -1 ↔ (offset + 1) % 2 ^ 32 = 0 := by
  rw [toInt, Int.bmod_def]
  split <;> omega

theorem mkstemp_eq_some {outcome : Option (List Char)} {path : List Char} {created : FileSystem}
    (made : mkstemp files pathPrefix outcome = some (path, created)) :
    files.create path = some created := by
  rcases Option.bind_eq_some_iff.mp made with ⟨chosen, _, created⟩
  rcases Option.map_eq_some_iff.mp created with ⟨_, new, equal⟩
  cases equal
  exact new

/-- A seek that returns the offset it was given. -/
theorem endOffset_of_lseek (sought : lseek calls.lseek (endOffset size) = some (size - 1)) :
    0 < size ∧ (endOffset size).toNat = size - 1 := by
  rcases Option.ite_none_right_eq_some.mp sought with ⟨⟨_, nonneg⟩, equal⟩
  refine ⟨Nat.pos_of_ne_zero ?_, Option.some.inj equal⟩
  rintro rfl
  exact absurd nonneg (by decide)

/-- The result when everything before the seek succeeds. -/
theorem testMckCreateTempFile_of_made {path : List Char} {created : FileSystem}
    (printed : calls.asprintf = true)
    (made : mkstemp files pathPrefix calls.mkstemp = some (path, created)) :
    testMckCreateTempFile calls files pathPrefix size =
      if lseekState (lseek calls.lseek (endOffset size)) = -1 then (none, files)
      else (some path,
        if calls.write then created.write path (endOffset size).toNat 'Z' else created) := by
  simp only [testMckCreateTempFile, printed, if_true, made,
    FileSystem.unlink_of_create (mkstemp_eq_some made)]

/-- A failing call leaves no file behind. -/
theorem testMckCreateTempFile_noTrace
    (failed : (testMckCreateTempFile calls files pathPrefix size).1 = none) :
    (testMckCreateTempFile calls files pathPrefix size).2 = files := by
  by_cases printed : calls.asprintf = true
  · cases made : mkstemp files pathPrefix calls.mkstemp with
    | none => simp [testMckCreateTempFile, printed, made]
    | some result =>
        rw [testMckCreateTempFile_of_made printed made] at failed ⊢
        split at failed
        · rename_i refused
          rw [if_pos refused]
        · cases failed
  · simp [testMckCreateTempFile, printed]

/-- A file of the given size is created when the offset is not taken for a failure. -/
theorem testMckCreateTempFile_created (succeed : CallsSucceed calls files pathPrefix size)
    (distinct : size % 2 ^ 32 ≠ 0) :
    ∃ path file, (testMckCreateTempFile calls files pathPrefix size).1 = some path ∧
      (testMckCreateTempFile calls files pathPrefix size).2 path = some file ∧
      file.size = size ∧ file.byte (size - 1) = 'Z' := by
  obtain ⟨⟨path, created⟩, made⟩ := Option.isSome_iff_exists.mp succeed.mkstemp
  obtain ⟨positive, offset⟩ := endOffset_of_lseek succeed.lseek
  have accepted : lseekState (some (size - 1)) ≠ -1 := by
    rw [lseekState, ne_eq, toInt_eq_neg_one_iff, Nat.sub_add_cancel positive]
    exact distinct
  have new := FileSystem.create_self (mkstemp_eq_some made)
  rw [testMckCreateTempFile_of_made succeed.asprintf made, succeed.lseek, if_neg accepted,
    succeed.write, offset]
  refine ⟨path, File.empty.write (size - 1) 'Z', rfl, ?_, ?_, ?_⟩
  · simp [FileSystem.write, new]
  · simp only [File.write, File.empty]
    omega
  · simp [File.write]

/-- Creating a file and deleting it again leaves the file system as it was, whatever
fails in between. -/
theorem testMckDeleteTempFile_create :
    testMckDeleteTempFile (testMckCreateTempFile calls files pathPrefix size).2
      (testMckCreateTempFile calls files pathPrefix size).1 = files := by
  by_cases printed : calls.asprintf = true
  · cases made : mkstemp files pathPrefix calls.mkstemp with
    | none => simp [testMckCreateTempFile, testMckDeleteTempFile, printed, made]
    | some result =>
        have removed := FileSystem.unlink_of_create (mkstemp_eq_some made)
        rw [FileSystem.unlink] at removed
        rw [testMckCreateTempFile_of_made printed made]
        split
        · rfl
        · by_cases written : calls.write = true
          · simp [testMckDeleteTempFile, written, FileSystem.unlink, FileSystem.write, removed]
          · simp [testMckDeleteTempFile, written, FileSystem.unlink, removed]
  · simp [testMckCreateTempFile, testMckDeleteTempFile, printed]

end

/-- The function keeps its promise exactly if some call fails or the size is not a
multiple of `2 ^ 32`. -/
theorem tempFile_correct_iff (calls : TempFileCalls) (files : FileSystem)
    (pathPrefix : List Char) (size : Nat) :
    TempFileCorrect calls files pathPrefix size ↔
      ¬(CallsSucceed calls files pathPrefix size ∧ size % 2 ^ 32 = 0) := by
  constructor
  · rintro correct ⟨succeed, multiple⟩
    obtain ⟨path, file, returned, -⟩ := correct.created succeed
    obtain ⟨⟨made, created⟩, isMade⟩ := Option.isSome_iff_exists.mp succeed.mkstemp
    have positive := (endOffset_of_lseek succeed.lseek).1
    have refused : lseekState (some (size - 1)) = -1 := by
      rw [lseekState, toInt_eq_neg_one_iff, Nat.sub_add_cancel positive]
      exact multiple
    rw [testMckCreateTempFile_of_made succeed.asprintf isMade, succeed.lseek, if_pos refused]
      at returned
    cases returned
  · intro condition
    refine ⟨fun succeed => ?_, testMckCreateTempFile_noTrace⟩
    exact testMckCreateTempFile_created succeed fun multiple => condition ⟨succeed, multiple⟩

/-- Calls that all succeed. -/
def willingCalls : TempFileCalls :=
  ⟨true, some "a1b2c3".toList, true, true, true, true⟩

/-- A file of 4 GiB cannot be made. -/
theorem four_gibibytes_refused :
    CallsSucceed willingCalls (fun _ => none) "/tmp/data".toList (2 ^ 32) ∧
      (testMckCreateTempFile willingCalls (fun _ => none) "/tmp/data".toList (2 ^ 32)).1 = none ∧
      ¬TempFileCorrect willingCalls (fun _ => none) "/tmp/data".toList (2 ^ 32) := by
  have succeed : CallsSucceed willingCalls (fun _ => none) "/tmp/data".toList (2 ^ 32) :=
    ⟨rfl, rfl, by decide, rfl, rfl, rfl⟩
  have returned : (testMckCreateTempFile willingCalls (fun _ => none) "/tmp/data".toList
      (2 ^ 32)).1 = none := by
    decide
  refine ⟨succeed, returned, fun correct => ?_⟩
  obtain ⟨path, file, some, -⟩ := correct.created succeed
  rw [returned] at some
  cases some

end McKernelTest.TestApp
