import McKernelTest.Text.Search
import McKernelTest.Text.Shell

/-!
# Reading the file-system ids from `/proc/<pid>/status`

`check_procfs_status_uid` and `check_procfs_status_gid` compare an id with the last number
on the first line of the file that contains `Uid:` or `Gid:`.  The two functions differ in
this key only.
-/

namespace McKernelTest.Setfsid

open Machine Text

/-- `FREAD_BUF_SIZE`. -/
def freadBufSize : Nat := 1024

/-- What the functions get from the system: the process id, the texts of the files that can
be opened, and the result of `fclose`. -/
structure Environment where
  pid : Int
  fopen : List Char → Option (List Char)
  fclose : Int

/-- What a function prints and returns. -/
structure Outcome where
  stdout : List Char
  stderr : List Char
  value : Int
  deriving DecidableEq, Repr

/-- The name of the file, which fits in the buffer. -/
def fnameOf (pid : Int) : List Char :=
  "/proc/".toList ++ decimalInt pid ++ "/status".toList

/-- The loop: the first text in the buffer that contains the key. -/
def findLine (key stream : List Char) : Option (List Char) :=
  match _ : fgets freadBufSize stream with
  | none => none
  | some (line, rest) =>
      let buf := cString line
      if (strstr buf key).isSome then some buf else findLine key rest
  termination_by stream.length
  decreasing_by exact fgets_length_lt (show 1 < freadBufSize by decide) ‹_›

/-- The number behind the last tabulator. -/
def lastId (buf : List Char) : Nat :=
  match strrchr buf '\t' with
  | none => 0
  | some p => Machine.toUint (atoi (p.drop 1))

/-- `check_procfs_status_uid` and `check_procfs_status_gid` for their keys. -/
def checkProcfsStatus (key : List Char) (environment : Environment) (setId : Nat) : Outcome :=
  match environment.fopen (fnameOf environment.pid) with
  | none => ⟨[], "fopen error.\n".toList, 0⟩
  | some stream =>
      let found := findLine key stream
      let procId := (found.map lastId).getD 0
      if environment.fclose ≠ 0 then ⟨found.getD [], "fclose error.\n".toList, 0⟩
      else
        ⟨found.getD [] ++ "cmp ".toList ++ decimalInt (toInt setId) ++ " == ".toList ++
          decimalInt (toInt procId) ++ " ? \n".toList, [], if setId = procId then 1 else 0⟩

def checkProcfsStatusUid : Environment → Nat → Outcome :=
  checkProcfsStatus "Uid:".toList

def checkProcfsStatusGid : Environment → Nat → Outcome :=
  checkProcfsStatus "Gid:".toList

/-! ## Status texts -/

/-- The text of a status file: lines without the key, the line with the four ids, and
anything after it. -/
structure Status (key : List Char) where
  before : List (List Char)
  real : Nat
  effective : Nat
  saved : Nat
  fs : Nat
  after : List Char
  single : ∀ line ∈ before, '\n' ∉ line
  noKey : ∀ line ∈ before, ¬key <:+: line
  short : ∀ line ∈ before, line.length < 1023
  small : ∀ id ∈ [real, effective, saved, fs], id < 2 ^ 32

namespace Status

variable {key : List Char}

/-- The line with the ids up to the last tabulator. -/
def front (status : Status key) : List Char :=
  key ++ '\t' :: decimal status.real ++ '\t' :: decimal status.effective ++
    '\t' :: decimal status.saved

def text (status : Status key) : List Char :=
  status.before.flatMap (· ++ ['\n']) ++
    (status.front ++ '\t' :: decimal status.fs ++ '\n' :: status.after)

end Status

/-! ## The search for the line -/

section Search

variable {key line rest : List Char} {before : List (List Char)}

theorem findLine_line (single : '\n' ∉ line) (short : line.length < 1023) :
    findLine key (line ++ '\n' :: rest) =
      if (strstr (cString (line ++ ['\n'])) key).isSome then some (cString (line ++ ['\n']))
      else findLine key rest := by
  have read : fgets freadBufSize (line ++ '\n' :: rest) = some (line ++ ['\n'], rest) :=
    fgets_line single short
  rw [findLine]
  split
  · rename_i atEnd
    cases atEnd.symm.trans read
  · rename_i found
    cases found.symm.trans read
    rfl

/-- Lines without the key are skipped. -/
theorem findLine_append (noNewline : '\n' ∉ key) (single : ∀ line ∈ before, '\n' ∉ line)
    (noKey : ∀ line ∈ before, ¬key <:+: line) (short : ∀ line ∈ before, line.length < 1023) :
    findLine key (before.flatMap (· ++ ['\n']) ++ rest) = findLine key rest := by
  induction before with
  | nil => rfl
  | cons line before ih =>
      have skipped : ¬(strstr (cString (line ++ ['\n'])) key).isSome = true := by
        rw [isSome_strstr]
        intro found
        apply noKey line List.mem_cons_self
        refine infix_of_infix_append ?_ (found.trans (List.takeWhile_prefix _).isInfix)
        -- the end of the line is not part of the key
        rintro last isLast member
        rw [List.mem_singleton.mp member] at isLast
        exact noNewline (List.mem_of_getLast? isLast)
      have whole : (line :: before).flatMap (· ++ ['\n']) ++ rest =
          line ++ '\n' :: (before.flatMap (· ++ ['\n']) ++ rest) := by
        simp
      rw [whole, findLine_line (single line List.mem_cons_self) (short line List.mem_cons_self),
        if_neg skipped]
      exact ih (fun other member => single other (List.mem_cons_of_mem _ member))
        (fun other member => noKey other (List.mem_cons_of_mem _ member))
        (fun other member => short other (List.mem_cons_of_mem _ member))

end Search

namespace Status

variable {key : List Char} (status : Status key)

/-- What the search needs of a key. -/
structure IsKey (key : List Char) : Prop where
  short : key.length ≤ 4
  noNewline : '\n' ∉ key
  noNul : nul ∉ key

theorem decimal_length_le {id : Nat} (small : id < 2 ^ 32) : (decimal id).length ≤ 10 :=
  (Nat.length_toDigits_le_iff (by decide) (by decide)).mpr (small.trans (by decide))

/-- The line with the ids. -/
def idLine : List Char :=
  status.front ++ '\t' :: decimal status.fs

theorem notMem_idLine {character : Char} (noKey : character ∉ key) (noTab : character ≠ '\t')
    (notDigit : character.isDigit = false) : character ∉ status.idLine := by
  have noDecimal (id : Nat) : character ∉ decimal id := by
    intro member
    cases notDigit.symm.trans (decimal_plain member).2.2
  simp [idLine, front, noKey, noTab, noDecimal]

theorem idLine_length (isKey : IsKey key) : status.idLine.length < 1023 := by
  have real := decimal_length_le (status.small status.real (by simp))
  have effective := decimal_length_le (status.small status.effective (by simp))
  have saved := decimal_length_le (status.small status.saved (by simp))
  have fs := decimal_length_le (status.small status.fs (by simp))
  have short := isKey.short
  simp only [idLine, front, List.length_append, List.length_cons]
  omega

/-- The line is found behind all lines without the key. -/
theorem findLine_text (isKey : IsKey key) :
    findLine key status.text = some (status.idLine ++ ['\n']) := by
  have noNul : nul ∉ status.idLine ++ ['\n'] := by
    rw [List.mem_append, not_or]
    exact ⟨status.notMem_idLine isKey.noNul (by decide) (by decide), by decide⟩
  have whole : cString (status.idLine ++ ['\n']) = status.idLine ++ ['\n'] := by
    have ended := cString_append_zeros 0 noNul
    rwa [List.replicate_zero, List.append_nil] at ended
  have found : (strstr (status.idLine ++ ['\n']) key).isSome = true := by
    rw [isSome_strstr]
    simp only [idLine, front, List.append_assoc]
    exact (List.prefix_append _ _).isInfix
  have isLine : status.text = status.before.flatMap (· ++ ['\n']) ++
      (status.idLine ++ '\n' :: status.after) := by
    simp [text, idLine]
  rw [isLine, findLine_append isKey.noNewline status.single status.noKey status.short,
    findLine_line (status.notMem_idLine isKey.noNewline (by decide) (by decide))
      (status.idLine_length isKey), whole, if_pos found]

theorem lastId_idLine : lastId (status.idLine ++ ['\n']) = status.fs := by
  have noTab : '\t' ∉ decimal status.fs ++ ['\n'] := by
    intro member
    rcases List.mem_append.mp member with inNumber | atEnd
    · exact absurd (decimal_plain inNumber).2.2 (by decide)
    · exact absurd atEnd (by decide)
  have last : strrchr (status.idLine ++ ['\n']) '\t' =
      some ('\t' :: (decimal status.fs ++ ['\n'])) := by
    rw [idLine, List.append_assoc, List.cons_append]
    exact strrchr_append noTab
  rw [lastId, last]
  exact toUint_atoi_decimal_cons (by decide) (status.small status.fs (by simp)) []

/-- The function returns whether the id is the last one of the line. -/
theorem checkProcfsStatus_value (isKey : IsKey key) {environment : Environment} {setId : Nat}
    (opens : environment.fopen (fnameOf environment.pid) = some status.text)
    (closes : environment.fclose = 0) :
    (checkProcfsStatus key environment setId).value = if setId = status.fs then 1 else 0 := by
  rw [checkProcfsStatus, opens]
  simp only [status.findLine_text isKey, Option.map_some, Option.getD_some, status.lastId_idLine,
    closes, ne_eq, not_true_eq_false, if_false]

end Status

/-- The ids are recovered from every status text. -/
theorem check_procfs_status_iff (environment : Environment) (x : Nat)
    (closes : environment.fclose = 0) :
    (∀ status : Status "Uid:".toList,
      environment.fopen (fnameOf environment.pid) = some status.text →
        ((checkProcfsStatusUid environment x).value ≠ 0 ↔ x = status.fs)) ∧
    (∀ status : Status "Gid:".toList,
      environment.fopen (fnameOf environment.pid) = some status.text →
        ((checkProcfsStatusGid environment x).value ≠ 0 ↔ x = status.fs)) := by
  constructor
  · intro status opens
    rw [checkProcfsStatusUid,
      status.checkProcfsStatus_value ⟨by decide, by decide, by decide⟩ opens closes]
    simp
  · intro status opens
    rw [checkProcfsStatusGid,
      status.checkProcfsStatus_value ⟨by decide, by decide, by decide⟩ opens closes]
    simp

/-- A status text with an id that `atoi` makes negative. -/
def nobodyStatus : Status "Uid:".toList where
  before := ["Name:\tsetfsuid".toList, "State:\tR (running)".toList]
  real := 0
  effective := 0
  saved := 0
  fs := 4294967294
  after := "Gid:\t0\t0\t0\t0\n".toList
  single := by decide
  noKey := by decide
  short := by decide
  small := by decide

theorem check_procfs_status_iff_nobody :
    (checkProcfsStatusUid ⟨7, fun _ => some nobodyStatus.text, 0⟩ 4294967294).value ≠ 0 ↔
      4294967294 = nobodyStatus.fs :=
  (check_procfs_status_iff ⟨7, fun _ => some nobodyStatus.text, 0⟩ 4294967294 rfl).1
    nobodyStatus rfl

end McKernelTest.Setfsid
