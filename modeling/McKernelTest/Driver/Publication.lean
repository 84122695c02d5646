import McKernelTest.Driver.Lifetime
import McKernelTest.Text.Shell
import Mathlib.Data.Nat.Digits.Defs

/-!
# The device numbers in `/proc/test_mck/devno`

The device loop writes one entry of eight characters for every device.  The size
argument of `snprintf` is one less than the room that is left, so only the blank
at the end of the last entry is cut off.
-/

namespace McKernelTest.Driver

open Text

/-- The entries of `count` devices from device `i` on. -/
def devnosText (majorNumber i : Nat) : Nat → List Char
  | 0 => []
  | count + 1 => devnoText majorNumber i ++ devnosText majorNumber (i + 1) count

/-- The size arguments for `count` devices. -/
def roomsFor : Nat → List Int
  | 0 => []
  | count + 1 => (8 * (count + 1) : Nat) :: roomsFor count

section Entries

variable {majorNumber i count : Nat}

theorem decimal_length {number : Nat} (small : number < 1000) : (decimal number).length ≤ 3 :=
  Nat.toDigits_length 10 number 3 (by decide) small

/-- Every entry has eight characters. -/
theorem devnoText_length (smallMajor : majorNumber < 1000) (small : i < 1000) :
    (devnoText majorNumber i).length = 8 := by
  have majorLength := decimal_length smallMajor
  have minorLength := decimal_length small
  simp only [devnoText, padLeft, padRight, List.length_append, List.length_replicate,
    List.length_singleton]
  omega

theorem devnosText_length (smallMajor : majorNumber < 1000) (small : i + count ≤ 1000) :
    (devnosText majorNumber i count).length = 8 * count := by
  induction count generalizing i with
  | zero => rfl
  | succ count ih =>
      rw [devnosText, List.length_append, devnoText_length smallMajor (by omega), ih (by omega)]
      omega

/-- The cut at the end does not concern the first of several entries. -/
theorem devnosText_take (smallMajor : majorNumber < 1000) (small : i < 1000) :
    (devnosText majorNumber i (count + 1 + 1)).take (8 * (count + 1 + 1) - 1) =
      devnoText majorNumber i ++
        (devnosText majorNumber (i + 1) (count + 1)).take (8 * (count + 1) - 1) := by
  have length := devnoText_length smallMajor small
  have rest : 8 * (count + 1 + 1) - 1 - 8 = 8 * (count + 1) - 1 := by omega
  rw [devnosText, List.take_append, length, rest, List.take_of_length_le (by omega)]

/-- Writing a text and its terminator over the zeros of a buffer. -/
theorem store_zeros {text chars : List Char} {zeros : Nat} (room : chars.length < zeros) :
    store (text ++ List.replicate zeros nul) text.length (chars ++ [nul]) =
      text ++ chars ++ List.replicate (zeros - chars.length) nul := by
  have zerosLeft : List.replicate (zeros - chars.length) nul =
      [nul] ++ List.replicate (zeros - (chars.length + 1)) nul := by
    rw [List.singleton_append, ← List.replicate_succ]
    congr 1
    omega
  have beyond : (text ++ List.replicate zeros nul).drop (text.length + (chars ++ [nul]).length) =
      List.replicate (zeros - (chars.length + 1)) nul := by
    rw [List.length_append, List.drop_append]
    simp
  rw [store, List.take_left, beyond, zerosLeft]
  simp only [List.append_assoc]

end Entries

/-! ## The loop -/

section Loop

variable {kernel : KernelCalls} {i : Nat} {dev : TestMckDev}

theorem init_devno (dev : TestMckDev) (allocated : Option VmallocArea) :
    (dev.init allocated).2.devno = dev.devno ∧ (dev.init allocated).2.tsName = dev.tsName := by
  cases ops : dev.ops with
  | mmapDev => simp [TestMckDev.init, ops, testMckMmapDevInit]
  | mmapDev2 =>
      cases allocated <;>
        simp [TestMckDev.init, ops, testMckMmapDev2Init]

/-- What the loop body publishes, and the number it gives to the device. -/
theorem setupDev_publishes (sizeof majorNumber : Nat) (loop : LoopState)
    (accepted : DevAccepted kernel i dev) :
    let after := setupDev kernel sizeof majorNumber i loop dev
    after.2.1.position = loop.position + (devnoText majorNumber i).length ∧
      after.2.1.testMckMajmin = (snprintf loop.testMckMajmin loop.position
        (majminRoom sizeof loop.position % 2 ^ 64).toNat (devnoText majorNumber i)).1 ∧
      after.2.1.sizes = loop.sizes ++ [majminRoom sizeof loop.position] ∧
      after.2.2.devno = mkdev majorNumber i ∧ after.2.2.tsName = dev.tsName := by
  have added := (cdevAddResult_eq_zero_iff kernel i).mpr accepted.cdevAdd
  unfold setupDev
  simp [accepted.classCreate, added, publish, init_devno, testMckMinor, snprintf]

/-- One entry is written over the zeros of the buffer; with `count` devices to come
after it, it is cut off only if there are none. -/
theorem setupDev_fills {sizeof majorNumber count : Nat} {loop : LoopState} {text : List Char}
    (smallMajor : majorNumber < 1000) (small : i + (count + 1) ≤ 1000)
    (isSize : sizeof = sizeofMajmin (i + (count + 1))) (accepted : DevAccepted kernel i dev)
    (length : text.length = 8 * i) (position : loop.position = 8 * i)
    (buffer : loop.testMckMajmin = text ++ List.replicate (8 * (count + 1) + 1) nul) :
    let after := setupDev kernel sizeof majorNumber i loop dev
    after.2.1.position = 8 * (i + 1) ∧
      after.2.1.testMckMajmin = text ++ (devnoText majorNumber i).take (8 * (count + 1) - 1) ++
        List.replicate (8 * (count + 1) + 1 - min (8 * (count + 1) - 1) 8) nul ∧
      after.2.1.sizes = loop.sizes ++ [((8 * (count + 1) : Nat) : Int)] := by
  rcases setupDev_publishes sizeof majorNumber loop accepted with
    ⟨nextPosition, nextBuffer, nextSizes, -, -⟩
  have entryLength := devnoText_length smallMajor (show i < 1000 by omega)
  have room : majminRoom sizeof loop.position = ((8 * (count + 1) : Nat) : Int) := by
    rw [position, majminRoom, isSize, sizeofMajmin]
    omega
  have size : (((8 * (count + 1) : Nat) : Int) % 2 ^ 64).toNat = 8 * (count + 1) := by omega
  have cut : ((devnoText majorNumber i).take (8 * (count + 1) - 1)).length =
      min (8 * (count + 1) - 1) 8 := by
    rw [List.length_take, entryLength]
  rw [entryLength, position] at nextPosition
  rw [room] at nextSizes
  rw [room, size, snprintf, if_neg (by omega), buffer, position, ← length,
    store_zeros (by omega), cut] at nextBuffer
  exact ⟨nextPosition, nextBuffer, nextSizes⟩

/-- The published text fills the zeros of the buffer up to its last two. -/
theorem setupDevs_publishes {sizeof majorNumber : Nat} {devs : List TestMckDev}
    {loop : LoopState} {text : List Char} (smallMajor : majorNumber < 1000)
    (small : i + devs.length ≤ 1000) (isSize : sizeof = sizeofMajmin (i + devs.length))
    (accepted : ForDevs (DevAccepted kernel) i devs) (length : text.length = 8 * i)
    (position : loop.position = 8 * i)
    (buffer : loop.testMckMajmin = text ++ List.replicate (8 * devs.length + 1) nul) :
    let after := setupDevs kernel sizeof majorNumber i loop devs
    after.2.1.testMckMajmin = text ++ (devnosText majorNumber i devs.length).take
        (8 * devs.length - 1) ++ List.replicate (8 * devs.length + 1 - (8 * devs.length - 1)) nul ∧
      after.2.1.sizes = loop.sizes ++ roomsFor devs.length := by
  induction devs generalizing i loop text with
  | nil => simp [setupDevs, buffer, devnosText, roomsFor]
  | cons dev rest ih =>
      rw [List.length_cons] at small isSize buffer ⊢
      rcases forDevs_cons.mp accepted with ⟨first, others⟩
      have finished := (setupDev_finished_iff kernel sizeof majorNumber i loop dev).mpr first
      have fills := setupDev_fills smallMajor small isSize first length position buffer
      have entryLength := devnoText_length smallMajor (show i < 1000 by omega)
      rw [setupDevs]
      rcases body : setupDev kernel sizeof majorNumber i loop dev with ⟨flag, next, nextDev⟩
      rw [body] at finished fills
      cases finished
      rcases fills with ⟨nextPosition, nextBuffer, nextSizes⟩
      cases rest with
      | nil =>
          simp only [setupDevs, devnosText, roomsFor, List.length_nil, List.append_nil]
          exact ⟨nextBuffer, nextSizes⟩
      | cons other rest =>
          rw [List.length_cons] at small isSize nextBuffer nextSizes ⊢
          have whole : (devnoText majorNumber i).take (8 * (rest.length + 1 + 1) - 1) =
              devnoText majorNumber i := List.take_of_length_le (by omega)
          have zeros : 8 * (rest.length + 1 + 1) + 1 - min (8 * (rest.length + 1 + 1) - 1) 8 =
              8 * (other :: rest).length + 1 := by
            rw [List.length_cons]
            omega
          rw [whole, zeros] at nextBuffer
          have nextLength : (text ++ devnoText majorNumber i).length = 8 * (i + 1) := by
            rw [List.length_append, length, entryLength]
            omega
          have nextSize : sizeof = sizeofMajmin (i + 1 + (other :: rest).length) := by
            rw [isSize, List.length_cons, sizeofMajmin, sizeofMajmin]
            omega
          rcases ih (by rw [List.length_cons]; omega) nextSize others nextLength nextPosition
            nextBuffer with ⟨restBuffer, restSizes⟩
          rw [List.length_cons] at restBuffer restSizes
          constructor
          · have two : 8 * (rest.length + 1 + 1) + 1 - (8 * (rest.length + 1 + 1) - 1) =
                8 * (rest.length + 1) + 1 - (8 * (rest.length + 1) - 1) := by omega
            rw [devnosText_take smallMajor (by omega), two, ← List.append_assoc]
            exact restBuffer
          · refine Eq.trans restSizes ?_
            rw [nextSizes, List.append_assoc, List.singleton_append]
            rfl

/-- Every device keeps its name and gets its number. -/
theorem setupDevs_devnos {devs : List TestMckDev} (sizeof majorNumber : Nat) (loop : LoopState)
    (accepted : ForDevs (DevAccepted kernel) i devs) :
    let after := setupDevs kernel sizeof majorNumber i loop devs
    after.2.2.map (·.tsName) = devs.map (·.tsName) ∧
      ForDevs (fun j dev => dev.devno = mkdev majorNumber j) i after.2.2 := by
  induction devs generalizing i loop with
  | nil => exact ⟨rfl, forDevs_nil _ i⟩
  | cons dev rest ih =>
      rcases forDevs_cons.mp accepted with ⟨first, others⟩
      have finished := (setupDev_finished_iff kernel sizeof majorNumber i loop dev).mpr first
      have publishes := setupDev_publishes sizeof majorNumber loop first
      rw [setupDevs]
      rcases body : setupDev kernel sizeof majorNumber i loop dev with ⟨flag, next, nextDev⟩
      rw [body] at finished publishes
      cases finished
      rcases publishes with ⟨-, -, -, devno, tsName⟩
      rcases ih next others with ⟨names, numbers⟩
      constructor
      · change nextDev.tsName :: _ = _
        rw [List.map_cons, names]
        exact congrArg (· :: _) tsName
      · exact forDevs_cons.mpr ⟨devno, numbers⟩

end Loop

/-! ## Reading the files -/

/-- `test_mck_procfs_string_read`: the result, the characters copied, and the new
position; `copied` says whether `copy_to_user` succeeds. -/
def testMckProcfsStringRead (string : List Char) (ppos nbytes : Nat) (copied : Bool) :
    Int × List Char × Nat :=
  let len := string.length
  if ppos > len then
    (0, [], ppos)
  else
    let count := if ppos + nbytes > len then len - ppos else nbytes
    if copied then
      (count, (string.drop ppos).take count, ppos + count)
    else
      (efault.code, [], ppos)

/-- The loop of `cat`, which reads until nothing comes back. -/
def catFrom (string : List Char) (nbytes : Nat) : Nat → Nat → List Char
  | 0, _ => []
  | fuel + 1, ppos =>
      let (ret, chunk, ppos) := testMckProcfsStringRead string ppos nbytes true
      if ret ≤ 0 then [] else chunk ++ catFrom string nbytes fuel ppos

/-- `cat` of one of the files, with reads of the given size. -/
def cat (string : List Char) (nbytes : Nat) : List Char :=
  catFrom string nbytes (string.length + 1) 0

/-- `test_mck_tp_names`. -/
def testMckTpNames (devlist : List TestMckDev) : List Char :=
  devlist.flatMap fun dev => dev.tsName.chars ++ [' ']

theorem catFrom_eq {string : List Char} {nbytes : Nat} (positive : 0 < nbytes) (fuel ppos : Nat)
    (enough : string.length - ppos < fuel) (inside : ppos ≤ string.length) :
    catFrom string nbytes fuel ppos = string.drop ppos := by
  induction fuel generalizing ppos with
  | zero => exact absurd enough (Nat.not_lt_zero _)
  | succ fuel ih =>
      have within : ¬ppos > string.length := Nat.not_lt.mpr inside
      simp only [catFrom, testMckProcfsStringRead, if_neg within, if_true]
      by_cases ended : ppos = string.length
      · rw [ended, List.drop_length, if_pos]
        rw [if_pos (by omega)]
        omega
      · have some : ¬(((if ppos + nbytes > string.length then string.length - ppos
            else nbytes : Nat) : Int) ≤ 0) := by
          split <;> omega
        rw [if_neg some, ih, ← List.drop_drop, List.take_append_drop]
        all_goals split <;> omega

/-- `cat` prints the whole text. -/
theorem cat_eq (string : List Char) {nbytes : Nat} (positive : 0 < nbytes) :
    cat string nbytes = string :=
  catFrom_eq positive _ 0 (by omega) (Nat.zero_le _)

section Reading

variable {majorNumber i count : Nat}

/-- The word of one device. -/
def devnoWord (majorNumber i : Nat) : List Char :=
  decimal majorNumber ++ ':' :: decimal i

/-- The words of `count` devices from device `i` on. -/
def devnoWords (majorNumber i : Nat) : Nat → List (List Char)
  | 0 => []
  | count + 1 => devnoWord majorNumber i :: devnoWords majorNumber (i + 1) count

theorem devnoWords_length : (devnoWords majorNumber i count).length = count := by
  induction count generalizing i with
  | zero => rfl
  | succ count ih => rw [devnoWords, List.length_cons, ih]

theorem devnoWords_getElem? {j : Nat} (known : j < count) :
    (devnoWords majorNumber i count)[j]? = some (devnoWord majorNumber (i + j)) := by
  induction count generalizing i j with
  | zero => exact absurd known (Nat.not_lt_zero j)
  | succ count ih =>
      cases j with
      | zero => rfl
      | succ j =>
          rw [devnoWords, List.getElem?_cons_succ, ih (Nat.lt_of_succ_lt_succ known),
            Nat.add_right_comm, Nat.add_assoc]

theorem devnoWord_plain (majorNumber i : Nat) : PlainWord (devnoWord majorNumber i) := by
  constructor
  · simp [devnoWord]
  · intro character member
    rw [devnoWord, List.mem_append, List.mem_cons] at member
    rcases member with inMajor | rfl | inMinor
    · exact (decimal_plain inMajor).1
    · rfl
    · exact (decimal_plain inMinor).1

/-- An entry is its word between blanks. -/
theorem devnoText_eq (majorNumber i : Nat) : ∃ before after,
    devnoText majorNumber i =
      List.replicate before ' ' ++ (devnoWord majorNumber i ++ List.replicate (after + 1) ' ') := by
  refine ⟨3 - (decimal majorNumber).length, 3 - (decimal i).length, ?_⟩
  simp [devnoText, padLeft, padRight, devnoWord, List.replicate_succ']

theorem words_devnosText : words (devnosText majorNumber i count) =
    devnoWords majorNumber i count := by
  induction count generalizing i with
  | zero => exact words_nil
  | succ count ih =>
      rcases devnoText_eq majorNumber i with ⟨before, after, entry⟩
      rw [devnosText, entry, List.append_assoc, words_replicate_append,
        (devnoWord_plain majorNumber i).words_append, ih]
      rfl

theorem devnosText_getLast? : (devnosText majorNumber i (count + 1)).getLast? = some ' ' := by
  induction count generalizing i with
  | zero =>
      rcases devnoText_eq majorNumber i with ⟨before, after, entry⟩
      simp [devnosText, entry, List.replicate_succ']
  | succ count ih => rw [devnosText, List.getLast?_append, ih, Option.some_or]

theorem nul_notMem_devnosText : nul ∉ devnosText majorNumber i count := by
  induction count generalizing i with
  | zero => exact List.not_mem_nil
  | succ count ih =>
      rcases devnoText_eq majorNumber i with ⟨before, after, entry⟩
      rw [devnosText, List.mem_append, not_or]
      refine ⟨fun member => ?_, ih⟩
      have blank : ∀ count, nul ∉ List.replicate count ' ' := by
        intro count member
        have isBlank := List.eq_of_mem_replicate member
        contradiction
      rw [entry, List.mem_append, List.mem_append, devnoWord,
        List.mem_append, List.mem_cons] at member
      rcases member with inFront | (inMajor | isColon | inMinor) | behind
      · exact blank _ inFront
      · exact (decimal_plain inMajor).2.1 rfl
      · contradiction
      · exact (decimal_plain inMinor).2.1 rfl
      · exact blank _ behind

/-- Without its last character the text has the same words. -/
theorem words_published (smallMajor : majorNumber < 1000) (small : i + count ≤ 1000) :
    words ((devnosText majorNumber i count).take (8 * count - 1)) =
      devnoWords majorNumber i count := by
  cases count with
  | zero => exact words_nil
  | succ count =>
      rw [← devnosText_length smallMajor small, ← List.dropLast_eq_take,
        words_dropLast devnosText_getLast?, words_devnosText]

end Reading

section AfterDevLoop

variable {kernel : KernelCalls} {majorNumber : Nat} {devlist : List TestMckDev}

/-- What the device loop leaves in `test_mck_majmin`: the text without its last character,
and zeros. -/
theorem afterDevLoop_majmin (smallMajor : majorNumber < 1000) (small : devlist.length ≤ 1000)
    (accepted : ForDevs (DevAccepted kernel) 0 devlist) :
    (afterDevLoop kernel majorNumber (.initial devlist)).testMckMajmin =
        (devnosText majorNumber 0 devlist.length).take (8 * devlist.length - 1) ++
          List.replicate (8 * devlist.length + 1 - (8 * devlist.length - 1)) nul ∧
      (runDevLoop kernel majorNumber (.initial devlist)).2.1.sizes = roomsFor devlist.length := by
  have total : 0 + devlist.length ≤ 1000 := by omega
  have isSize : sizeofMajmin devlist.length = sizeofMajmin (0 + devlist.length) := by
    rw [Nat.zero_add]
  have buffer : (LoopState.mk 0 0 (DriverState.initial devlist).testMckMajmin [] []).testMckMajmin =
      [] ++ List.replicate (8 * devlist.length + 1) nul := by
    rw [List.nil_append, Nat.mul_comm]
    rfl
  exact setupDevs_publishes smallMajor total isSize accepted rfl rfl buffer

/-- The words of `/proc/test_mck/devno` are those of the devices, and no size argument
underflows. -/
theorem afterDevLoop_devno (smallMajor : majorNumber < 1000) (small : devlist.length ≤ 1000)
    (accepted : ForDevs (DevAccepted kernel) 0 devlist) :
    words (cString (afterDevLoop kernel majorNumber (.initial devlist)).testMckMajmin) =
        devnoWords majorNumber 0 devlist.length ∧
      (runDevLoop kernel majorNumber (.initial devlist)).2.1.sizes = roomsFor devlist.length := by
  rcases afterDevLoop_majmin smallMajor small accepted with ⟨published, sizes⟩
  have noNul : nul ∉ (devnosText majorNumber 0 devlist.length).take (8 * devlist.length - 1) :=
    fun member => nul_notMem_devnosText (List.mem_of_mem_take member)
  refine ⟨?_, sizes⟩
  rw [published, cString_append_zeros _ noNul, words_published smallMajor (by omega)]

end AfterDevLoop

theorem roomsFor_nonneg (count : Nat) : ∀ room ∈ roomsFor count, 0 ≤ room := by
  induction count with
  | zero => simp [roomsFor]
  | succ count ih =>
      intro room member
      rcases List.mem_cons.mp member with rfl | later
      · exact Int.natCast_nonneg _
      · exact ih room later

end McKernelTest.Driver
