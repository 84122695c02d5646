import McKernelTest.Getrusage.Records

/-!
# The differences that the scripts compute

The scripts print the difference of every two consecutive records, and `cut` selects one of
them.  The selection fails if there is only one difference, because `cut` passes on a line
without a separator.  The difference itself is exact unless a number leaves the range of
Perl's integers.
-/

namespace McKernelTest.Getrusage

open Perl Posix Text

/-! ## The loops -/

/-- The pairs of neighbours in a list. -/
def consecutive {α : Type} (list : List α) : List (α × α) :=
  list.zip list.tail

section Loops

variable {α : Type} {read : List Char → Option α} {delta : α → α → List Char}
  {line : Rusage → List Char} {value : Rusage → α}

theorem perlLoop_some (reads : ∀ usage, read (line usage) = some (value usage)) (before : α)
    (usages : List Rusage) :
    perlLoop read delta (some before) (usages.map line) =
      ((consecutive (before :: usages.map value)).map fun pair => delta pair.1 pair.2).flatMap
        (· ++ ['\n']) := by
  induction usages generalizing before with
  | nil => rfl
  | cons usage usages ih =>
      rw [List.map_cons, perlLoop, reads usage]
      simp only [ih]
      rfl

/-- The loops print the differences of neighbours. -/
theorem perlLoop_none (reads : ∀ usage, read (line usage) = some (value usage))
    (usages : List Rusage) :
    perlLoop read delta none (usages.map line) =
      ((consecutive (usages.map value)).map fun pair => delta pair.1 pair.2).flatMap
        (· ++ ['\n']) := by
  cases usages with
  | nil => rfl
  | cons usage usages =>
      rw [List.map_cons, perlLoop, reads usage]
      exact perlLoop_some reads (value usage) usages

end Loops

/-- The text that is selected from a list of words. -/
def selected (texts : List (List Char)) (k : Nat) : List Char :=
  if texts.length = 1 then texts.headD [] else (texts[k - 1]?).getD []

/-- What a script returns, for any field that its loop can read. -/
theorem getrusageDelta_output {α : Type} {read : List Char → Option α} {delta : α → α → List Char}
    (field : Field) (output : Output) (k : Nat) (value : Rusage → α)
    (reads : ∀ usage, read (field.value usage ++ ['\n']) = some (value usage))
    (plain : ∀ before after, PlainWord (delta before after)) :
    getrusageDelta read delta field.name output.text k =
      selected ((consecutive (output.usages.map value)).map fun pair => delta pair.1 pair.2) k := by
  have words_plain : ∀ word ∈ (consecutive (output.usages.map value)).map
      fun pair => delta pair.1 pair.2, PlainWord word := by
    intro word member
    rcases List.mem_map.mp member with ⟨pair, -, rfl⟩
    exact plain pair.1 pair.2
  simp only [getrusageDelta, lines_cut_grep, List.map_map, Function.comp_def, words_substitute]
  rw [perlLoop_none reads, words_flatMap words_plain, substitute_cut_echo words_plain, selected]

/-! ## Times -/

section Times

variable {text : List Char} {captures : List Char × List Char}

theorem matchTime_of_matchHere (here : matchHere text = some captures) :
    matchTime text = some captures := by
  cases text with
  | nil => cases here
  | cons character text =>
      rw [matchTime, here]
      rfl

/-- The digits of a time. -/
def UsedTime.digits (time : UsedTime) : List Char × List Char :=
  (decimalInt time.tvSec, decimalInt time.tvUsec)

theorem matchTime_text (time : UsedTime) :
    matchTime (time.text ++ ['\n']) = some time.digits := by
  apply matchTime_of_matchHere
  -- Neither number has a sign.
  obtain ⟨sec, isSec⟩ := Int.eq_ofNat_of_zero_le time.nonneg
  obtain ⟨usec, isUsec⟩ := Int.eq_ofNat_of_zero_le time.normalised.nonneg
  have whole : time.text ++ ['\n'] = decimal sec ++
      ("s + ".toList ++ (decimal usec ++ ("us".toList ++ ['\n']))) := by
    simp only [UsedTime.text, isSec, isUsec, List.append_assoc]
    rfl
  have front : (time.text ++ ['\n']).takeWhile Char.isDigit = decimal sec := by
    rw [whole, takeWhile_isDigit_decimal _ rfl]
  have behind : (time.text ++ ['\n']).dropWhile Char.isDigit =
      "s + ".toList ++ (decimal usec ++ ("us".toList ++ ['\n'])) := by
    rw [whole, dropWhile_isDigit_decimal _ rfl]
  have rest : ("s + ".toList ++ (decimal usec ++ ("us".toList ++ ['\n']))).drop 4 =
      decimal usec ++ ("us".toList ++ ['\n']) := rfl
  have nonempty (number : Nat) : decimal number ≠ [] := Nat.toDigits_ne_nil
  have first : "s + ".toList.isPrefixOf
      ("s + ".toList ++ (decimal usec ++ ("us".toList ++ ['\n']))) = true :=
    List.isPrefixOf_iff_prefix.mpr (List.prefix_append _ _)
  have second : "us".toList.isPrefixOf ("us".toList ++ ['\n']) = true := by decide
  simp only [matchHere, front, behind, rest]
  rw [if_pos ⟨nonempty _, first⟩, takeWhile_isDigit_decimal _ rfl, dropWhile_isDigit_decimal _ rfl,
    if_pos ⟨nonempty _, second⟩, UsedTime.digits, isSec, isUsec]
  rfl

theorem numify_decimalInt_nil {number : Int} (fits : Fits number) :
    numify (decimalInt number) = .int number := by
  have read : numify (decimalInt number ++ []) = .int number := numify_decimalInt fits rfl
  rwa [List.append_nil] at read

/-- The number that is printed for a difference of seconds and one of microseconds. -/
theorem toIv_delta_iff {sec usec : Int} (least : -2 ^ 63 < sec) (greatest : sec < 2 ^ 63)
    (least' : -1000000 < usec) (greatest' : usec < 1000000) :
    (((Num.int sec).mul (.int 1000000)).add (.int usec)).toIv = sec * 1000000 + usec ↔
      -2 ^ 63 ≤ sec * 1000000 ∧ -2 ^ 63 ≤ sec * 1000000 + usec ∧ sec * 1000000 + usec < 2 ^ 63 := by
  constructor
  · intro same
    have bounds := (((Num.int sec).mul (.int 1000000)).add (.int usec)).toIv_bounds
    rw [same] at bounds
    refine ⟨?_, bounds⟩
    by_contra overflow
    have second : sec = -9223372036855 := by omega
    subst second
    have product : (Num.int (-9223372036855)).mul (.int 1000000) = .nv (-9223372036854999040) := by
      decide +kernel
    have sum : (Num.nv (-9223372036854999040)).add (.int usec) =
        .nv (roundNv (-9223372036854999040 + usec)) := by
      have small : roundNv usec = usec := roundNv_eq_self (by omega)
      rw [Num.add_nv_int (by decide), small]
    rw [product, sum] at same
    generalize rounds : -9223372036854999040 + usec = exact at same
    -- the product was rounded by 960, the sum is rounded by 512 at most
    have error := roundNv_error 10 (show exact.natAbs < 2 ^ (53 + 10) by omega)
    have large : roundNv exact ≤ (Num.nv (roundNv exact)).toIv := Num.le_toIv_nv (by omega)
    omega
  · rintro ⟨product, least, greatest⟩
    rw [Num.mul_int ⟨product, by omega⟩, Num.add_int ⟨least, by omega⟩, Num.toIv_int least greatest]

/-- The difference of two times, and its part in seconds, are in the range of the integers. -/
def TimeExact (before after : Timeval) : Prop :=
  -2 ^ 63 ≤ (after.tvSec - before.tvSec) * 1000000 ∧
    -2 ^ 63 ≤ after.micros - before.micros ∧ after.micros - before.micros < 2 ^ 63

theorem timeDelta_eq_iff (before after : UsedTime) :
    timeDelta before.digits after.digits = decimalInt (after.micros - before.micros) ↔
      TimeExact before.toTimeval after.toTimeval := by
  have secBefore := before.nonneg
  have secAfter := after.nonneg
  obtain ⟨-, isLongBefore, usecBefore, smallBefore⟩ := before.normalised
  obtain ⟨-, isLongAfter, usecAfter, smallAfter⟩ := after.normalised
  have sec : (numify (decimalInt after.tvSec)).sub (numify (decimalInt before.tvSec)) =
      .int (after.tvSec - before.tvSec) := by
    rw [numify_decimalInt_nil ⟨by omega, by omega⟩, numify_decimalInt_nil ⟨by omega, by omega⟩]
    exact Num.sub_int ⟨by omega, by omega⟩
  have usec : (numify (decimalInt after.tvUsec)).sub (numify (decimalInt before.tvUsec)) =
      .int (after.tvUsec - before.tvUsec) := by
    rw [numify_decimalInt_nil ⟨by omega, by omega⟩, numify_decimalInt_nil ⟨by omega, by omega⟩]
    exact Num.sub_int ⟨by omega, by omega⟩
  have micros : after.micros - before.micros =
      (after.tvSec - before.tvSec) * 1000000 + (after.tvUsec - before.tvUsec) := by
    rw [Timeval.micros, Timeval.micros]
    omega
  rw [timeDelta, UsedTime.digits, UsedTime.digits, sec, usec, Num.format,
    decimalInt_injective.eq_iff, TimeExact, micros]
  exact toIv_delta_iff (by omega) (by omega) (by omega) (by omega)

end Times

/-! ## Sizes -/

theorem maxrssDelta_eq_iff {before after : Int} (beforeLong : -2 ^ 63 ≤ before ∧ before < 2 ^ 63)
    (afterLong : -2 ^ 63 ≤ after ∧ after < 2 ^ 63) :
    maxrssDelta (decimalInt before ++ ['\n']) (decimalInt after ++ ['\n']) =
        decimalInt (after - before) ↔
      -2 ^ 63 ≤ after - before := by
  have readBefore : numify (decimalInt before ++ ['\n']) = .int before :=
    numify_decimalInt ⟨beforeLong.1, by omega⟩ rfl
  have readAfter : numify (decimalInt after ++ ['\n']) = .int after :=
    numify_decimalInt ⟨afterLong.1, by omega⟩ rfl
  rw [maxrssDelta, readBefore, readAfter]
  constructor
  · intro same
    by_contra overflow
    have large : ¬Fits (after - before) := fun fits => overflow fits.1
    rw [Num.sub_int_nv large (by omega)] at same
    have error := roundNv_error 11 (show (after - before).natAbs < 2 ^ (53 + 11) by omega)
    have double : 'e' ∈ nvText (roundNv (after - before)) := e_mem_nvText (by omega)
    have printed : nvText (roundNv (after - before)) = decimalInt (after - before) := same
    exact e_notMem_decimalInt _ (printed ▸ double)
  · intro fits
    rw [Num.sub_int ⟨fits, by omega⟩]
    rfl

/-! ## The selection -/

/-- The difference between record `k` and the next one, or nothing if there is none. -/
def expected (values : List Int) (k : Nat) : List Char :=
  match values[k - 1]?, values[k]? with
  | some before, some after => decimalInt (after - before)
  | _, _ => []

/-- The scripts read back the differences that are to be printed. -/
structure ReadsBack (output : Output) (k : Nat) : Prop where
  utime : getrusageTime "ru_utime".toList output.text k =
    expected (output.usages.map fun usage => usage.ruUtime.micros) k
  stime : getrusageTime "ru_stime".toList output.text k =
    expected (output.usages.map fun usage => usage.ruStime.micros) k
  maxrss : getrusageMaxrss "ru_maxrss".toList output.text k =
    expected (output.usages.map Rusage.ruMaxrss) k

/-- The differences between two records are in the range of the integers. -/
structure PairExact (before after : Rusage) : Prop where
  utime : TimeExact before.ruUtime.toTimeval after.ruUtime.toTimeval
  stime : TimeExact before.ruStime.toTimeval after.ruStime.toTimeval
  maxrss : -2 ^ 63 ≤ after.ruMaxrss - before.ruMaxrss

section Selection

variable {α : Type} {value : Rusage → α} {delta : α → α → List Char} {number : Rusage → Int}
  {usages : List Rusage} {k : Nat}

theorem consecutive_length : (consecutive (usages.map value)).length = usages.length - 1 := by
  simp [consecutive]

/-- The difference between two records that there are. -/
theorem selected_of_some {before after : Rusage} (positive : 1 ≤ k)
    (isBefore : usages[k - 1]? = some before) (isAfter : usages[k]? = some after) :
    selected ((consecutive (usages.map value)).map fun pair => delta pair.1 pair.2) k =
      delta (value before) (value after) := by
  have next : k - 1 + 1 = k := Nat.sub_add_cancel positive
  have pair : (consecutive (usages.map value))[k - 1]? = some (value before, value after) := by
    rw [consecutive, List.getElem?_zip_eq_some, List.getElem?_tail, next]
    simp [isBefore, isAfter]
  have found : ((consecutive (usages.map value)).map fun pair => delta pair.1 pair.2)[k - 1]? =
      some (delta (value before) (value after)) := by
    rw [List.getElem?_map, pair]
    rfl
  rw [selected]
  split
  · rename_i single
    rcases List.length_eq_one_iff.mp single with ⟨text, only⟩
    rw [only] at found ⊢
    rcases List.getElem?_eq_some_iff.mp found with ⟨bound, same⟩
    have first : k - 1 = 0 := Nat.lt_one_iff.mp bound
    simpa [first] using same
  · rw [found]
    rfl

/-- Without the second record nothing is selected, unless there is a single difference. -/
theorem selected_of_none (nonempty : ∀ before after, delta before after ≠ [])
    (missing : usages.length ≤ k) :
    selected ((consecutive (usages.map value)).map fun pair => delta pair.1 pair.2) k = [] ↔
      usages.length ≠ 2 := by
  have count : ((consecutive (usages.map value)).map fun pair => delta pair.1 pair.2).length =
      usages.length - 1 := by
    rw [List.length_map, consecutive_length]
  rw [selected]
  split
  · rename_i single
    have two : usages.length = 2 := by omega
    rcases List.length_eq_one_iff.mp single with ⟨text, only⟩
    have isDelta : text ∈ (consecutive (usages.map value)).map fun pair => delta pair.1 pair.2 := by
      simp [only]
    rcases List.mem_map.mp isDelta with ⟨pair, -, rfl⟩
    rw [only]
    simp [two, nonempty]
  · rename_i several
    rw [List.getElem?_eq_none (by omega)]
    simp only [Option.getD_none, true_iff]
    omega

/-- The selected text is the expected one if the difference is exact, except that there must
not be a single difference if another one is asked for. -/
theorem selected_eq_expected_iff (positive : 1 ≤ k)
    (nonempty : ∀ before after, delta before after ≠ []) :
    selected ((consecutive (usages.map value)).map fun pair => delta pair.1 pair.2) k =
        expected (usages.map number) k ↔
      ¬(usages.length = 2 ∧ 2 ≤ k) ∧
        ∀ before after, usages[k - 1]? = some before → usages[k]? = some after →
          delta (value before) (value after) = decimalInt (number after - number before) := by
  rcases Nat.lt_or_ge k usages.length with there | missing
  · have isAfter : usages[k]? = some usages[k] := List.getElem?_eq_getElem there
    have isBefore : usages[k - 1]? = some usages[k - 1] := List.getElem?_eq_getElem (by omega)
    have wanted : expected (usages.map number) k =
        decimalInt (number usages[k] - number usages[k - 1]) := by
      rw [expected, List.getElem?_map, List.getElem?_map, isAfter, isBefore]
      rfl
    rw [selected_of_some positive isBefore isAfter, wanted]
    constructor
    · intro same
      refine ⟨by omega, fun before after foundBefore foundAfter => ?_⟩
      cases isBefore.symm.trans foundBefore
      cases isAfter.symm.trans foundAfter
      exact same
    · rintro ⟨-, exact⟩
      exact exact _ _ isBefore isAfter
  · have isAfter : usages[k]? = none := List.getElem?_eq_none missing
    have wanted : expected (usages.map number) k = [] := by
      rw [expected, List.getElem?_map, List.getElem?_map, isAfter]
      cases usages[k - 1]? <;> rfl
    rw [wanted, selected_of_none nonempty missing]
    constructor
    · intro notTwo
      refine ⟨fun two => notTwo two.1, fun before after _ foundAfter => ?_⟩
      cases isAfter.symm.trans foundAfter
    · rintro ⟨notTwo, -⟩
      omega

end Selection

/-! ## The scripts -/

section Scripts

variable (output : Output) {k : Nat}

theorem timeDelta_plain (before after : List Char × List Char) :
    PlainWord (timeDelta before after) :=
  decimalInt_plain _

theorem maxrssDelta_plain (before after : List Char) : PlainWord (maxrssDelta before after) :=
  Num.text_plain _

/-- A time field is read back if the difference that is asked for is exact. -/
theorem getrusageTime_eq_iff (positive : 1 ≤ k) (field : Field) (time : Rusage → UsedTime)
    (isTime : ∀ usage, field.value usage = (time usage).text) :
    getrusageTime field.name output.text k =
        expected (output.usages.map fun usage => (time usage).micros) k ↔
      ¬(output.usages.length = 2 ∧ 2 ≤ k) ∧
        ∀ before after, output.usages[k - 1]? = some before → output.usages[k]? = some after →
          TimeExact (time before).toTimeval (time after).toTimeval := by
  have reads (usage : Rusage) :
      matchTime (field.value usage ++ ['\n']) = some (time usage).digits := by
    rw [isTime, matchTime_text]
  rw [getrusageTime, getrusageDelta_output field output k _ reads timeDelta_plain,
    selected_eq_expected_iff positive fun before after => (timeDelta_plain before after).nonempty]
  simp only [timeDelta_eq_iff]

theorem getrusageMaxrss_eq_iff (positive : 1 ≤ k) :
    getrusageMaxrss Field.maxrss.name output.text k =
        expected (output.usages.map Rusage.ruMaxrss) k ↔
      ¬(output.usages.length = 2 ∧ 2 ≤ k) ∧
        ∀ before after, output.usages[k - 1]? = some before → output.usages[k]? = some after →
          -2 ^ 63 ≤ after.ruMaxrss - before.ruMaxrss := by
  have reads (usage : Rusage) : some (Field.maxrss.value usage ++ ['\n']) =
      some (decimalInt usage.ruMaxrss ++ ['\n']) := rfl
  rw [getrusageMaxrss, getrusageDelta_output .maxrss output k _ reads maxrssDelta_plain,
    selected_eq_expected_iff positive fun before after => (maxrssDelta_plain before after).nonempty]
  simp only [maxrssDelta_eq_iff (Rusage.isLong _) (Rusage.isLong _)]

end Scripts

/-- The scripts read back a difference exactly if it is in range, and if not a second one is
asked for where there is only one. -/
theorem reads_back_iff (output : Output) (k : Nat) (positive : 1 ≤ k) :
    ReadsBack output k ↔
      ¬(output.usages.length = 2 ∧ 2 ≤ k) ∧
        ∀ before after, output.usages[k - 1]? = some before → output.usages[k]? = some after →
          PairExact before after := by
  have utime := getrusageTime_eq_iff output positive .utime Rusage.ruUtime fun _ => rfl
  have stime := getrusageTime_eq_iff output positive .stime Rusage.ruStime fun _ => rfl
  have maxrss := getrusageMaxrss_eq_iff output positive
  constructor
  · intro reads
    rcases utime.mp reads.utime with ⟨several, utimeExact⟩
    refine ⟨several, fun before after isBefore isAfter => ⟨?_, ?_, ?_⟩⟩
    · exact utimeExact before after isBefore isAfter
    · exact (stime.mp reads.stime).2 before after isBefore isAfter
    · exact (maxrss.mp reads.maxrss).2 before after isBefore isAfter
  · rintro ⟨several, exact⟩
    refine ⟨utime.mpr ⟨several, ?_⟩, stime.mpr ⟨several, ?_⟩, maxrss.mpr ⟨several, ?_⟩⟩
    · exact fun before after isBefore isAfter => (exact before after isBefore isAfter).utime
    · exact fun before after isBefore isAfter => (exact before after isBefore isAfter).stime
    · exact fun before after isBefore isAfter => (exact before after isBefore isAfter).maxrss

/-- The usage of children that have computed for some seconds and used some memory. -/
def sampleUsage (sec : Fin 60) (maxrss : Fin 65536) : Rusage where
  ruUtime := ⟨⟨sec, 15⟩, by constructor <;> dsimp only <;> omega, by dsimp only; omega⟩
  ruStime := ⟨⟨0, 0⟩, by constructor <;> decide, by decide⟩
  ruMaxrss := maxrss
  ruIxrss := 0
  ruIdrss := 0
  ruIsrss := 0
  ruMinflt := 4096
  ruMajflt := 0
  ruNswap := 0
  ruInblock := 0
  ruOublock := 0
  ruMsgsnd := 0
  ruMsgrcv := 0
  ruNsignals := 0
  ruNvcsw := 0
  ruNivcsw := 0
  isLong := ⟨by omega, by omega⟩

/-- The output of records with nothing between them. -/
def recordsOnly (usages : List Rusage) : Output where
  front := []
  records := usages.map (·, [])
  noField := by
    intro text member field
    have empty : text = [] := by
      simp only [List.map_map, List.mem_cons, List.mem_map] at member
      rcases member with isFront | ⟨_, _, rfl⟩
      · exact isFront
      · rfl
    subst empty
    cases field <;> decide

theorem reads_back_iff_three :
    ReadsBack (recordsOnly [sampleUsage 0 0, sampleUsage 0 0, sampleUsage 2 16384]) 2 := by
  refine (reads_back_iff _ 2 (by decide)).mpr ⟨by decide, fun before after isBefore isAfter => ?_⟩
  cases isBefore
  cases isAfter
  exact ⟨⟨by decide, by decide, by decide⟩, ⟨by decide, by decide, by decide⟩, by decide⟩

/-- With two records the only difference is returned where nothing should be. -/
theorem single_delta_repeated :
    ¬ReadsBack (recordsOnly [sampleUsage 0 0, sampleUsage 2 16384]) 2 := by
  intro reads
  have several := ((getrusageMaxrss_eq_iff _ (by decide)).mp reads.maxrss).1
  exact several ⟨rfl, by decide⟩

end McKernelTest.Getrusage
