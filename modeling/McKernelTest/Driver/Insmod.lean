import McKernelTest.Driver.MmapDev2
import McKernelTest.Driver.Publication
import McKernelTest.Text.Strtoll

/-!
# The device files of `insmod_test_drv.sh`

The script reads the device numbers and the suite names from the driver's proc
files and creates one device file for each number.  Its pipelines are modelled
filter by filter.
-/

namespace McKernelTest.Driver

open Text

/-- A character device that `mknod` has created. -/
structure DeviceNode where
  path : List Char
  maj : Nat
  min : Nat
  deriving DecidableEq, Repr

/-- `sed 's/:[0-9]*//g'` on one line. -/
def sedDropMinor : List Char → List Char
  | [] => []
  | character :: rest =>
      if character = ':' then sedDropMinor (rest.dropWhile Char.isDigit)
      else character :: sedDropMinor rest
termination_by text => text.length
decreasing_by
  · exact Nat.lt_succ_of_le (List.dropWhile_sublist _).length_le
  · exact Nat.lt_succ_self _

/-- `sed 's/[0-9]*://g'` on one line. -/
def sedDropMajor (text : List Char) : List Char :=
  match _behind : text.dropWhile Char.isDigit with
  | ':' :: rest => sedDropMajor rest
  | _ =>
      match text with
      | [] => []
      | character :: rest => character :: sedDropMajor rest
termination_by text.length
decreasing_by
  · have length := (List.dropWhile_sublist (l := text) Char.isDigit).length_le
    rw [_behind] at length
    exact length
  · exact Nat.lt_succ_self _

/-- A number on the command line of `mknod`.  Other notations than the decimal one
are left out. -/
def mknodNumber (text : List Char) : Option Nat :=
  if text ≠ [] ∧ text.all Char.isDigit ∧ (text.head? = some '0' → text = ['0']) then
    some (Nat.ofDigitChars 10 text 0)
  else
    none

/-- `mknod`, which does not replace a file. -/
def mknod (nodes : List DeviceNode) (path maj min : List Char) : List DeviceNode :=
  match mknodNumber maj, mknodNumber min with
  | some maj, some min =>
      if nodes.any fun node => node.path = path then nodes else nodes ++ [⟨path, maj, min⟩]
  | _, _ => nodes

/-- `$test_mck_device_dir/$devname`. -/
def devicePath (devname : List Char) : List Char :=
  "/dev/test_mck".toList ++ ['/'] ++ devname

/-- The body of the loop of the script. -/
def createDeviceFile (devnos names : List Char) (nodes : List DeviceNode) (i : Nat) :
    List DeviceNode :=
  let entry := onLines (cutField ' ' i) (echo (words devnos))
  let maj := substitute (onLines sedDropMinor entry)
  let min := substitute (onLines sedDropMajor entry)
  let namesEnts := fieldCount (echoLine (words names))
  let devname :=
    if i > namesEnts then "test_mck".toList ++ min
    else substitute (onLines (cutField ' ' i) (echo (words names)))
  mknod nodes (devicePath devname) maj min

/-- The part of the script that creates the device files in an empty directory, from
the output of the two `cat` commands. -/
def createDeviceFiles (devnoFile namesFile : List Char) : List DeviceNode :=
  let devnos := substitute devnoFile
  let names := substitute namesFile
  let devnoEnts := fieldCount (echoLine (words devnos))
  (List.range devnoEnts).foldl (fun nodes k => createDeviceFile devnos names nodes (k + 1)) []

/-! ## Filters -/

section Filters

variable {maj min : List Char}

theorem colon_notDigit : Char.isDigit ':' = false :=
  rfl

theorem sedDropMinor_eq (digits : ∀ character ∈ maj, character.isDigit = true)
    (minDigits : ∀ character ∈ min, character.isDigit = true) :
    sedDropMinor (maj ++ ':' :: min) = maj := by
  induction maj with
  | nil =>
      have rest : min.dropWhile Char.isDigit = [] := List.dropWhile_eq_nil_iff.mpr minDigits
      rw [List.nil_append, sedDropMinor, if_pos rfl, rest, sedDropMinor]
  | cons character maj ih =>
      have digit := digits character List.mem_cons_self
      have notColon : character ≠ ':' := by
        rintro rfl
        rw [colon_notDigit] at digit
        cases digit
      rw [List.cons_append, sedDropMinor, if_neg notColon,
        ih fun other member => digits other (List.mem_cons_of_mem character member)]

theorem sedDropMajor_digits (digits : ∀ character ∈ min, character.isDigit = true) :
    sedDropMajor min = min := by
  induction min with
  | nil =>
      rw [sedDropMajor]
      simp
  | cons character min ih =>
      have rest : (character :: min).dropWhile Char.isDigit = [] :=
        List.dropWhile_eq_nil_iff.mpr digits
      rw [sedDropMajor]
      split
      · rename_i behind
        rw [rest] at behind
        cases behind
      · exact congrArg (character :: ·)
          (ih fun other member => digits other (List.mem_cons_of_mem character member))

theorem sedDropMajor_eq (digits : ∀ character ∈ maj, character.isDigit = true)
    (minDigits : ∀ character ∈ min, character.isDigit = true) :
    sedDropMajor (maj ++ ':' :: min) = min := by
  have behind : (maj ++ ':' :: min).dropWhile Char.isDigit = ':' :: min := by
    rw [List.dropWhile_append_of_pos digits, List.dropWhile_cons_of_neg (by simp [colon_notDigit])]
  rw [sedDropMajor]
  split
  · rename_i rest found
    rw [behind] at found
    cases found
    exact sedDropMajor_digits minDigits
  · rename_i none
    exact absurd behind (none min)

theorem mknodNumber_decimal (number : Nat) : mknodNumber (decimal number) = some number := by
  have digits : (decimal number).all Char.isDigit = true :=
    List.all_eq_true.mpr fun character member => (decimal_plain member).2.2
  have canonical : (decimal number).head? = some '0' → decimal number = ['0'] := by
    intro zero
    rw [decimal_head zero]
    rfl
  rw [mknodNumber, if_pos ⟨Nat.toDigits_ne_nil, digits, canonical⟩, decimal,
    Nat.ofDigitChars_ten_toDigits]

end Filters

/-! ## The loop -/

section Loop

variable {majorNumber count : Nat} {devnos namesText : List Char} {names : List (List Char)}

/-- The device files for a list of names. -/
def deviceNodes (majorNumber : Nat) (names : List (List Char)) : List DeviceNode :=
  names.mapIdx fun i name => ⟨devicePath name, majorNumber, i⟩

theorem devnoWords_plain : ∀ word ∈ devnoWords majorNumber 0 count, PlainWord word := by
  intro word member
  rcases List.mem_iff_getElem?.mp member with ⟨j, found⟩
  have known : j < count := by
    have bound := (List.getElem?_eq_some_iff.mp found).1
    rwa [devnoWords_length] at bound
  rw [devnoWords_getElem? known, Option.some.injEq] at found
  rw [← found]
  exact devnoWord_plain ..

/-- What a pipeline that starts with `echo` and `cut` yields. -/
theorem substitute_cut (filter : List Char → List Char) {list : List (List Char)}
    {word : List Char} {i : Nat} (plain : ∀ word ∈ list, PlainWord word)
    (found : list[i]? = some word) (single : '\n' ∉ filter word) :
    substitute (onLines filter (onLines (cutField ' ' (i + 1)) (echo list))) = filter word := by
  have noNewline : '\n' ∉ word := by
    intro inside
    have noIfs := (plain word (List.mem_of_getElem? found)).noIfs _ inside
    contradiction
  rw [echo, onLines_line _ (newline_notMem_echoLine plain), cutField_echoLine plain found,
    onLines_line _ noNewline, substitute_line single]

/-- One round of the loop creates the file of one device. -/
theorem createDeviceFile_eq {nodes : List DeviceNode} {k : Nat} {name : List Char}
    (numbers : words devnos = devnoWords majorNumber 0 count) (isNames : words namesText = names)
    (plain : ∀ name ∈ names, PlainWord name) (known : k < count) (found : names[k]? = some name)
    (fresh : ∀ node ∈ nodes, node.path ≠ devicePath name) :
    createDeviceFile devnos namesText nodes (k + 1) =
      nodes ++ [⟨devicePath name, majorNumber, k⟩] := by
  have word : (devnoWords majorNumber 0 count)[k]? = some (devnoWord majorNumber k) := by
    rw [devnoWords_getElem? known, Nat.zero_add]
  have digits : ∀ number, ∀ character ∈ decimal number, character.isDigit = true :=
    fun number character member => (decimal_plain member).2.2
  have dropsMinor : sedDropMinor (devnoWord majorNumber k) = decimal majorNumber :=
    sedDropMinor_eq (digits _) (digits _)
  have dropsMajor : sedDropMajor (devnoWord majorNumber k) = decimal k :=
    sedDropMajor_eq (digits _) (digits _)
  have maj := substitute_cut sedDropMinor devnoWords_plain word
    (dropsMinor ▸ newline_notMem_decimal _)
  have min := substitute_cut sedDropMajor devnoWords_plain word
    (dropsMajor ▸ newline_notMem_decimal _)
  have inNames : ¬k + 1 > fieldCount (echoLine names) := by
    have bound := (List.getElem?_eq_some_iff.mp found).1
    rw [fieldCount, words_echoLine plain]
    omega
  have noNewline : '\n' ∉ name := by
    intro inside
    have noIfs := (plain name (List.mem_of_getElem? found)).noIfs _ inside
    contradiction
  have devname : substitute (onLines (cutField ' ' (k + 1)) (echo names)) = name := by
    rw [echo, onLines_line _ (newline_notMem_echoLine plain), cutField_echoLine plain found,
      substitute_line noNewline]
  have unused : ¬(nodes.any fun node => node.path = devicePath name) = true := by
    simpa using fresh
  simp only [createDeviceFile, numbers, isNames, if_neg inNames, maj, min, devname, dropsMinor,
    dropsMajor, mknod, mknodNumber_decimal, if_neg unused]

/-- The files of the first `k` devices. -/
theorem createDeviceFile_foldl (numbers : words devnos = devnoWords majorNumber 0 names.length)
    (isNames : words namesText = names) (plain : ∀ name ∈ names, PlainWord name)
    (distinct : names.Nodup) (k : Nat) (bound : k ≤ names.length) :
    (List.range k).foldl (fun nodes k => createDeviceFile devnos namesText nodes (k + 1)) [] =
      deviceNodes majorNumber (names.take k) := by
  induction k with
  | zero => rfl
  | succ k ih =>
      have found : names[k]? = some names[k] := List.getElem?_eq_getElem bound
      have fresh : ∀ node ∈ deviceNodes majorNumber (names.take k),
          node.path ≠ devicePath names[k] := by
        intro node member samePath
        rcases List.mem_mapIdx.mp member with ⟨j, inside, rfl⟩
        have less : j < k := by
          rw [List.length_take] at inside
          omega
        have same : names[j] = names[k] := by
          rw [List.getElem_take] at samePath
          exact List.append_cancel_left samePath
        have equal := (List.Nodup.getElem_inj_iff distinct).mp same
        omega
      rw [List.range_succ, List.foldl_append, ih (Nat.le_of_succ_le bound), List.foldl_cons,
        List.foldl_nil, createDeviceFile_eq numbers isNames plain bound found fresh,
        List.take_succ_eq_append_getElem bound, deviceNodes, deviceNodes, List.mapIdx_concat,
        List.length_take_of_le (Nat.le_of_succ_le bound)]

/-- The loop creates the files of all devices. -/
theorem createDeviceFiles_eq {devnoFile namesFile : List Char}
    (numbers : words devnoFile = devnoWords majorNumber 0 names.length)
    (isNames : words namesFile = names) (plain : ∀ name ∈ names, PlainWord name)
    (distinct : names.Nodup) :
    createDeviceFiles devnoFile namesFile = deviceNodes majorNumber names := by
  have entries : fieldCount (echoLine (words (substitute devnoFile))) = names.length := by
    rw [words_substitute, numbers, fieldCount, words_echoLine devnoWords_plain, devnoWords_length]
  rw [createDeviceFiles, entries, createDeviceFile_foldl (by rw [words_substitute, numbers])
    (by rw [words_substitute, isNames]) plain distinct names.length (Nat.le_refl _),
    List.take_length]

end Loop

/-! ## The round trip -/

section RoundTrip

theorem SuiteName.plainWord (name : SuiteName) : PlainWord name.chars := by
  refine ⟨name.nonempty, fun character member => ?_⟩
  have plain := name.plain character member
  simp only [shellSpecial, Bool.or_eq_false_iff] at plain
  simp [isIfs, plain]

/-- The words of `/proc/test_mck/tp_names` are the names. -/
theorem words_testMckTpNames (devlist : List TestMckDev) :
    words (testMckTpNames devlist) = devlist.map fun dev => dev.tsName.chars := by
  induction devlist with
  | nil => exact words_nil
  | cons dev rest ih =>
      have split : words (dev.tsName.chars ++ List.replicate (0 + 1) ' ' ++ testMckTpNames rest) =
          dev.tsName.chars :: words (testMckTpNames rest) := dev.tsName.plainWord.words_append 0
      rw [ih] at split
      exact split

/-- `MAJOR` and `MINOR` undo `MKDEV`. -/
theorem mkdev_split {majorNumber minorNumber : Nat} (small : minorNumber < 2 ^ 20) :
    major (mkdev majorNumber minorNumber) = majorNumber ∧
      minor (mkdev majorNumber minorNumber) = minorNumber := by
  have sum : mkdev majorNumber minorNumber = 2 ^ 20 * majorNumber + minorNumber := by
    rw [mkdev, Nat.mul_comm, Nat.two_pow_add_eq_or_of_lt small]
  rw [sum, major, minor]
  omega

/-- A load without failures ends after the device loop and the proc files. -/
theorem testMckSetup_loaded {kernel : KernelCalls} {devno : Nat} {devlist : List TestMckDev}
    (region : kernel.allocChrdevRegion = .ok devno)
    (accepted : ForDevs (DevAccepted kernel) 0 devlist) (procDir : kernel.procMkdir = true)
    (files : ∀ i, kernel.procCreateData i = true) :
    ∃ state, testMckSetup kernel (.initial devlist) = (0, state) ∧
      state.testMckMajmin = (afterDevLoop kernel (major devno) (.initial devlist)).testMckMajmin ∧
      state.devlist = (afterDevLoop kernel (major devno) (.initial devlist)).devlist := by
  have finished : (runDevLoop kernel (major devno) (.initial devlist)).1 = true :=
    (setupDevs_finished_iff _ _ _ _ _ _).mpr accepted
  have procFiles := (initProcEnts_finished_iff kernel 0
    (afterDevLoop kernel (major devno) (.initial devlist)).procEnts).mpr fun j _ => files (0 + j)
  have procfs : (testMckInitProcfs kernel (afterDevLoop kernel (major devno)
      (.initial devlist))).1 = 0 := by
    simp [testMckInitProcfs, procDir, procFiles]
  have kept : (testMckInitProcfs kernel (afterDevLoop kernel (major devno)
      (.initial devlist))).2.testMckMajmin =
        (afterDevLoop kernel (major devno) (.initial devlist)).testMckMajmin ∧
      (testMckInitProcfs kernel (afterDevLoop kernel (major devno)
        (.initial devlist))).2.devlist =
          (afterDevLoop kernel (major devno) (.initial devlist)).devlist := by
    simp [testMckInitProcfs, procDir, DriverState.book]
  refine ⟨_, ?_, kept⟩
  simp [testMckSetup, region, finished, procfs]

/-- Device numbers round-trip through the proc files: after a load of up to 1000
devices with distinct names and a major number below 1000, the script creates
exactly one file for each device, under the name of its suite and with the numbers
that the driver has registered, and no size argument of `snprintf` is negative. -/
theorem devnos_round_trip (kernel : KernelCalls) (devno : Nat) (devlist : List TestMckDev)
    (nbytes : Nat) (region : kernel.allocChrdevRegion = .ok devno)
    (smallMajor : major devno < 1000) (most : devlist.length ≤ 1000)
    (distinct : (devlist.map fun dev => dev.tsName.chars).Nodup)
    (accepted : ForDevs (DevAccepted kernel) 0 devlist) (procDir : kernel.procMkdir = true)
    (files : ∀ i, kernel.procCreateData i = true) (positive : 0 < nbytes) :
    ∃ state, testMckSetup kernel (.initial devlist) = (0, state) ∧
      createDeviceFiles (cat (cString state.testMckMajmin) nbytes)
          (cat (testMckTpNames devlist) nbytes) =
        devlist.mapIdx (fun i dev => ⟨devicePath dev.tsName.chars, major devno, i⟩) ∧
      state.devlist.map (·.tsName) = devlist.map (·.tsName) ∧
      (∀ i dev, state.devlist[i]? = some dev → dev.devno = mkdev (major devno) i ∧
        major dev.devno = major devno ∧ minor dev.devno = i) ∧
      ∀ size ∈ (runDevLoop kernel (major devno) (.initial devlist)).2.1.sizes, 0 ≤ size := by
  rcases testMckSetup_loaded region accepted procDir files with
    ⟨state, loaded, majmin, stateDevs⟩
  rcases afterDevLoop_devno smallMajor most accepted with ⟨numbers, sizes⟩
  rcases setupDevs_devnos (sizeofMajmin devlist.length) (major devno)
    ⟨0, 0, (DriverState.initial devlist).testMckMajmin, [], []⟩ accepted with ⟨names, devnos⟩
  refine ⟨state, loaded, ?_, ?_, ?_, ?_⟩
  · have plain : ∀ name ∈ devlist.map fun dev => dev.tsName.chars, PlainWord name := by
      intro name member
      rcases List.mem_map.mp member with ⟨dev, -, rfl⟩
      exact dev.tsName.plainWord
    rw [majmin, cat_eq _ positive, cat_eq _ positive,
      createDeviceFiles_eq (by rw [numbers, List.length_map]) (words_testMckTpNames devlist) plain
        distinct, deviceNodes]
    apply List.ext_getElem?
    intro i
    rw [List.getElem?_mapIdx, List.getElem?_mapIdx, List.getElem?_map, Option.map_map]
    rfl
  · rw [stateDevs]
    exact names
  · intro i dev found
    rw [stateDevs] at found
    have registered := devnos i dev found
    rw [Nat.zero_add] at registered
    have known : i < devlist.length := by
      have bound := (List.getElem?_eq_some_iff.mp found).1
      have same := congrArg List.length names
      rw [List.length_map, List.length_map] at same
      exact bound.trans_eq same
    have split : major (mkdev (major devno) i) = major devno ∧ minor (mkdev (major devno) i) = i :=
      mkdev_split (by omega)
    rw [registered]
    exact ⟨rfl, split⟩
  · rw [sizes]
    exact roomsFor_nonneg devlist.length

end RoundTrip

/-- A kernel on which the load of the driver succeeds. -/
def willingKernel : KernelCalls where
  allocChrdevRegion := .ok (mkdev 246 0)
  classCreate := fun _ => true
  cdevAdd := fun _ => none
  deviceCreate := fun _ => true
  vmallocUser := fun _ => some sampleBuffer
  procMkdir := true
  procCreateData := fun _ => true

theorem devnos_round_trip_devlist :
    ∃ state, testMckSetup willingKernel (.initial testMckDevlist) = (0, state) ∧
      createDeviceFiles (cat (cString state.testMckMajmin) 4096)
          (cat (testMckTpNames testMckDevlist) 4096) =
        [⟨"/dev/test_mck/mmap_dev".toList, 246, 0⟩,
          ⟨"/dev/test_mck/mmap_dev2".toList, 246, 1⟩] := by
  have accepted : ForDevs (DevAccepted willingKernel) 0 testMckDevlist :=
    fun _ _ _ => ⟨rfl, rfl, fun _ => rfl⟩
  rcases devnos_round_trip willingKernel (mkdev 246 0) testMckDevlist 4096 rfl (by decide)
    (by decide) (by decide) accepted rfl (fun _ => rfl) (by decide) with ⟨state, loaded, nodes, -⟩
  exact ⟨state, loaded, nodes⟩

end McKernelTest.Driver
