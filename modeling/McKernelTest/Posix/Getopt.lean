import Mathlib.Data.List.Basic

/-!
# GNU `getopt`

The scanner of the C library for short options, with the static variables
that survive from one call to the next.  It scans the argument vector from
`optind` on, may move operands behind the options it has seen, stops after the
element `--`, and can be restarted by assigning to `optind`.

The lemmas cover the calls that find an option with its argument in the next
element, and the call that finds `--`.  Both leave the vector as it is when no
operand has been skipped.
-/

namespace McKernelTest.Posix

/-- An element of an argument vector. -/
abbrev Arg := List Char

/-- How operands before the end of the options are treated: moved behind the
options, or taken as the end of the options as `POSIXLY_CORRECT` demands. -/
inductive ArgOrdering where
  | permute
  | requireOrder
  deriving DecidableEq, Repr

/-- The variables of the scanner.  `nextchar` is the unread rest of an element
that groups several options; it is empty between elements. -/
structure Getopt where
  optind : Nat
  nextchar : List Char
  firstNonopt : Nat
  lastNonopt : Nat
  optarg : Option Arg
  deriving DecidableEq, Repr

/-- The scanner of a process that has not called it yet. -/
def Getopt.fresh : Getopt where
  optind := 1
  nextchar := []
  firstNonopt := 1
  lastNonopt := 1
  optarg := none

/-- The result of a call: `-1`, an option letter, or `'?'`. -/
inductive GetoptResult where
  | finished
  | option (letter : Char)
  | unknown
  deriving DecidableEq, Repr

/-- Whether an option letter is in the option string, and if so whether it
takes an argument. -/
def takesArgument : List Char → Char → Option Bool
  | [], _ => none
  | candidate :: rest, letter =>
      if letter = ':' ∨ letter = ';' then none
      else if candidate = letter then some (rest.head? = some ':')
      else takesArgument rest letter

/-- An element that is not an option: it does not start with a dash, or it is
a single dash. -/
def isNonoption : Arg → Bool
  | '-' :: _ :: _ => false
  | _ => true

namespace Getopt

/-- Move the options between `lastNonopt` and `optind` in front of the
operands between `firstNonopt` and `lastNonopt`. -/
def exchange (argv : List Arg) (state : Getopt) : List Arg × Getopt :=
  (argv.take state.firstNonopt ++ (argv.take state.optind).drop state.lastNonopt ++
      (argv.take state.lastNonopt).drop state.firstNonopt ++ argv.drop state.optind,
    { state with
      firstNonopt := state.firstNonopt + (state.optind - state.lastNonopt)
      lastNonopt := state.optind })

/-- Bring the recorded operands back into the range before `optind`, as after
an assignment to `optind`. -/
def clamp (state : Getopt) : Getopt :=
  { state with
    lastNonopt := min state.lastNonopt state.optind
    firstNonopt := min state.firstNonopt state.optind }

/-- Collect the options seen so far and skip the operands that follow. -/
def skipOperands (argv : List Arg) (state : Getopt) : List Arg × Getopt :=
  let (argv, state) :=
    if state.firstNonopt ≠ state.lastNonopt ∧ state.lastNonopt ≠ state.optind then
      exchange argv state
    else if state.lastNonopt ≠ state.optind then
      (argv, { state with firstNonopt := state.optind })
    else
      (argv, state)
  let optind := state.optind + ((argv.drop state.optind).takeWhile isNonoption).length
  (argv, { state with optind := optind, lastNonopt := optind })

/-- Treat the element `--`: everything behind it is an operand. -/
def skipDashes (argv : List Arg) (state : Getopt) : List Arg × Getopt :=
  if argv[state.optind]? = some ['-', '-'] then
    let state := { state with optind := state.optind + 1 }
    let (argv, state) :=
      if state.firstNonopt ≠ state.lastNonopt ∧ state.lastNonopt ≠ state.optind then
        exchange argv state
      else if state.firstNonopt = state.lastNonopt then
        (argv, { state with firstNonopt := state.optind })
      else
        (argv, state)
    (argv, { state with lastNonopt := argv.length, optind := argv.length })
  else
    (argv, state)

/-- Move to the next element that is not an operand, as far as the ordering
allows. -/
def prepare (ordering : ArgOrdering) (argv : List Arg) (state : Getopt) : List Arg × Getopt :=
  match ordering with
  | .permute => skipOperands argv state.clamp
  | .requireOrder => (argv, state.clamp)

/-- Read one option letter from `nextchar`, and its argument if it takes one. -/
def readLetter (optstring : List Char) (argv : List Arg) (state : Getopt) :
    GetoptResult × Getopt :=
  match state.nextchar with
  | [] => (.finished, state)
  | letter :: rest =>
      let state :=
        { state with
          nextchar := rest
          optind := if rest = [] then state.optind + 1 else state.optind }
      match takesArgument optstring letter with
      | none => (.unknown, state)
      | some false => (.option letter, state)
      | some true =>
          if rest ≠ [] then
            (.option letter,
              { state with optarg := some rest, optind := state.optind + 1, nextchar := [] })
          else
            match argv[state.optind]? with
            | none => (.unknown, { state with nextchar := [] })
            | some value =>
                (.option letter,
                  { state with optarg := some value, optind := state.optind + 1, nextchar := [] })

/-- One call of `getopt`.  The vector is returned because operands may have
been moved. -/
def getopt (ordering : ArgOrdering) (optstring : List Char) (argv : List Arg) (state : Getopt) :
    GetoptResult × List Arg × Getopt :=
  let state := { state with optarg := none }
  let state := if state.optind = 0 then
    { state with optind := 1, nextchar := [], firstNonopt := 1, lastNonopt := 1 } else state
  if state.nextchar ≠ [] then
    let (result, state) := readLetter optstring argv state
    (result, argv, state)
  else
    let (argv, state) := prepare ordering argv state
    let (argv, state) := skipDashes argv state
    if state.optind = argv.length then
      (.finished, argv,
        if state.firstNonopt ≠ state.lastNonopt then
          { state with optind := state.firstNonopt } else state)
    else
      match argv[state.optind]? with
      | none => (.finished, argv, state)
      | some element =>
          if isNonoption element then
            (.finished, argv, state)
          else
            let (result, state) :=
              readLetter optstring argv { state with nextchar := element.tail }
            (result, argv, state)

/-! ## Calls without skipped operands -/

/-- The scanner stands between two elements and has skipped no operand. -/
structure AtElement (state : Getopt) : Prop where
  positive : 0 < state.optind
  between : state.nextchar = []
  noOperand : min state.firstNonopt state.optind = min state.lastNonopt state.optind

theorem fresh_atElement : fresh.AtElement :=
  ⟨by decide, rfl, rfl⟩

theorem skipOperands_of_option {argv : List Arg} {state : Getopt} {element : Arg}
    (atElement : state.AtElement) (found : argv[state.optind]? = some element)
    (isOption : isNonoption element = false) :
    skipOperands argv state.clamp =
      (argv, { state with firstNonopt := state.optind, lastNonopt := state.optind }) := by
  obtain ⟨bound, value⟩ := List.getElem?_eq_some_iff.mp found
  have dropped : argv.drop state.optind = element :: argv.drop (state.optind + 1) := by
    rw [List.drop_eq_getElem_cons bound, value]
  have noOperand := atElement.noOperand
  by_cases reached : state.lastNonopt < state.optind
  · have first : min state.firstNonopt state.optind = state.lastNonopt := by
      rw [noOperand, Nat.min_eq_left (Nat.le_of_lt reached)]
    have ne : state.lastNonopt ≠ state.optind := Nat.ne_of_lt reached
    simp [skipOperands, clamp, first, Nat.min_eq_left (Nat.le_of_lt reached), ne, dropped,
      isOption]
  · have last : min state.lastNonopt state.optind = state.optind :=
      Nat.min_eq_right (Nat.le_of_not_lt reached)
    have first : min state.firstNonopt state.optind = state.optind := noOperand.trans last
    simp [skipOperands, clamp, first, last, dropped, isOption]

/-- The part of a call before a letter is read, in either ordering: the vector
is unchanged, and the recorded operands are one empty range. -/
theorem prepare_of_option {argv : List Arg} {state : Getopt} {element : Arg}
    (ordering : ArgOrdering) (atElement : state.AtElement)
    (found : argv[state.optind]? = some element) (isOption : isNonoption element = false) :
    ∃ mark ≤ state.optind, prepare ordering argv state =
      (argv, { state with firstNonopt := mark, lastNonopt := mark }) := by
  cases ordering with
  | permute =>
      exact ⟨state.optind, Nat.le_refl _, skipOperands_of_option atElement found isOption⟩
  | requireOrder =>
      refine ⟨min state.lastNonopt state.optind, Nat.min_le_right _ _, ?_⟩
      simp only [prepare, clamp, atElement.noOperand]

/-- An option whose argument is the next element. -/
theorem getopt_option {argv : List Arg} {state : Getopt} {letter : Char} {value : Arg}
    {optstring : List Char} (ordering : ArgOrdering) (atElement : state.AtElement)
    (found : argv[state.optind]? = some ['-', letter]) (notDash : letter ≠ '-')
    (known : takesArgument optstring letter = some true)
    (next : argv[state.optind + 1]? = some value) :
    ∃ after : Getopt, getopt ordering optstring argv state = (.option letter, argv, after) ∧
      after.optind = state.optind + 2 ∧ after.optarg = some value ∧ after.AtElement := by
  obtain ⟨optind, nextchar, firstNonopt, lastNonopt, optarg⟩ := state
  obtain ⟨positive, rfl, noOperand⟩ := atElement
  dsimp only at *
  have cleared : (⟨optind, [], firstNonopt, lastNonopt, none⟩ : Getopt).AtElement :=
    ⟨positive, rfl, noOperand⟩
  obtain ⟨mark, bound, prepared⟩ := prepare_of_option ordering cleared found rfl
  have notZero : optind ≠ 0 := Nat.ne_of_gt positive
  have inside : optind ≠ argv.length :=
    Nat.ne_of_lt (List.getElem?_eq_some_iff.mp found).1
  refine ⟨⟨optind + 2, [], mark, mark, some value⟩, ?_, rfl, rfl, ⟨?_, rfl, rfl⟩⟩
  · simp only [getopt, notZero, if_false, ne_eq, not_true_eq_false, prepared]
    simp [skipDashes, found, notDash, inside, isNonoption, readLetter, known, next]
  · exact Nat.succ_pos _

/-- The element `--` ends the options; the operands start right behind it. -/
theorem getopt_dashes {argv : List Arg} {state : Getopt} (ordering : ArgOrdering)
    (optstring : List Char) (atElement : state.AtElement)
    (found : argv[state.optind]? = some ['-', '-']) :
    ∃ after : Getopt, getopt ordering optstring argv state = (.finished, argv, after) ∧
      after.optind = state.optind + 1 ∧ after.nextchar = [] ∧
      0 < after.firstNonopt ∧ 0 < after.lastNonopt := by
  obtain ⟨optind, nextchar, firstNonopt, lastNonopt, optarg⟩ := state
  obtain ⟨positive, rfl, noOperand⟩ := atElement
  dsimp only at *
  have cleared : (⟨optind, [], firstNonopt, lastNonopt, none⟩ : Getopt).AtElement :=
    ⟨positive, rfl, noOperand⟩
  obtain ⟨mark, bound, prepared⟩ := prepare_of_option ordering cleared found rfl
  have notZero : optind ≠ 0 := Nat.ne_of_gt positive
  have inside : optind < argv.length := (List.getElem?_eq_some_iff.mp found).1
  refine ⟨⟨optind + 1, [], optind + 1, argv.length, none⟩, ?_, rfl, rfl,
    Nat.succ_pos _, Nat.lt_of_le_of_lt (Nat.zero_le _) inside⟩
  simp only [getopt, notZero, if_false, ne_eq, not_true_eq_false, prepared]
  by_cases last : optind + 1 = argv.length <;> simp [skipDashes, found, last]

/-- Assigning 1 to `optind` restarts the scanner, whatever it recorded. -/
theorem restart_atElement {state : Getopt} (between : state.nextchar = [])
    (first : 0 < state.firstNonopt) (last : 0 < state.lastNonopt) :
    ({ state with optind := 1 } : Getopt).AtElement := by
  refine ⟨Nat.one_pos, between, ?_⟩
  show min state.firstNonopt 1 = min state.lastNonopt 1
  omega

end Getopt

end McKernelTest.Posix
