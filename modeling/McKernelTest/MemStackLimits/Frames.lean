import McKernelTest.MemStackLimits.Units
import Mathlib.Algebra.BigOperators.Group.List.Basic
import Mathlib.Algebra.GroupWithZero.Nat
import Mathlib.Data.List.Nodup

/-!
# The frames of the recursion

Every frame touches the pages of its array one after the other: the byte that is written
never belongs to the loop variable.  The frames are entered in the order of their sizes,
and none is left before the last one has been entered.
-/

namespace McKernelTest.MemStackLimits

open Machine Process

abbrev StackCall := Call Op Res

/-! ## One frame -/

/-- The number of pages that an array has a first byte of. -/
def MemUnit.pages (unit : MemUnit) : Nat :=
  (unit.sizeofTmp + (pageSize - 1)) / pageSize

/-- The store of one byte. -/
def touch (page : Nat) : StackCall :=
  ⟨.memset (page * pageSize), ()⟩

theorem sizeofTmp_le (unit : MemUnit) : unit.sizeofTmp ≤ 2 ^ 30 := by
  cases unit <;> decide

theorem pages_le (unit : MemUnit) : unit.pages ≤ 2 ^ 18 := by
  cases unit <;> decide

/-- The pages are those that begin inside the array. -/
theorem page_lt_iff (unit : MemUnit) (page : Nat) :
    page < unit.pages ↔ page * pageSize < unit.sizeofTmp := by
  rw [MemUnit.pages, pageSize_eq]
  omega

/-- The byte that is written is none of the loop variable. -/
theorem touch_outside (page : Nat) :
    page * pageSize < loopVariable ∨ loopVariable + 8 ≤ page * pageSize := by
  rw [pageSize_eq, loopVariable]
  omega

/-- One round of the loop goes on to the next page. -/
theorem load_after_touch {tmp : Memory} {page : Nat}
    (current : tmp.load loopVariable 8 = page * pageSize) (small : page * pageSize < 2 ^ 30) :
    let touched := tmp.setByte (tmp.load loopVariable 8) 0xFF
    (touched.store loopVariable (touched.load loopVariable 8 + pageSize) 8).load loopVariable 8 =
      (page + 1) * pageSize := by
  intro touched
  have unchanged : touched.load loopVariable 8 = page * pageSize := by
    rw [Memory.load_setByte _ (by rw [current]; exact touch_outside page), current]
  have isUlong : page * pageSize + pageSize < 256 ^ 8 :=
    calc
      page * pageSize + pageSize < 2 ^ 30 + pageSize := Nat.add_lt_add_right small pageSize
      _ < 256 ^ 8 := by decide
  rw [Memory.load_store, unchanged, Nat.succ_mul, Nat.mod_eq_of_lt isUlong]

/-- The loop touches the pages from the current one on and comes to its end. -/
theorem performs_touchPages {unit : MemUnit} {fuel page remaining : Nat} {tmp : Memory}
    {calls : List StackCall} {result : Option Memory}
    (current : tmp.load loopVariable 8 = page * pageSize) (total : page + remaining = unit.pages)
    (enough : remaining < fuel) (performs : (touchPages unit fuel tmp).Performs calls result) :
    calls = (List.range' page remaining).map touch ∧ ∃ final, result = some final := by
  induction remaining generalizing page fuel tmp calls with
  | zero =>
      obtain ⟨fuel, rfl⟩ := Nat.exists_eq_add_one_of_ne_zero (Nat.ne_of_gt enough)
      have done : ¬tmp.load loopVariable 8 < unit.sizeofTmp := by
        rw [current, ← page_lt_iff]
        omega
      rw [touchPages, if_neg done] at performs
      rcases performs with ⟨rfl, rfl⟩
      exact ⟨rfl, tmp, rfl⟩
  | succ remaining ih =>
      obtain ⟨fuel, rfl⟩ := Nat.exists_eq_add_one_of_ne_zero (Nat.ne_zero_of_lt enough)
      have inside : page * pageSize < unit.sizeofTmp := by
        rw [← page_lt_iff]
        omega
      have small := inside.trans_le (sizeofTmp_le unit)
      rw [touchPages, if_pos (current ▸ inside), Code.perform_bind] at performs
      rcases performs with ⟨_, rest, rfl, performs⟩
      rcases ih (load_after_touch current small) (by omega) (by omega) performs with ⟨rfl, final⟩
      refine ⟨?_, final⟩
      rw [List.range'_succ, List.map_cons, touch, ← current]

/-- A frame as it was entered: what its array held, and what `get_stack_addr` returned. -/
structure Frame where
  unit : MemUnit
  contents : Memory
  sp : Nat

/-- What a function does before it calls `stack_limit_func`. -/
def Frame.entry (frame : Frame) : List StackCall :=
  ⟨.enter frame.unit, frame.contents⟩ ::
    ((List.range frame.unit.pages).map touch ++ [⟨.getStackAddr, frame.sp⟩])

/-- The return from a frame. -/
def Frame.exit (frame : Frame) : StackCall :=
  ⟨.leave frame.unit, ()⟩

/-- A function enters its frame, calls `stack_limit_func` and leaves it again. -/
theorem performs_frameFunc {unit : MemUnit} {decrease : Globals → Globals} {fuel : Nat}
    {next : Globals → Program (Option Globals)} {globals : Globals} {calls : List StackCall}
    {result : Option Globals} (enough : unit.pages < fuel)
    (performs : (frameFunc unit decrease fuel next globals).Performs calls result) :
    ∃ (frame : Frame) (inner : List StackCall), frame.unit = unit ∧
      calls = frame.entry ++ inner ++ [frame.exit] ∧
      (next (decrease { globals with lastSp := frame.sp })).Performs inner result := by
  rw [frameFunc, Code.perform_bind] at performs
  rcases performs with ⟨contents, _, rfl, entered⟩
  rcases (Code.performs_bind _ _ _ _).mp entered with ⟨_, _, _, rfl, touched, continues⟩
  have first : (contents.store loopVariable 0 8).load loopVariable 8 = 0 * pageSize := by
    rw [Memory.load_store, Nat.zero_mod, Nat.zero_mul]
  rcases performs_touchPages first (Nat.zero_add _) enough touched with ⟨rfl, final, rfl⟩
  simp only [Code.perform_bind] at continues
  rcases continues with ⟨sp, _, rfl, calling⟩
  rcases (Code.performs_bind _ _ _ _).mp calling with ⟨inner, _, _, rfl, nested, ends⟩
  rcases ends with ⟨_, _, rfl, rfl, rfl⟩
  refine ⟨⟨unit, contents, sp⟩, inner, rfl, ?_, nested⟩
  simp [Frame.entry, Frame.exit, List.range_eq_range']

/-! ## All frames -/

/-- The frames for the counters, in the order in which they are entered. -/
def units (gib mib kib : Nat) : List MemUnit :=
  List.replicate gib .gib ++ List.replicate mib .mib ++ List.replicate kib .kib

/-- The trace of nested frames. -/
def nested (frames : List Frame) : List StackCall :=
  frames.flatMap Frame.entry ++ frames.reverse.map Frame.exit

theorem nested_cons (frame : Frame) (frames : List Frame) :
    nested (frame :: frames) = frame.entry ++ nested frames ++ [frame.exit] := by
  simp [nested]

/-- What the stack pointer was last, with the frames entered. -/
def spAfter (lastSp : Nat) (frames : List Frame) : Nat :=
  (frames.map Frame.sp).getLast?.getD lastSp

theorem spAfter_cons (lastSp : Nat) (frame : Frame) (frames : List Frame) :
    spAfter lastSp (frame :: frames) = spAfter frame.sp frames := by
  cases frames <;> simp [spAfter, List.getLast?_cons]

/-- The frames that the recursion has run through. -/
def RunsFrames (gib mib kib lastSp : Nat) (calls : List StackCall) (result : Option Globals) :
    Prop :=
  ∃ frames, frames.map Frame.unit = units gib mib kib ∧ calls = nested frames ∧
    result = some ⟨0, 0, 0, spAfter lastSp frames⟩

/-- One more frame around the others. -/
theorem RunsFrames.cons {gib mib kib lastSp : Nat} {frame : Frame} {inner : List StackCall}
    {result : Option Globals} (runs : RunsFrames gib mib kib frame.sp inner result)
    {gib' mib' kib' : Nat} (isNext : units gib' mib' kib' = frame.unit :: units gib mib kib) :
    RunsFrames gib' mib' kib' lastSp (frame.entry ++ inner ++ [frame.exit]) result := by
  rcases runs with ⟨frames, isUnits, rfl, rfl⟩
  refine ⟨frame :: frames, ?_, (nested_cons frame frames).symm, ?_⟩
  · rw [List.map_cons, isUnits, isNext]
  · rw [spAfter_cons]

/-- The recursion runs through all frames. -/
theorem performs_stackLimitFunc {gib mib kib lastSp fuel : Nat} {calls : List StackCall}
    {result : Option Globals} (enough : gib + mib + kib + 2 ^ 18 + 1 < fuel)
    (performs : (stackLimitFunc fuel ⟨gib, mib, kib, lastSp⟩).Performs calls result) :
    RunsFrames gib mib kib lastSp calls result := by
  -- The fuel goes down with the counters, so that every loop still has enough of it.
  induction fuel generalizing gib mib kib lastSp calls with
  | zero => omega
  | succ fuel ih =>
      have fits (unit : MemUnit) : unit.pages < fuel := by
        have most := pages_le unit
        omega
      have less (count : Nat) : ((count + 1 : Nat) : Int) - 1 = count := by omega
      rw [stackLimitFunc] at performs
      match gib, mib, kib with
      | gib + 1, mib, kib =>
          rw [if_pos (by simp; omega)] at performs
          rcases performs_frameFunc (fits _) performs with ⟨frame, inner, isUnit, rfl, inside⟩
          change (stackLimitFunc fuel ⟨((gib + 1 : Nat) : Int) - 1, mib, kib, frame.sp⟩).Performs
            inner result at inside
          rw [less] at inside
          exact (ih (by omega) inside).cons (by rw [isUnit]; rfl)
      | 0, mib + 1, kib =>
          rw [if_neg (by simp), if_pos (by simp; omega)] at performs
          rcases performs_frameFunc (fits _) performs with ⟨frame, inner, isUnit, rfl, inside⟩
          change (stackLimitFunc fuel
            ⟨(0 : Nat), ((mib + 1 : Nat) : Int) - 1, kib, frame.sp⟩).Performs inner result
            at inside
          rw [less] at inside
          exact (ih (by omega) inside).cons (by rw [isUnit]; rfl)
      | 0, 0, kib + 1 =>
          rw [if_neg (by simp), if_neg (by simp), if_pos (by simp; omega)] at performs
          rcases performs_frameFunc (fits _) performs with ⟨frame, inner, isUnit, rfl, inside⟩
          change (stackLimitFunc fuel
            ⟨(0 : Nat), (0 : Nat), ((kib + 1 : Nat) : Int) - 1, frame.sp⟩).Performs inner result
            at inside
          rw [less] at inside
          exact (ih (by omega) inside).cons (by rw [isUnit]; rfl)
      | 0, 0, 0 =>
          rw [if_neg (by simp), if_neg (by simp), if_neg (by simp)] at performs
          rcases performs with ⟨rfl, rfl⟩
          exact ⟨[], rfl, rfl, rfl⟩

/-! ## The stack -/

/-- The frames that are open, the innermost first, and those that have been left, the last
one first.  A frame comes with the offsets that it has written in its array. -/
structure Stack where
  opened : List (MemUnit × List Nat)
  closed : List (MemUnit × List Nat)

/-- What an operation does to the stack. -/
def Stack.step (stack : Stack) : Op → Stack
  | .enter unit => { stack with opened := (unit, []) :: stack.opened }
  | .memset offset =>
      match stack.opened with
      | [] => stack
      | (unit, offsets) :: frames => { stack with opened := (unit, offsets ++ [offset]) :: frames }
  | .leave _ =>
      match stack.opened with
      | [] => stack
      | frame :: frames => ⟨frames, frame :: stack.closed⟩
  | .getStackAddr | .printf _ _ => stack

/-- The stack after some calls. -/
def Stack.after (stack : Stack) (calls : List StackCall) : Stack :=
  calls.foldl (fun stack call => stack.step call.op) stack

/-- The bytes of the arrays of the open frames. -/
def Stack.arrayBytes (stack : Stack) : Nat :=
  (stack.opened.map fun frame => frame.1.sizeofTmp).sum

/-- The offsets of the first bytes of the pages. -/
def pageOffsets (unit : MemUnit) : List Nat :=
  (List.range unit.pages).map (· * pageSize)

/-- A frame that has touched its pages. -/
def touchedFrame (unit : MemUnit) : MemUnit × List Nat :=
  (unit, pageOffsets unit)

theorem Stack.after_append (stack : Stack) (first second : List StackCall) :
    stack.after (first ++ second) = (stack.after first).after second :=
  List.foldl_append

theorem Stack.after_touches (unit : MemUnit) (offsets pages : List Nat)
    (frames closed : List (MemUnit × List Nat)) :
    (Stack.mk ((unit, offsets) :: frames) closed).after (pages.map touch) =
      ⟨(unit, offsets ++ pages.map (· * pageSize)) :: frames, closed⟩ := by
  induction pages generalizing offsets with
  | nil => rw [List.map_nil, List.map_nil, List.append_nil]; rfl
  | cons page pages ih =>
      rw [List.map_cons, List.map_cons, List.append_cons]
      exact ih _

theorem Stack.after_entry (stack : Stack) (frame : Frame) :
    stack.after frame.entry = { stack with opened := touchedFrame frame.unit :: stack.opened } := by
  change (Stack.mk ((frame.unit, []) :: stack.opened) stack.closed).after
    ((List.range frame.unit.pages).map touch ++ [⟨.getStackAddr, frame.sp⟩]) = _
  rw [after_append, after_touches]
  rfl

theorem Stack.after_entries (stack : Stack) (frames : List Frame) :
    stack.after (frames.flatMap Frame.entry) =
      { stack with
        opened := (frames.map fun frame => touchedFrame frame.unit).reverse ++ stack.opened } := by
  induction frames generalizing stack with
  | nil => rfl
  | cons frame frames ih =>
      rw [List.flatMap_cons, after_append, after_entry, ih]
      simp

theorem Stack.after_exits (stack : Stack) (frames : List Frame) :
    stack.after (frames.map Frame.exit) =
      ⟨stack.opened.drop frames.length,
        (stack.opened.take frames.length).reverse ++ stack.closed⟩ := by
  induction frames generalizing stack with
  | nil => rfl
  | cons frame frames ih =>
      change (stack.step (.leave frame.unit)).after (frames.map Frame.exit) = _
      rw [ih]
      rcases stack with ⟨opened, closed⟩
      cases opened with
      | nil => simp [step]
      | cons first opened => simp [step]

/-- No frame is left before all are open, and all are left in the end. -/
theorem Stack.after_nested (frames : List Frame) :
    (Stack.mk [] []).after (nested frames) =
      ⟨[], frames.map fun frame => touchedFrame frame.unit⟩ := by
  rw [nested, after_append, after_entries, after_exits, List.append_nil]
  rw [List.take_of_length_le (by simp), List.drop_of_length_le (by simp)]
  simp

theorem arrayBytes_units (gib mib kib : Nat) :
    (Stack.mk ((units gib mib kib).map touchedFrame).reverse []).arrayBytes =
      gib * 2 ^ 30 + mib * 2 ^ 20 + kib * 2 ^ 10 := by
  rw [Stack.arrayBytes, List.map_reverse, List.sum_reverse]
  simp [units, touchedFrame, MemUnit.sizeofTmp, MemUnit.ulongCount, Nat.add_assoc]

/-! ## The whole recursion -/

/-- The frames in the order in which they are entered. -/
def entered (calls : List StackCall) : List MemUnit :=
  calls.filterMap fun call => match call.op with
    | .enter unit => some unit
    | _ => none

theorem entered_append (first second : List StackCall) :
    entered (first ++ second) = entered first ++ entered second :=
  List.filterMap_append

theorem entered_entries (frames : List Frame) :
    entered (frames.flatMap Frame.entry) = frames.map Frame.unit := by
  induction frames with
  | nil => rfl
  | cons frame frames ih =>
      have first : entered frame.entry = [frame.unit] := by
        simp [entered, Frame.entry, touch]
      rw [List.flatMap_cons, entered_append, first, ih]
      rfl

theorem entered_nested (frames : List Frame) : entered (nested frames) = frames.map Frame.unit := by
  have exits : entered (frames.reverse.map Frame.exit) = [] := by
    simp [entered, Frame.exit]
  rw [nested, entered_append, entered_entries, exits, List.append_nil]

/-- The recursion does what the counters ask for: it enters the frames in order, at some
point all of them are open, and in the end all have been left and the counters are 0.
Every frame has touched the pages of its array. -/
structure Consumes (gib mib kib : Nat) (calls : List StackCall) (result : Option Globals) :
    Prop where
  entered_eq : entered calls = units gib mib kib
  deepest : ∃ before after, calls = before ++ after ∧
    (Stack.mk [] []).after before = ⟨((units gib mib kib).map touchedFrame).reverse, []⟩ ∧
    ((Stack.mk [] []).after before).arrayBytes = gib * 2 ^ 30 + mib * 2 ^ 20 + kib * 2 ^ 10
  left : (Stack.mk [] []).after calls = ⟨[], (units gib mib kib).map touchedFrame⟩
  counters : ∃ lastSp, result = some ⟨0, 0, 0, lastSp⟩

theorem RunsFrames.consumes {gib mib kib lastSp : Nat} {calls : List StackCall}
    {result : Option Globals} (runs : RunsFrames gib mib kib lastSp calls result) :
    Consumes gib mib kib calls result := by
  rcases runs with ⟨frames, isUnits, rfl, rfl⟩
  have touched : (frames.map fun frame => touchedFrame frame.unit) =
      (units gib mib kib).map touchedFrame := by
    rw [← isUnits, List.map_map]
    rfl
  have deepest : (Stack.mk [] []).after (frames.flatMap Frame.entry) =
      ⟨((units gib mib kib).map touchedFrame).reverse, []⟩ := by
    rw [Stack.after_entries, touched, List.append_nil]
  exact {
    entered_eq := by rw [entered_nested, isUnits]
    deepest := ⟨_, _, rfl, deepest, by rw [deepest, arrayBytes_units]⟩
    left := by rw [Stack.after_nested, touched]
    counters := ⟨_, rfl⟩ }

/-- The pages of an array are touched once each, at their first byte, and none of these
bytes belongs to the loop variable. -/
structure TouchesPages (unit : MemUnit) : Prop where
  once : (pageOffsets unit).Nodup
  all : ∀ offset, offset ∈ pageOffsets unit ↔ offset % pageSize = 0 ∧ offset < unit.sizeofTmp
  outside : ∀ offset ∈ pageOffsets unit,
    offset < loopVariable ∨ loopVariable + 8 ≤ offset

theorem touchesPages (unit : MemUnit) : TouchesPages unit where
  once := by
    refine List.Nodup.map ?_ List.nodup_range
    intro first second same
    exact Nat.eq_of_mul_eq_mul_right (by decide) same
  all := by
    intro offset
    rw [pageOffsets, List.mem_map]
    constructor
    · rintro ⟨page, member, rfl⟩
      exact ⟨Nat.mul_mod_left _ _, (page_lt_iff unit page).mp (List.mem_range.mp member)⟩
    · rintro ⟨first, inside⟩
      obtain ⟨page, rfl⟩ := Nat.dvd_of_mod_eq_zero first
      rw [Nat.mul_comm] at inside ⊢
      exact ⟨page, List.mem_range.mpr ((page_lt_iff unit page).mpr inside), rfl⟩
  outside := by
    intro offset member
    rcases List.mem_map.mp member with ⟨page, -, rfl⟩
    exact touch_outside page

theorem nonempty_res (op : Op) : Nonempty (Res op) := by
  cases op <;> first | exact ⟨()⟩ | exact ⟨(0 : Nat)⟩ | exact ⟨fun _ => 0⟩

/-- For all counters the recursion ends, if it has enough fuel, and then it has done what
the counters ask for. -/
theorem stack_consumed (gib mib kib lastSp : Nat) :
    (∃ bound, ∀ fuel ≥ bound,
      (∃ calls result, (stackLimitFunc fuel ⟨gib, mib, kib, lastSp⟩).Performs calls result) ∧
      ∀ calls result, (stackLimitFunc fuel ⟨gib, mib, kib, lastSp⟩).Performs calls result →
        Consumes gib mib kib calls result) ∧
    ∀ unit, TouchesPages unit := by
  refine ⟨⟨gib + mib + kib + 2 ^ 18 + 2, fun fuel enough => ⟨?_, ?_⟩⟩, touchesPages⟩
  · exact Code.exists_performs nonempty_res _
  · intro calls result performs
    exact (performs_stackLimitFunc enough performs).consumes

/-- One GiB frame around two KiB frames. -/
theorem stack_consumed_three : ∃ bound, ∀ fuel ≥ bound, ∀ calls result,
    (stackLimitFunc fuel ⟨(1 : Nat), (0 : Nat), (2 : Nat), 0⟩).Performs calls result →
      Consumes 1 0 2 calls result := by
  rcases (stack_consumed 1 0 2 0).1 with ⟨bound, runs⟩
  exact ⟨bound, fun fuel enough => (runs fuel enough).2⟩

/-! ## The run function -/

/-- Below the limit of `value_to_unit` the test succeeds, and at the deepest point the
arrays have all bytes of the requested size up to a part of a KiB. -/
theorem run_consumes_size {size fuel : Nat} {calls : List StackCall}
    {result : Option (Option String)} (nonzero : size ≠ 0) (small : size < 2 ^ 61)
    (enough : size / 0x40000000 + 2 ^ 19 < fuel)
    (performs : (runFunc fuel (some size)).Performs calls result) :
    result = some none ∧ ∃ before after, calls = before ++ after ∧
      ((Stack.mk [] []).after before).arrayBytes + size % 0x400 = size := by
  have units := valueToUnit_of_lt small
  have few : size / 0x40000000 + size % 0x40000000 / 0x100000 + size % 0x100000 / 0x400 +
      2 ^ 18 + 1 < fuel := by omega
  have bytes : size / 0x40000000 * 2 ^ 30 + size % 0x40000000 / 0x100000 * 2 ^ 20 +
      size % 0x100000 / 0x400 * 2 ^ 10 + size % 0x400 = size := by omega
  rw [runFunc, Code.perform_bind] at performs
  rcases performs with ⟨firstSp, _, rfl, started⟩
  simp only [nonzero, if_false, units, Code.perform_bind] at started
  rcases started with ⟨_, _, rfl, called⟩
  rcases (Code.performs_bind _ _ _ _).mp called with ⟨inner, _, _, rfl, recursion, ends⟩
  have consumes := (performs_stackLimitFunc few recursion).consumes
  rcases consumes.deepest with ⟨before, after, rfl, -, total⟩
  rcases consumes.counters with ⟨lastSp, rfl⟩
  dsimp only at ends
  rcases ends with ⟨_, _, rfl, rfl, rfl⟩
  refine ⟨rfl, _ :: _ :: before, after ++ [_], List.append_assoc (_ :: _ :: before) after [_], ?_⟩
  change ((Stack.mk [] []).after before).arrayBytes + size % 0x400 = size
  rw [total, bytes]

end McKernelTest.MemStackLimits
