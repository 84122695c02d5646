import McKernelTest.Gettid.Core

/-!
# What the check of `gettid#2` decides

All process ids should be one, every thread should keep its thread id, and no two threads
should share one.  The check compares each child but the last with itself, and with the
notes that the later children have made after they moved.  What the last child has noted
before it moved is never looked at.
-/

namespace McKernelTest.Gettid

open Process

/-- What the threads have noted. -/
abbrev Notes := Nat → Field → Int

/-- The loads return what has been noted. -/
def LoadsFrom (notes : Notes) (calls : List (Call Op Res)) : Prop :=
  ∀ num field value, ⟨.load num field, value⟩ ∈ calls → value = notes num field

/-- One process id, and a thread id for each child that it keeps and shares with none. -/
structure Consistent (notes : Notes) (childCount : Nat) : Prop where
  pid : ∃ pid, ∀ i < childCount, notes i .prePid = pid ∧ notes i .postPid = pid
  tid : ∀ i < childCount, notes i .preTid = notes i .postTid
  distinct : ∀ i j, i < j → j < childCount → notes i .preTid ≠ notes j .preTid

/-- The child has noted the same ids twice. -/
def Stable (notes : Notes) (i : Nat) : Prop :=
  notes i .prePid = notes i .postPid ∧ notes i .preTid = notes i .postTid

/-- The child has the process id of another and not its thread id, as far as the first
notes of the one and the second notes of the other say. -/
def Agrees (notes : Notes) (i j : Nat) : Prop :=
  notes i .prePid = notes j .postPid ∧ notes i .preTid ≠ notes j .postTid

/-- Every child but the last is stable and agrees with the children after it. -/
def OthersAgree (notes : Notes) (childCount : Nat) : Prop :=
  ∀ i, i + 1 < childCount → Stable notes i ∧ ∀ j, i < j → j < childCount → Agrees notes i j

/-! ## The notes of a thread -/

/-- The notes after a call. -/
def noteCall (notes : Notes) : Call Op Res → Notes
  | ⟨.store num field value, _⟩ => fun k other =>
      if k = num ∧ other = field then value else notes k other
  | _ => notes

/-- The notes after some calls; `calloc` has filled the array with zeros. -/
def notesAfter (calls : List (Call Op Res)) : Notes :=
  calls.foldl noteCall fun _ _ => 0

/-- A thread can note any ids. -/
theorem func_notes (num : Nat) (prePid postPid preTid postTid : Int) :
    ∃ calls, (func num).Performs calls none ∧ notesAfter calls num .prePid = prePid ∧
      notesAfter calls num .postPid = postPid ∧ notesAfter calls num .preTid = preTid ∧
      notesAfter calls num .postTid = postTid := by
  refine ⟨[⟨.schedGetcpu, 0⟩, ⟨.store num .preCpu 0, ()⟩, ⟨.getpid, prePid⟩,
    ⟨.store num .prePid prePid, ()⟩, ⟨.gettid, preTid⟩, ⟨.store num .preTid preTid, ()⟩,
    ⟨.loadChildCpu, -1⟩, ⟨.schedGetcpu, 0⟩, ⟨.storeChildCpu 0, ()⟩, ⟨.semPost (.sync num), ()⟩,
    ⟨.semWait (.start num), ()⟩, ⟨.schedGetcpu, 0⟩, ⟨.store num .postCpu 0, ()⟩,
    ⟨.getpid, postPid⟩, ⟨.store num .postPid postPid, ()⟩, ⟨.gettid, postTid⟩,
    ⟨.store num .postTid postTid, ()⟩,
    ⟨.printf "child#%d cpu:%d,%d pid:%d,%d tid:%d,%d\n"
      [num, 0, 0, prePid, postPid, preTid, postTid], ()⟩], ?_, ?_, ?_, ?_, ?_⟩
  · simp only [func, funcAfterMove, Code.perform_bind, Code.performs_call_cons, if_true,
      Code.pure_eq, Code.performs_ret, and_self]
  all_goals simp [notesAfter, noteCall]

/-! ## The check -/

section Traces

variable {notes : Notes} {calls : List (Call Op Res)} {result : Option String}

theorem LoadsFrom.tail {call : Call Op Res} (loads : LoadsFrom notes (call :: calls)) :
    LoadsFrom notes calls :=
  fun num field value member => loads num field value (List.mem_cons_of_mem _ member)

theorem LoadsFrom.left {first second : List (Call Op Res)}
    (loads : LoadsFrom notes (first ++ second)) : LoadsFrom notes first :=
  fun num field value member => loads num field value (List.mem_append_left _ member)

theorem LoadsFrom.right {first second : List (Call Op Res)}
    (loads : LoadsFrom notes (first ++ second)) : LoadsFrom notes second :=
  fun num field value member => loads num field value (List.mem_append_right _ member)

/-- A load at the head of a trace returns what has been noted. -/
theorem performs_load {A : Type} {num : Nat} {field : Field} {next : Int → Program A} {value : A}
    (loads : LoadsFrom notes calls)
    (performs : (Code.call (Op.load num field) next).Performs calls value) :
    ∃ rest, LoadsFrom notes rest ∧ (next (notes num field)).Performs rest value := by
  rcases performs with ⟨loaded, rest, rfl, performs⟩
  have isNote : loaded = notes num field := loads num field loaded List.mem_cons_self
  rw [isNote] at performs
  exact ⟨rest, loads.tail, performs⟩

/-- An assertion on two notes fails, or the code goes on. -/
theorem performs_assert {num other : Nat} {field otherField : Field} {test : Int → Int → Prop}
    [∀ first second, Decidable (test first second)] {message : String}
    {next : Program (Option String)} (loads : LoadsFrom notes calls)
    (performs : (Code.call (Op.load num field) fun first =>
      Code.call (Op.load other otherField) fun second =>
        if ¬test first second then pure (some message) else next).Performs calls result) :
    (¬test (notes num field) (notes other otherField) ∧ ¬result = none) ∨
      (test (notes num field) (notes other otherField) ∧
        ∃ rest, LoadsFrom notes rest ∧ next.Performs rest result) := by
  rcases performs_load loads performs with ⟨_, loads, performs⟩
  rcases performs_load loads performs with ⟨rest, loads, performs⟩
  split at performs
  · rename_i fails
    cases performs.2
    exact .inl ⟨fails, nofun⟩
  · rename_i holds
    exact .inr ⟨not_not.mp holds, rest, loads, performs⟩

/-- A loop from `j` on has a first round and others. -/
theorem forall_from_succ {P : Nat → Prop} {j remaining : Nat} :
    (∀ k, j ≤ k → k < j + (remaining + 1) → P k) ↔
      P j ∧ ∀ k, j + 1 ≤ k → k < j + 1 + remaining → P k := by
  constructor
  · intro all
    exact ⟨all j (Nat.le_refl j) (by omega), fun k least below => all k (by omega) (by omega)⟩
  · rintro ⟨first, later⟩ k least below
    rcases Nat.eq_or_lt_of_le least with rfl | greater
    · exact first
    · exact later k greater (by omega)

theorem checkAgainst_eq_none_iff {i j remaining : Nat} (loads : LoadsFrom notes calls)
    (performs : (checkAgainst i j remaining).Performs calls result) :
    result = none ↔ ∀ k, j ≤ k → k < j + remaining → Agrees notes i k := by
  induction remaining generalizing j calls with
  | zero =>
      cases performs.2
      simp only [true_iff]
      intro k least below
      omega
  | succ remaining ih =>
      simp only [checkAgainst, Code.perform_bind] at performs
      rw [forall_from_succ]
      rcases performs_assert loads performs with ⟨differ, fails⟩ | ⟨samePid, _, loads, performs⟩
      · exact iff_of_false fails fun all => differ all.1.1
      rcases performs_assert loads performs with ⟨same, fails⟩ | ⟨otherTid, _, loads, performs⟩
      · exact iff_of_false fails fun all => same all.1.2
      rw [ih loads performs]
      exact (and_iff_right ⟨samePid, otherTid⟩).symm

theorem checkChildren_eq_none_iff {i remaining last : Nat} (total : i + remaining = last)
    (loads : LoadsFrom notes calls)
    (performs : (checkChildren i remaining).Performs calls result) :
    result = none ↔ ∀ k, i ≤ k → k < i + remaining →
      Stable notes k ∧ ∀ j, k + 1 ≤ j → j < last + 1 → Agrees notes k j := by
  induction remaining generalizing i calls with
  | zero =>
      cases performs.2
      simp only [true_iff]
      intro k least below
      omega
  | succ remaining ih =>
      simp only [checkChildren, Code.perform_bind] at performs
      rw [forall_from_succ]
      rcases performs_assert loads performs with ⟨differ, fails⟩ | ⟨samePid, _, loads, performs⟩
      · exact iff_of_false fails fun all => differ all.1.1.1
      rcases performs_assert loads performs with ⟨differ, fails⟩ | ⟨sameTid, _, loads, performs⟩
      · exact iff_of_false fails fun all => differ all.1.1.2
      rcases (Code.performs_bind ..).mp performs with ⟨first, second, found, rfl, against, performs⟩
      have agrees_iff := checkAgainst_eq_none_iff loads.left against
      rw [show i + 1 + (remaining + 1) = last + 1 by omega] at agrees_iff
      cases found with
      | some message =>
          cases performs.2
          exact iff_of_false nofun fun all => nomatch agrees_iff.mpr all.1.2
      | none =>
          rw [ih (by omega) loads.right performs]
          exact (and_iff_right ⟨⟨samePid, sameTid⟩, agrees_iff.mp rfl⟩).symm

/-- The memory is there, and every thread is created. -/
def AllCreated (calls : List (Call Op Res)) : Prop :=
  (∀ count there, ⟨.calloc count, there⟩ ∈ calls → there = true) ∧
    ∀ num state, ⟨.pthreadCreate num, state⟩ ∈ calls → state = 0

theorem createChildren_eq_none {i remaining : Nat}
    (created : ∀ num state, ⟨.pthreadCreate num, state⟩ ∈ calls → state = 0)
    (performs : (createChildren i remaining).Performs calls result) : result = none := by
  induction remaining generalizing i calls with
  | zero => exact performs.2.symm
  | succ remaining ih =>
      simp only [createChildren, Code.perform_bind, Code.performs_call] at performs
      rcases performs with ⟨state, rest, rfl, performs⟩
      have succeeds : state = 0 := created i state List.mem_cons_self
      simp only [succeeds, ne_eq, not_true_eq_false, if_false, Code.performs_call] at performs
      rcases performs with ⟨_, _, rfl, _, _, rfl, performs⟩
      refine ih (fun num state member => created num state ?_) performs
      simp [member]

/-- If all threads are created, the run function succeeds if and only if its comparisons
do. -/
theorem runFunc_eq_none_iff {childCount : Int} (positive : 0 < childCount)
    (created : AllCreated calls) (loads : LoadsFrom notes calls)
    (performs : (runFunc childCount).Performs calls result) :
    result = none ↔ OthersAgree notes childCount.toNat := by
  simp only [runFunc, positive, not_true_eq_false, if_false, Code.perform_bind,
    Code.performs_call] at performs
  rcases performs with ⟨there, calls, rfl, performs⟩
  have isThere : there = true := created.1 childCount there List.mem_cons_self
  simp only [isThere, not_true_eq_false, if_false, Code.performs_bind] at performs
  rcases performs with ⟨inits, _, _, rfl, -, creates, rest, found, rfl, creating, performs⟩
  have succeeds : found = none := by
    refine createChildren_eq_none (fun num state member => created.2 num state ?_) creating
    simp [member]
  subst succeeds
  simp only [afterCreate, Code.performs_bind, Code.perform_bind, Code.performs_call] at performs
  rcases performs with ⟨_, _, _, rfl, -, _, _, _, rfl, -, _, _, rfl, checks, last, verdict, rfl,
    checking, performs⟩
  have checkLoads : LoadsFrom notes checks := loads.tail.right.right.right.right.tail.left
  have decided := checkChildren_eq_none_iff (Nat.zero_add _) checkLoads checking
  have same : result = none ↔ verdict = none := by
    cases verdict with
    | some message =>
        cases performs.2
        simp
    | none =>
        rcases performs with ⟨_, _, -, -, rfl⟩
        simp
  rw [same, decided]
  constructor
  · intro all i below
    rcases all i (Nat.zero_le i) (by omega) with ⟨stable, agree⟩
    exact ⟨stable, fun j after least => agree j after (by omega)⟩
  · intro all k _ below
    rcases all k (by omega) with ⟨stable, agree⟩
    exact ⟨stable, fun j after most => agree j after (by omega)⟩

end Traces

/-- The comparisons leave out one child. -/
theorem consistent_iff (notes : Notes) {childCount : Nat} (positive : 0 < childCount) :
    Consistent notes childCount ↔
      OthersAgree notes childCount ∧ Stable notes (childCount - 1) := by
  constructor
  · rintro ⟨⟨pid, pids⟩, tids, distinct⟩
    have stable : ∀ i < childCount, Stable notes i := by
      intro i below
      exact ⟨(pids i below).1.trans (pids i below).2.symm, tids i below⟩
    refine ⟨fun i next => ⟨stable i (by omega), fun j after below => ?_⟩, stable _ (by omega)⟩
    rw [Agrees, ← tids j below]
    exact ⟨(pids i (by omega)).1.trans (pids j below).2.symm, distinct i j after below⟩
  · rintro ⟨others, last⟩
    have stable : ∀ i < childCount, Stable notes i := by
      intro i below
      by_cases next : i + 1 < childCount
      · exact (others i next).1
      · have isLast : i = childCount - 1 := by omega
        rw [isLast]
        exact last
    refine ⟨⟨notes (childCount - 1) .postPid, fun i below => ?_⟩, fun i below => (stable i below).2,
      fun i j after below => ?_⟩
    · by_cases next : i + 1 < childCount
      · have samePid := ((others i next).2 (childCount - 1) (by omega) (by omega)).1
        exact ⟨samePid, (stable i below).1.symm.trans samePid⟩
      · have isLast : i = childCount - 1 := by omega
        rw [isLast]
        exact ⟨last.1, rfl⟩
    · rw [(stable j below).2]
      exact ((others i (by omega)).2 j after below).2

/-- The run function returns `NULL` exactly for consistent notes, if and only if the last
child has noted the same ids twice or one of the comparisons that are made fails. -/
theorem oracle_complete_iff (childCount : Int) (positive : 0 < childCount) (notes : Notes)
    (calls : List (Call Op Res)) (message : Option String)
    (performs : (runFunc childCount).Performs calls message) (created : AllCreated calls)
    (loads : LoadsFrom notes calls) :
    (message = none ↔ Consistent notes childCount.toNat) ↔
      Stable notes (childCount.toNat - 1) ∨ ¬OthersAgree notes childCount.toNat := by
  rw [runFunc_eq_none_iff positive created loads performs, consistent_iff notes (by omega)]
  by_cases others : OthersAgree notes childCount.toNat
  · simp [others]
  · simp [others]

/-! ## A run with two threads -/

/-- Two threads are created, and the notes that the check loads agree. -/
def twoThreads : List (Call Op Res) :=
  [⟨.calloc 2, true⟩, ⟨.storeNum 0, ()⟩, ⟨.semInit (.sync 0), ()⟩, ⟨.semInit (.start 0), ()⟩,
    ⟨.storeNum 1, ()⟩, ⟨.semInit (.sync 1), ()⟩, ⟨.semInit (.start 1), ()⟩,
    ⟨.pthreadCreate 0, 0⟩, ⟨.semWait (.sync 0), ()⟩, ⟨.sleep 1, ()⟩,
    ⟨.pthreadCreate 1, 0⟩, ⟨.semWait (.sync 1), ()⟩, ⟨.sleep 1, ()⟩,
    ⟨.semPost (.start 0), ()⟩, ⟨.semPost (.start 1), ()⟩,
    ⟨.pthreadJoin 0, ()⟩, ⟨.semDestroy (.sync 0), ()⟩, ⟨.semDestroy (.start 0), ()⟩,
    ⟨.pthreadJoin 1, ()⟩, ⟨.semDestroy (.sync 1), ()⟩, ⟨.semDestroy (.start 1), ()⟩,
    ⟨.fflush, ()⟩,
    ⟨.load 0 .prePid, 10⟩, ⟨.load 0 .postPid, 10⟩, ⟨.load 0 .preTid, 11⟩, ⟨.load 0 .postTid, 11⟩,
    ⟨.load 0 .prePid, 10⟩, ⟨.load 1 .postPid, 10⟩, ⟨.load 0 .preTid, 11⟩, ⟨.load 1 .postTid, 12⟩,
    ⟨.free, ()⟩]

/-- What the two threads have noted; the first notes of the second thread are left open. -/
def twoNotes (prePid preTid : Int) : Notes
  | 0, .prePid | 0, .postPid | 1, .postPid => 10
  | 0, .preTid | 0, .postTid => 11
  | 1, .postTid => 12
  | 1, .prePid => prePid
  | 1, .preTid => preTid
  | _, _ => 0

theorem twoThreads_performs : (runFunc 2).Performs twoThreads none :=
  Code.performs_of_replay rfl

theorem twoThreads_created : AllCreated twoThreads := by
  constructor
  · intro count there member
    simp [twoThreads] at member
    exact member.2
  · intro num state member
    simp [twoThreads] at member
    rcases member with ⟨-, succeeds⟩ | ⟨-, succeeds⟩
    · exact succeeds
    · exact succeeds

theorem twoThreads_loads (prePid preTid : Int) : LoadsFrom (twoNotes prePid preTid) twoThreads := by
  intro num field value member
  simp [twoThreads] at member
  rcases member with ⟨⟨rfl, rfl⟩, rfl⟩ | ⟨⟨rfl, rfl⟩, rfl⟩ | ⟨⟨rfl, rfl⟩, rfl⟩ | ⟨⟨rfl, rfl⟩, rfl⟩ |
    ⟨⟨rfl, rfl⟩, rfl⟩ | ⟨⟨rfl, rfl⟩, rfl⟩ | ⟨⟨rfl, rfl⟩, rfl⟩ | ⟨⟨rfl, rfl⟩, rfl⟩ <;> rfl

theorem oracle_complete_iff_two :
    ((none : Option String) = none ↔ Consistent (twoNotes 10 12) 2) ↔
      Stable (twoNotes 10 12) 1 ∨ ¬OthersAgree (twoNotes 10 12) 2 :=
  oracle_complete_iff 2 (by decide) (twoNotes 10 12) twoThreads none twoThreads_performs
    twoThreads_created (twoThreads_loads 10 12)

/-- The first notes of the second thread are another process id and another thread id, and
the run function returns `NULL`. -/
theorem last_child_unchecked :
    (runFunc 2).Performs twoThreads none ∧ LoadsFrom (twoNotes 99 98) twoThreads ∧
      ¬Consistent (twoNotes 99 98) 2 := by
  refine ⟨twoThreads_performs, twoThreads_loads 99 98, fun consistent => ?_⟩
  have changed : twoNotes 99 98 1 .preTid = twoNotes 99 98 1 .postTid :=
    consistent.tid 1 (by decide)
  exact absurd changed (by decide)

end McKernelTest.Gettid
