import McKernelTest.Kill.Core

/-!
# Whom the kill test cases act on

What matters of a run is whom it forks, moves to another process group and waits for, and
whether it reads an entry of `child_pids` that has not been written.  The loops at the
end run to `proc_num`, whatever the fork loop has reached, so a `fork` that fails after a
successful one makes the run function read past what it has written.

Two more failures leave children that nobody waits for: the parent ends at the store of the
first process id if there is no array, and it calls `_exit` if its own `signal` fails.
-/

namespace McKernelTest.Kill

open Posix Process

/-- What is done to a process, or with an entry that has no process. -/
inductive Deed where
  | forked (pid : Int)
  | moved (pid : Int)
  | awaited (pid : Int)
  | readUnwritten (index : Nat)
  deriving DecidableEq, Repr

/-- What a call does. -/
def deedOf : Call Op Res → List Deed
  | ⟨.fork _, pid⟩ => if (0 : Int) < pid then [.forked pid] else []
  | ⟨.setpgid pid _, _⟩ => [.moved pid]
  | ⟨.waitpid pid, _⟩ => [.awaited pid]
  | ⟨.loadUnwritten index, _⟩ => [.readUnwritten index]
  | _ => []

/-- What a list of calls does. -/
def deeds (calls : List (Call Op Res)) : List Deed :=
  calls.flatMap deedOf

@[simp]
theorem deeds_nil : deeds [] = [] :=
  rfl

@[simp]
theorem deeds_cons (call : Call Op Res) (calls : List (Call Op Res)) :
    deeds (call :: calls) = deedOf call ++ deeds calls := by
  simp [deeds]

@[simp]
theorem deeds_append (first second : List (Call Op Res)) :
    deeds (first ++ second) = deeds first ++ deeds second := by
  simp [deeds]

namespace Deed

/-- The process that is forked. -/
def forked? : Deed → Option Int
  | .forked pid => some pid
  | _ => none

/-- The process that is moved to another process group. -/
def moved? : Deed → Option Int
  | .moved pid => some pid
  | _ => none

/-- The process that is waited for. -/
def awaited? : Deed → Option Int
  | .awaited pid => some pid
  | _ => none

end Deed

/-- If there are children, the run waits for exactly these, `kill#2` moves exactly these,
and only written entries are read. -/
def ActsOnChildren (test : KillTest) (calls : List (Call Op Res)) : Prop :=
  (deeds calls).filterMap Deed.forked? ≠ [] →
    (deeds calls).filterMap Deed.awaited? = (deeds calls).filterMap Deed.forked? ∧
      (test = .kill2 →
        (deeds calls).filterMap Deed.moved? = (deeds calls).filterMap Deed.forked?) ∧
      ∀ index, .readUnwritten index ∉ deeds calls

/-- What the system answers in the parent. -/
structure Answers where
  /-- The result of `get_cpu_id`. -/
  cpuId : Int
  /-- The address of the array, or 0. -/
  table : Nat
  /-- The result of `fork` in each round. -/
  forks : Nat → Int
  /-- The `errno` of the parent's `signal`, if it fails. -/
  failure : Option Int
  isForkResult : ∀ cnt, isForkResult (forks cnt) = true

/-- The call has the result that the system gives it. -/
def Answers.Gives (answers : Answers) : Call Op Res → Prop
  | ⟨.getCpuId, id⟩ => id = answers.cpuId
  | ⟨.malloc _, table⟩ => table = answers.table
  | ⟨.fork cnt, pid⟩ => pid = answers.forks cnt
  | ⟨.signal, failure⟩ => failure = answers.failure
  | _ => True

/-- All calls have the results that the system gives them. -/
def Answers.GivesAll (answers : Answers) (calls : List (Call Op Res)) : Prop :=
  ∀ call ∈ calls, answers.Gives call

theorem Answers.givesAll_append {answers : Answers} {first second : List (Call Op Res)} :
    answers.GivesAll (first ++ second) ↔ answers.GivesAll first ∧ answers.GivesAll second :=
  List.forall_mem_append

/-- The entries written for the children below `count`. -/
def written (forks : Nat → Int) (count : Nat) : ChildPids :=
  fun index => if index < count then some (forks index) else none

theorem written_succ (forks : Nat → Int) (count : Nat) :
    Function.update (written forks count) count (some (forks count)) =
      written forks (count + 1) := by
  funext index
  by_cases same : index = count
  · subst same
    simp [written]
  · rw [Function.update_of_ne same]
    have below : index < count ↔ index < count + 1 := by omega
    simp [written, below]

/-! ## The loops -/

section Traces

variable {calls : List (Call Op Res)} {forks : Nat → Int} {count cnt remaining : Nat}

/-- A read of a written entry. -/
theorem loadPid_written (known : cnt < count) :
    loadPid (written forks count) cnt = .ret (forks cnt) := by
  simp [loadPid, written, known]

/-- A read of an entry that has not been written. -/
theorem loadPid_unwritten (missing : count ≤ cnt) :
    loadPid (written forks count) cnt = loadUnwritten cnt := by
  simp [loadPid, written, Nat.not_lt.mpr missing]

theorem waitLoop_deeds {done : Unit} (known : cnt + remaining ≤ count)
    (performs : (waitLoop (written forks count) cnt remaining).Performs calls done) :
    deeds calls = (List.range' cnt remaining).map fun index => .awaited (forks index) := by
  induction remaining generalizing cnt calls with
  | zero =>
      cases performs.1
      rfl
  | succ remaining ih =>
      rw [waitLoop, loadPid_written (by omega)] at performs
      rcases performs with ⟨_, rest, rfl, performs⟩
      rw [deeds_cons, ih (by omega) performs, List.range'_succ, List.map_cons]
      rfl

/-- The loop reads an entry in its way that has not been written. -/
theorem waitLoop_reads {done : Unit} (least : cnt ≤ count) (below : count < cnt + remaining)
    (performs : (waitLoop (written forks count) cnt remaining).Performs calls done) :
    .readUnwritten count ∈ deeds calls := by
  induction remaining generalizing cnt calls with
  | zero => omega
  | succ remaining ih =>
      rw [waitLoop] at performs
      rcases Nat.eq_or_lt_of_le least with rfl | known
      · rw [loadPid_unwritten (Nat.le_refl _)] at performs
        rcases performs with ⟨_, rest, rfl, performs⟩
        simp [deedOf]
      · rw [loadPid_written known] at performs
        rcases performs with ⟨_, rest, rfl, performs⟩
        rw [deeds_cons]
        exact List.mem_append_right _ (ih known (by omega) performs)

theorem setpgidLoop_deeds {done : Unit} {childPgid : Int} (known : cnt + remaining ≤ count)
    (performs : (setpgidLoop (written forks count) childPgid cnt remaining).Performs calls done) :
    deeds calls = (List.range' cnt remaining).map fun index => .moved (forks index) := by
  induction remaining generalizing cnt calls with
  | zero =>
      cases performs.1
      rfl
  | succ remaining ih =>
      rw [setpgidLoop, loadPid_written (by omega)] at performs
      simp only [Code.ret_bind, Code.perform_bind, Code.performs_call] at performs
      rcases performs with ⟨pgid, _, rfl, _, _, rfl, result, rest, rfl, performs⟩
      split at performs
      · rcases performs with ⟨_, rest, rfl, performs⟩
        simp only [deeds_cons, ih (by omega) performs, List.range'_succ, List.map_cons]
        rfl
      · simp only [deeds_cons, ih (by omega) performs, List.range'_succ, List.map_cons]
        rfl

/-- The fork loop ends with its last round or with the first `fork` that fails; the
children before that are forked and their entries written.  Without an array it ends with
the first child. -/
theorem forkLoop_cases {answers : Answers} {next : Nat → ChildPids → Nat → Program Ending}
    {ending : Ending} (given : answers.GivesAll calls)
    (performs : (forkLoop answers.table next cnt (written answers.forks cnt) remaining).Performs
      calls ending) :
    (answers.table = 0 ∧ 0 < answers.forks cnt ∧ deeds calls = [.forked (answers.forks cnt)]) ∨
      ∃ reached flag first rest, calls = first ++ rest ∧ cnt ≤ reached ∧
        (cnt < reached → answers.table ≠ 0) ∧
        (∀ index, cnt ≤ index → index < reached → 0 < answers.forks index) ∧
        (reached = cnt + remaining ∧ flag = 0 ∨
          reached < cnt + remaining ∧ answers.forks reached = -1 ∧ flag = 1) ∧
        deeds first =
          (List.range' cnt (reached - cnt)).map (fun index => .forked (answers.forks index)) ∧
        (next reached (written answers.forks reached) flag).Performs rest ending := by
  induction remaining generalizing cnt calls with
  | zero =>
      exact Or.inr ⟨cnt, 0, [], calls, rfl, Nat.le_refl _, fun more => by omega,
        fun index least below => by omega, Or.inl ⟨rfl, rfl⟩, by simp, performs⟩
  | succ remaining ih =>
      simp only [forkLoop, Code.perform_bind, Code.performs_call] at performs
      rcases performs with ⟨child, calls, rfl, performs⟩
      have isChild : child = answers.forks cnt := given _ List.mem_cons_self
      subst isChild
      rcases (isForkResult_iff _).mp (answers.isForkResult cnt) with failed | forked
      · rw [if_pos failed] at performs
        rcases performs with ⟨_, rest, rfl, performs⟩
        refine Or.inr ⟨cnt, 1, [_, _], rest, rfl, Nat.le_refl _, fun more => by omega,
          fun index least below => by omega, Or.inr ⟨by omega, failed, rfl⟩, ?_, performs⟩
        simp [deedOf, failed]
      · rw [if_neg (by omega), if_neg (by omega)] at performs
        rcases performs with ⟨pgid, _, rfl, _, rest, rfl, performs⟩
        split at performs
        · -- The store of the process id goes through the null pointer.
          rename_i missing
          cases performs.1
          exact Or.inl ⟨missing, forked, by simp [deedOf, forked]⟩
        · rename_i present
          rw [written_succ] at performs
          have restGiven : answers.GivesAll rest := by
            intro call member
            exact given call (by simp [member])
          rcases ih restGiven performs with ⟨missing, -, -⟩ |
            ⟨reached, flag, first, others, rfl, least, -, before, ended, forks_eq, following⟩
          · exact absurd missing present
          · refine Or.inr ⟨reached, flag, _ :: _ :: _ :: first, others, rfl, by omega,
              fun _ => present, ?_, by omega, ?_, following⟩
            · intro index least below
              rcases Nat.eq_or_lt_of_le least with rfl | later
              · exact forked
              · exact before index later below
            · have length : reached - cnt = reached - (cnt + 1) + 1 := by omega
              rw [length, List.range'_succ, List.map_cons]
              simp [deedOf, forked, forks_eq]

/-- `kill#0` and `kill#1` exit because of their `signal`, or they come to the wait loop. -/
theorem signalled_cases {answers : Answers} {text : String} {target : Int} {procNum : Nat}
    {childPids : ChildPids} {ending : Ending} (given : answers.GivesAll calls)
    (performs : (signalled text target procNum childPids).Performs calls ending) :
    answers.failure ≠ none ∧ deeds calls = [] ∨
      answers.failure = none ∧
        ∃ waits, deeds calls = deeds waits ∧ (waitLoop childPids 0 procNum).Performs waits () := by
  simp only [signalled, Code.perform_bind, Code.performs_call] at performs
  rcases performs with ⟨failure, _, rfl, performs⟩
  have isFailure : failure = answers.failure := given _ List.mem_cons_self
  cases failure with
  | some errno =>
      rcases performs with ⟨_, _, rfl, _, _, rfl, rfl, -⟩
      exact Or.inl ⟨by simp [← isFailure], rfl⟩
  | none =>
      rcases performs with ⟨_, _, rfl, _, _, rfl, _, _, rfl, _, _, rfl, performs⟩
      rcases (Code.performs_bind _ _ _ _).mp performs with ⟨waits, _, _, rfl, waited, rfl, -⟩
      exact Or.inr ⟨isFailure.symm, waits, by simp [deedOf], waited⟩

/-- `kill#2` goes through both of its loops. -/
theorem regrouped_cases {procNum flag : Nat} {ending : Ending} (known : 0 < count)
    (performs : (regrouped procNum (written forks count) flag).Performs calls ending) :
    ∃ moves waits, deeds calls = deeds moves ++ deeds waits ∧
      (setpgidLoop (written forks count) (forks 0) 0 (procNum - flag)).Performs moves () ∧
      (waitLoop (written forks count) 0 procNum).Performs waits () := by
  simp only [regrouped, loadPid_written known, Code.ret_bind, Code.perform_bind, Code.performs_call,
    Code.performs_bind] at performs
  rcases performs with ⟨_, _, rfl, _, _, rfl, moves, _, _, rfl, moved, _, _, rfl, _, _, rfl,
    waits, _, _, rfl, waited, rfl, -⟩
  exact ⟨moves, waits, by simp [deedOf], moved, waited⟩

/-- The deeds of a run function that acts on all of its children. -/
def actsOnAll (test : KillTest) (forks : Nat → Int) (count : Nat) : List Deed :=
  (if test = .kill2 then (List.range' 0 count).map (fun index => .moved (forks index)) else []) ++
    (List.range' 0 count).map (fun index => .awaited (forks index))

/-- After a fork loop that has reached `count`, the run function gives up without a child,
exits because of its `signal`, reads an entry that has not been written, or acts on every
child. -/
theorem afterForks_cases {answers : Answers} {test : KillTest} {procNum flag : Nat}
    {ending : Ending} (given : answers.GivesAll calls)
    (ended : count = procNum ∧ flag = 0 ∨
      count < procNum ∧ answers.forks count = -1 ∧ flag = 1)
    (performs : (afterForks test procNum count (written answers.forks count) flag).Performs calls
      ending) :
    count = 0 ∧ deeds calls = [] ∨
      0 < count ∧ test ≠ .kill2 ∧ answers.failure ≠ none ∧ deeds calls = [] ∨
      0 < count ∧ count < procNum ∧ .readUnwritten count ∈ deeds calls ∨
      0 < count ∧ (test ≠ .kill2 → answers.failure = none) ∧ count = procNum ∧
        deeds calls = actsOnAll test answers.forks count := by
  unfold afterForks at performs
  by_cases none : count ≤ 0
  · rw [if_pos none] at performs
    rcases performs with ⟨_, _, rfl, rfl, -⟩
    exact Or.inl ⟨by omega, rfl⟩
  · have known : 0 < count := Nat.lt_of_not_le none
    rw [if_neg none] at performs
    have loops : test ≠ .kill2 ∧ answers.failure ≠ Option.none ∧ deeds calls = [] ∨
        (test ≠ .kill2 → answers.failure = Option.none) ∧
        ∃ moves waits, deeds calls = deeds moves ++ deeds waits ∧
          (waitLoop (written answers.forks count) 0 procNum).Performs waits () ∧
          (test ≠ .kill2 ∧ moves = [] ∨ test = .kill2 ∧
            (setpgidLoop (written answers.forks count) (answers.forks 0) 0
              (procNum - flag)).Performs moves ()) := by
      cases test with
      | kill0 | kill1 =>
          rcases signalled_cases given performs with
            ⟨failed, nothing⟩ | ⟨success, waits, same, waited⟩
          · exact Or.inl ⟨by decide, failed, nothing⟩
          · exact Or.inr ⟨fun _ => success, [], waits, same, waited, Or.inl ⟨by decide, rfl⟩⟩
      | kill2 =>
          rcases regrouped_cases known performs with ⟨moves, waits, same, moved, waited⟩
          exact Or.inr ⟨fun other => absurd rfl other, moves, waits, same, waited,
            Or.inr ⟨rfl, moved⟩⟩
    rcases loops with ⟨other, failed, nothing⟩ | ⟨success, moves, waits, same, waited, movedBy⟩
    · exact Or.inr (Or.inl ⟨known, other, failed, nothing⟩)
    · rcases ended with ⟨rfl, rfl⟩ | ⟨below, -, rfl⟩
      · refine Or.inr (Or.inr (Or.inr ⟨known, success, rfl, ?_⟩))
        rw [same, waitLoop_deeds (by omega) waited, actsOnAll]
        rcases movedBy with ⟨other, rfl⟩ | ⟨isKill2, moved⟩
        · simp [other]
        · rw [setpgidLoop_deeds (by omega) moved, if_pos isKill2, Nat.sub_zero]
      · refine Or.inr (Or.inr (Or.inl ⟨known, below, ?_⟩))
        rw [same]
        exact List.mem_append_right _ (waitLoop_reads (Nat.zero_le _) (by omega) waited)

/-- `kill#1` gives up on a system without `get_cpu_id`; otherwise the run function comes to
its fork loop. -/
theorem run_cases {answers : Answers} {test : KillTest} {procNum : Int} {ending : Ending}
    (positive : 0 < procNum) (given : answers.GivesAll calls)
    (performs : (test.run procNum).Performs calls ending) :
    (test = .kill1 ∧ answers.cpuId = -1 ∧ deeds calls = []) ∨
      ¬(test = .kill1 ∧ answers.cpuId = -1) ∧ ∃ first rest, calls = first ++ rest ∧
        deeds first = (if test = .kill0 then [.moved 0] else []) ∧
        (forkLoop answers.table (afterForks test procNum.toNat) 0 (written answers.forks 0)
          procNum.toNat).Performs rest ending := by
  have unwritten : (fun _ => none) = written answers.forks 0 := by
    funext index
    simp [written]
  cases test with
  | kill0 =>
      simp only [KillTest.run, forkChildren, positive, not_true_eq_false, if_false, reduceCtorEq,
        if_true, Code.perform_bind, Code.performs_call, unwritten] at performs
      rcases performs with ⟨table, _, rfl, _, rest, rfl, looped⟩
      have isTable : table = answers.table := given _ List.mem_cons_self
      subst isTable
      exact Or.inr ⟨by simp, [_, _], rest, rfl, rfl, looped⟩
  | kill1 =>
      simp only [KillTest.run, forkChildren, positive, not_true_eq_false, if_false, reduceCtorEq,
        if_true, Code.perform_bind, Code.performs_call, unwritten] at performs
      rcases performs with ⟨id, _, rfl, performs⟩
      have isId : id = answers.cpuId := given _ List.mem_cons_self
      subst isId
      split at performs
      · rename_i missing
        cases performs.1
        exact Or.inl ⟨rfl, missing, rfl⟩
      · rename_i present
        rcases performs with ⟨table, rest, rfl, looped⟩
        have isTable : table = answers.table := given ⟨.malloc _, table⟩ (by simp)
        subst isTable
        exact Or.inr ⟨fun without => present without.2, [_, _], rest, rfl, rfl, looped⟩
  | kill2 =>
      simp only [KillTest.run, forkChildren, positive, not_true_eq_false, if_false, reduceCtorEq,
        Code.perform_bind, Code.performs_call, unwritten] at performs
      rcases performs with ⟨table, rest, rfl, looped⟩
      have isTable : table = answers.table := given _ List.mem_cons_self
      subst isTable
      exact Or.inr ⟨by simp, [_], rest, rfl, rfl, looped⟩

end Traces

/-- A run with a child that it does not wait for does not act on its children. -/
theorem not_actsOnChildren {test : KillTest} {calls : List (Call Op Res)} (pid : Int)
    (forked : .forked pid ∈ deeds calls) (unawaited : .awaited pid ∉ deeds calls) :
    ¬ActsOnChildren test calls := by
  intro acts
  have created : pid ∈ (deeds calls).filterMap Deed.forked? :=
    List.mem_filterMap.mpr ⟨_, forked, rfl⟩
  rw [← (acts (List.ne_nil_of_mem created)).1] at created
  rcases List.mem_filterMap.mp created with ⟨deed, member, isPid⟩
  cases deed with
  | awaited other =>
      cases isPid
      exact unawaited member
  | _ => cases isPid

/-- However it ends, a run acts on exactly its children if and only if it has none, because
`kill#1` gives up on a system without `get_cpu_id` or the first `fork` fails, or if there is
an array, no `fork` fails, and neither does the `signal` of `kill#0` and `kill#1`. -/
theorem acts_on_children_iff (test : KillTest) (procNum : Int) (positive : 0 < procNum)
    (answers : Answers) (calls : List (Call Op Res)) (ending : Ending)
    (performs : (test.run procNum).Performs calls ending) (given : answers.GivesAll calls) :
    ActsOnChildren test calls ↔
      test = .kill1 ∧ answers.cpuId = -1 ∨ answers.forks 0 = -1 ∨
        answers.table ≠ 0 ∧ (∀ index : Nat, index < procNum → answers.forks index ≠ -1) ∧
          (test ≠ .kill2 → answers.failure = none) := by
  rcases run_cases positive given performs with
    ⟨isKill1, missing, nothing⟩ | ⟨here, first, rest, rfl, opening, looping⟩
  · refine iff_of_true (fun children => absurd ?_ children) (Or.inl ⟨isKill1, missing⟩)
    simp [nothing]
  have restGiven := (Answers.givesAll_append.mp given).2
  rcases forkLoop_cases restGiven looping with ⟨noArray, created, forked⟩ |
    ⟨reached, flag, begun, following, rfl, -, array, before, ended, forked, finishing⟩
  · -- The parent ends at the store of the first process id.
    refine iff_of_false (not_actsOnChildren (answers.forks 0) ?_ ?_) ?_
    · simp [forked]
    · simp only [deeds_append, opening, forked]
      split <;> simp
    · rintro (gone | fails | ⟨present, -, -⟩)
      · exact here gone
      · omega
      · exact present noArray
  rw [Nat.zero_add] at ended
  rw [Nat.sub_zero] at forked
  have created : 0 < reached →
      .forked (answers.forks 0) ∈ deeds (first ++ (begun ++ following)) := by
    intro known
    rw [deeds_append, deeds_append, forked]
    refine List.mem_append_right _ (List.mem_append_left _ (List.mem_map.mpr ⟨0, ?_, rfl⟩))
    simpa using known
  have succeeds : 0 < reached → answers.forks 0 ≠ -1 := by
    intro known
    have positive := before 0 (Nat.zero_le 0) known
    omega
  have followingGiven := (Answers.givesAll_append.mp restGiven).2
  rcases afterForks_cases followingGiven ended finishing with ⟨rfl, nothing⟩ |
    ⟨known, other, failed, nothing⟩ | ⟨known, below, reads⟩ | ⟨known, success, rfl, acted⟩
  · have fails : answers.forks 0 = -1 := by omega
    refine iff_of_true (fun children => absurd ?_ children) (Or.inr (Or.inl fails))
    simp only [deeds_append, opening, forked, nothing]
    split <;> rfl
  · -- The parent exits because of its `signal`.
    refine iff_of_false (not_actsOnChildren _ (created known) ?_) ?_
    · simp only [deeds_append, opening, forked, nothing]
      split <;> simp
    · rintro (gone | fails | ⟨-, -, success⟩)
      · exact here gone
      · exact succeeds known fails
      · exact failed (success other)
  · have fails : answers.forks reached = -1 := by omega
    refine iff_of_false (fun acts => ?_) ?_
    · have children := List.ne_nil_of_mem
        (List.mem_filterMap.mpr ⟨_, created known, (rfl : Deed.forked? (.forked _) = some _)⟩)
      refine absurd ?_ ((acts children).2.2 reached)
      simp [deeds_append, reads]
    · rintro (gone | none | ⟨-, never, -⟩)
      · exact here gone
      · exact succeeds known none
      · exact never reached (by omega) fails
  · have all : ∀ index : Nat, index < procNum → answers.forks index ≠ -1 := by
      intro index below
      have positive := before index (Nat.zero_le _) (by omega)
      omega
    refine iff_of_true (fun _ => ?_) (Or.inr (Or.inr ⟨array known, all, success⟩))
    simp only [deeds_append, opening, forked, acted, actsOnAll]
    cases test <;> simp [List.filterMap_map, List.filterMap_cons, Function.comp_def, Deed.forked?,
      Deed.moved?, Deed.awaited?]

/-- Two children with the process ids 5 and 6. -/
def twoChildren : List (Call Op Res) :=
  [⟨.malloc 8, (4096 : Nat)⟩, ⟨.fork 0, (5 : Int)⟩, ⟨.getpgid 5, (4 : Int)⟩,
    ⟨.printf "Generate child process pid:%d, pgid:%d\n" [5, 4], ()⟩, ⟨.fork 1, (6 : Int)⟩,
    ⟨.getpgid 6, (4 : Int)⟩, ⟨.printf "Generate child process pid:%d, pgid:%d\n" [6, 4], ()⟩,
    ⟨.printf "wait for a few sec...\n" [], ()⟩, ⟨.sleep 3, ()⟩, ⟨.getpgid 5, (4 : Int)⟩,
    ⟨.printf "Set child process(pid:%d) pgid:%d => %d\n" [5, 4, 5], ()⟩, ⟨.setpgid 5 5, (0 : Int)⟩,
    ⟨.getpgid 6, (4 : Int)⟩, ⟨.printf "Set child process(pid:%d) pgid:%d => %d\n" [6, 4, 5], ()⟩,
    ⟨.setpgid 6 5, (0 : Int)⟩, ⟨.printf "send signal to target pgid(=%d)s\n" [5], ()⟩,
    ⟨.kill (-5) 10, ()⟩, ⟨.waitpid 5, ()⟩, ⟨.waitpid 6, ()⟩]

/-- The system gives every call what it asks for. -/
def allAnswers : Answers where
  cpuId := 0
  table := 4096
  forks index := index + 5
  failure := none
  isForkResult index := by
    rw [isForkResult_iff]
    omega

theorem acts_on_children_iff_two : ActsOnChildren .kill2 twoChildren := by
  refine (acts_on_children_iff .kill2 2 (by decide) allAnswers twoChildren (.returned none)
    (Code.performs_of_replay rfl) ?_).mpr (Or.inr (Or.inr ⟨by decide, fun index _ => ?_, ?_⟩))
  · simp [Answers.GivesAll, Answers.Gives, twoChildren, allAnswers]
  · show (index : Int) + 5 ≠ -1
    omega
  · exact fun _ => rfl

/-- The second of two `fork` calls fails, and the memory behind the only child's entry
holds the process id 77. -/
def secondForkFails : List (Call Op Res) :=
  [⟨.malloc 8, (4096 : Nat)⟩, ⟨.setpgid 0 0, (0 : Int)⟩, ⟨.fork 0, (5 : Int)⟩,
    ⟨.getpgid 5, (4 : Int)⟩, ⟨.printf "Generate child process pid:%d, pgid:%d\n" [5, 4], ()⟩,
    ⟨.fork 1, (-1 : Int)⟩, ⟨.fprintf "[warning] fork() failed.\n" [], ()⟩,
    ⟨.signal, (none : Option Int)⟩, ⟨.printf "wait for a few sec...\n" [], ()⟩, ⟨.sleep 3, ()⟩,
    ⟨.printf "send signal to same pgids\n" [], ()⟩, ⟨.kill 0 10, ()⟩, ⟨.waitpid 5, ()⟩,
    ⟨.loadUnwritten 1, (77 : Int)⟩, ⟨.waitpid 77, ()⟩]

/-- The run function waits for a process that it has not created. -/
theorem unwritten_entry_awaited :
    (KillTest.kill0.run 2).Performs secondForkFails (.returned none) ∧
      ¬ActsOnChildren .kill0 secondForkFails := by
  refine ⟨Code.performs_of_replay rfl, fun acts => ?_⟩
  exact (acts (by decide)).2.2 1 (by decide)

end McKernelTest.Kill
