import McKernelTest.CpuProcLimits.Hang
import McKernelTest.Ledger.Core
import McKernelTest.Process.Trace

/-!
# The descriptors of `cpu_proc_limits#0`

The parent books every descriptor that `pipe` gives it and every one that it closes.
Of the four descriptors of a child it closes two before the next fork and keeps two
for the final loop.  The last child is not followed by a fork, and neither is a fork
that fails: two descriptors of that child are never closed.  Only a failing `pipe`
leaves an even account.
-/

namespace McKernelTest.CpuProcLimits

open Ledger Posix Process Transition

/-- What the calls of the parent return.  `pipe` and `fork` succeed or fail. -/
structure Outcomes where
  rlimMax : Nat
  setrlimit : Int
  calloc : Nat
  pipe : PipeId → Bool
  fork : Nat → Bool

namespace Outcomes

/-- The result is the one the call is to have. -/
def Answers (outcomes : Outcomes) : (op : Op) → Res op → Prop
  | .getrlimit, result => result = outcomes.rlimMax
  | .setrlimit _, result => result = outcomes.setrlimit
  | .calloc _, result => result = outcomes.calloc
  | .pipe name, result => result = if outcomes.pipe name then 0 else -1
  | .fork child, result => 0 < result ↔ outcomes.fork child = true
  | _, _ => True

/-- The run function comes to its first `pipe`. -/
def Admits (outcomes : Outcomes) (cpuNum : Int) : Prop :=
  0 < cpuNum ∧ cpuNum ≤ outcomes.rlimMax ∧ outcomes.setrlimit = 0 ∧ outcomes.calloc ≠ 0

/-- Both pipes for a child can be made. -/
def Opens (outcomes : Outcomes) (i : Nat) : Prop :=
  outcomes.pipe (.p2c i) = true ∧ outcomes.pipe (.c2p i) = true

/-- Of all calls for the children, a `pipe` is the first one to fail. -/
def PipeFailsFirst (outcomes : Outcomes) (procNum : Int) : Prop :=
  ∃ i : Nat, i < procNum ∧ (∀ j < i, outcomes.Opens j ∧ outcomes.fork j = true) ∧ ¬outcomes.Opens i

/-- Of the calls for the children from `forks` on, `remaining` after the first, a
`pipe` is the first one to fail. -/
def PipeFailsFrom (outcomes : Outcomes) (forks remaining : Nat) : Prop :=
  ∃ i, forks ≤ i ∧ i ≤ forks + remaining ∧
    (∀ j, forks ≤ j → j < i → outcomes.Opens j ∧ outcomes.fork j = true) ∧ ¬outcomes.Opens i

end Outcomes

/-- The entries that a call makes in the account of descriptors. -/
def bookings : Call Op Res → List (Entry Fd)
  | ⟨.pipe name, result⟩ =>
      if result = (0 : Int) then [.acquire ⟨name, .readEnd⟩, .acquire ⟨name, .writeEnd⟩] else []
  | ⟨.close fd, _⟩ => [.release fd]
  | _ => []

/-- The account of a list of calls. -/
def descriptorLedger (calls : List (Call Op Res)) : List (Entry Fd) :=
  calls.flatMap bookings

@[simp]
theorem descriptorLedger_append (first second : List (Call Op Res)) :
    descriptorLedger (first ++ second) = descriptorLedger first ++ descriptorLedger second := by
  simp [descriptorLedger]

@[simp]
theorem descriptorLedger_nil : descriptorLedger [] = [] :=
  rfl

@[simp]
theorem descriptorLedger_cons (call : Call Op Res) (calls : List (Call Op Res)) :
    descriptorLedger (call :: calls) = bookings call ++ descriptorLedger calls := by
  simp [descriptorLedger]

/-! ## What is kept -/

/-- The descriptors that the parent keeps of the children from `i` on. -/
def keptFrom (i : Nat) : Nat → List Fd
  | 0 => []
  | remaining + 1 => p2cWrite i :: c2pRead i :: keptFrom (i + 1) remaining

/-- The four descriptors that the pipes of a child have. -/
def pairFds (i : Nat) : List Fd :=
  [p2cRead i, p2cWrite i, c2pRead i, c2pWrite i]

theorem mem_keptFrom {i count : Nat} {fd : Fd} :
    fd ∈ keptFrom i count ↔ ∃ j, i ≤ j ∧ j < i + count ∧ (fd = p2cWrite j ∨ fd = c2pRead j) := by
  induction count generalizing i with
  | zero =>
      simp only [keptFrom, List.not_mem_nil, false_iff]
      rintro ⟨j, least, below, -⟩
      omega
  | succ count ih =>
      simp only [keptFrom, List.mem_cons, ih]
      constructor
      · rintro (same | same | ⟨j, least, below, same⟩)
        · exact ⟨i, le_refl i, by omega, Or.inl same⟩
        · exact ⟨i, le_refl i, by omega, Or.inr same⟩
        · exact ⟨j, by omega, by omega, same⟩
      · rintro ⟨j, least, below, same⟩
        rcases Nat.eq_or_lt_of_le least with rfl | later
        · rcases same with same | same
          · exact Or.inl same
          · exact Or.inr (Or.inl same)
        · exact Or.inr (Or.inr ⟨j, later, by omega, same⟩)

theorem nodup_keptFrom (i count : Nat) : (keptFrom i count).Nodup := by
  induction count generalizing i with
  | zero => exact List.nodup_nil
  | succ count ih =>
      have later : ∀ fd ∈ keptFrom (i + 1) count, fd ≠ p2cWrite i ∧ fd ≠ c2pRead i := by
        intro fd member
        rcases mem_keptFrom.mp member with ⟨j, least, -, rfl | rfl⟩
        · simp only [p2cWrite, c2pRead, ne_eq, Fd.mk.injEq, PipeId.p2c.injEq, reduceCtorEq,
            and_true, not_false_eq_true, false_and]
          omega
        · simp only [p2cWrite, c2pRead, ne_eq, Fd.mk.injEq, PipeId.c2p.injEq, reduceCtorEq,
            and_true, not_false_eq_true, false_and, true_and]
          omega
      rw [keptFrom, List.nodup_cons, List.nodup_cons]
      refine ⟨?_, fun member => (later _ member).2 rfl, ih (i + 1)⟩
      rw [List.mem_cons, not_or]
      exact ⟨by simp [p2cWrite, c2pRead], fun member => (later _ member).1 rfl⟩

theorem keptFrom_succ (i count : Nat) :
    keptFrom i (count + 1) = keptFrom i count ++ [p2cWrite (i + count), c2pRead (i + count)] := by
  induction count generalizing i with
  | zero => rfl
  | succ count ih =>
      rw [keptFrom, ih (i + 1), keptFrom, Nat.add_right_comm i 1 count, Nat.add_assoc i count 1]
      rfl

/-- Old descriptors are not among the four of a new child. -/
theorem nodup_kept_append (forks : Nat) : (keptFrom 0 forks ++ pairFds forks).Nodup := by
  rw [List.nodup_append]
  refine ⟨nodup_keptFrom 0 forks, by simp [pairFds, p2cRead, p2cWrite, c2pRead, c2pWrite], ?_⟩
  rintro fd inKept _ inPair rfl
  rcases mem_keptFrom.mp inKept with ⟨j, -, below, rfl | rfl⟩
  · simp [pairFds, p2cRead, p2cWrite, c2pRead, c2pWrite] at inPair
    omega
  · simp [pairFds, p2cRead, p2cWrite, c2pRead, c2pWrite] at inPair
    omega

/-- The descriptors that the two `pipe` calls for a child give. -/
def Outcomes.opened (outcomes : Outcomes) (i : Nat) : List Fd :=
  (if outcomes.pipe (.p2c i) then [p2cRead i, p2cWrite i] else []) ++
    if outcomes.pipe (.c2p i) then [c2pRead i, c2pWrite i] else []

theorem Outcomes.opened_sublist (outcomes : Outcomes) (i : Nat) :
    (outcomes.opened i).Sublist (pairFds i) := by
  unfold opened
  split <;> split <;> simp [pairFds]

theorem Outcomes.opened_of_opens {outcomes : Outcomes} {i : Nat} (opens : outcomes.Opens i) :
    outcomes.opened i = pairFds i := by
  simp [opened, opens.1, opens.2, pairFds]

/-- Opening what can be opened for a child and then closing everything. -/
theorem replay_failed (outcomes : Outcomes) (forks : Nat) :
    replay ((outcomes.opened forks).map .acquire ++
      (keptFrom 0 forks ++ outcomes.opened forks).map .release) (keptFrom 0 forks).toFinset =
        some ∅ := by
  have distinct : (keptFrom 0 forks ++ outcomes.opened forks).Nodup :=
    (nodup_kept_append forks).sublist ((outcomes.opened_sublist forks).append_left _)
  rw [replay_acquires_releases distinct distinct fun _ member => member, Finset.sdiff_self]

/-! ## The loops -/

section Traces

variable {calls : List (Call Op Res)} {beyond : Nat → UInt8} {i count : Nat}

theorem closeKept_ledger {done : Unit} (performs : (closeKept i count).Performs calls done) :
    descriptorLedger calls = (keptFrom i count).map .release := by
  induction count generalizing i calls with
  | zero =>
      cases performs.1
      rfl
  | succ count ih =>
      rcases performs with ⟨_, _, rfl, _, _, rfl, rest⟩
      simp [bookings, keptFrom, ih rest]

theorem kick_ledger {done : Unit} (performs : (kick beyond i count).Performs calls done) :
    descriptorLedger calls = [] := by
  induction count generalizing i calls with
  | zero =>
      cases performs.1
      rfl
  | succ count ih =>
      rcases performs with ⟨_, _, rfl, rest⟩
      simp [bookings, ih rest]

theorem collect_ledger {done : Unit} (performs : (collect i count).Performs calls done) :
    descriptorLedger calls = (keptFrom i count).map .release := by
  induction count generalizing i calls with
  | zero =>
      cases performs.1
      rfl
  | succ count ih =>
      rcases performs with ⟨_, _, rfl, _, _, rfl, _, _, rfl, rest⟩
      simp [bookings, keptFrom, ih rest]

/-- The final loops close what has been kept. -/
theorem afterForks_ledger {ending : Ending}
    (performs : (afterForks beyond count).Performs calls ending) :
    descriptorLedger calls = (keptFrom 0 count).map .release := by
  simp only [afterForks, Code.perform_bind, Code.performs_call, Code.performs_bind,
    Code.pure_eq, Code.performs_ret] at performs
  rcases performs with ⟨_, _, rfl, kicks, _, _, rfl, kicked, _, _, rfl, answers, _, _, rfl,
    collected, _, _, rfl, rfl, -⟩
  simp [bookings, kick_ledger kicked, collect_ledger collected]

/-- The end after a failing `pipe` closes what has been kept and what the other `pipe`
has opened. -/
theorem pipeFailed_ledger {forks : Nat} {p2cRet c2pRet : Int} {ending : Ending}
    (performs : (pipeFailed forks p2cRet c2pRet).Performs calls ending) :
    descriptorLedger calls =
      (keptFrom 0 forks ++ (if p2cRet ≠ -1 then [p2cRead forks, p2cWrite forks] else []) ++
        if c2pRet ≠ -1 then [c2pRead forks, c2pWrite forks] else []).map .release := by
  rw [pipeFailed, Code.performs_bind] at performs
  rcases performs with ⟨closes, rest, _, rfl, closed, others⟩
  rw [descriptorLedger_append, closeKept_ledger closed]
  by_cases p2cOpen : p2cRet ≠ -1 <;> by_cases c2pOpen : c2pRet ≠ -1
  · simp only [p2cOpen, c2pOpen, ne_eq, not_false_eq_true, if_true, Code.perform_bind,
      Code.performs_call, Code.pure_eq, Code.performs_ret] at others
    rcases others with ⟨_, _, rfl, _, _, rfl, _, _, rfl, _, _, rfl, _, _, rfl, rfl, -⟩
    simp [bookings, p2cOpen, c2pOpen]
  · simp only [p2cOpen, c2pOpen, ne_eq, not_false_eq_true, if_true, if_false, Code.perform_bind,
      Code.performs_call, Code.pure_eq, Code.performs_ret] at others
    rcases others with ⟨_, _, rfl, _, _, rfl, _, _, rfl, rfl, -⟩
    simp [bookings, p2cOpen, c2pOpen]
  · simp only [p2cOpen, c2pOpen, ne_eq, not_false_eq_true, if_true, if_false, Code.perform_bind,
      Code.performs_call, Code.pure_eq, Code.performs_ret] at others
    rcases others with ⟨_, _, rfl, _, _, rfl, _, _, rfl, rfl, -⟩
    simp [bookings, p2cOpen, c2pOpen]
  · simp only [p2cOpen, c2pOpen, if_false, Code.perform_bind, Code.performs_call, Code.pure_eq,
      Code.performs_ret] at others
    rcases others with ⟨_, _, rfl, rfl, -⟩
    simp [bookings, p2cOpen, c2pOpen]

/-- The child does not return from the run function. -/
theorem childBranch_exits {forks : Nat} {ending : Ending}
    (performs : (childBranch forks).Performs calls ending) : ending = .exited := by
  simp only [childBranch, Code.perform_bind, Code.performs_call, Code.performs_bind, Code.pure_eq,
    Code.performs_ret] at performs
  rcases performs with ⟨_, _, -, _, _, -, _, _, _, -, -, _, _, -, _, _, -, _, _, -, _, _, -, -, rfl⟩
  rfl

variable {outcomes : Outcomes} {forks : Nat} {message : Option String} {next : Program Ending}

section Pipes

variable {p2cRet c2pRet : Int} (p2cAnswer : p2cRet = if outcomes.pipe (.p2c forks) then 0 else -1)
  (c2pAnswer : c2pRet = if outcomes.pipe (.c2p forks) then 0 else -1)

include p2cAnswer c2pAnswer

/-- The two `pipe` calls book what they open. -/
theorem pipes_booked :
    bookings ⟨.pipe (.p2c forks), p2cRet⟩ ++ bookings ⟨.pipe (.c2p forks), c2pRet⟩ =
      (outcomes.opened forks).map .acquire := by
  rw [p2cAnswer, c2pAnswer, Outcomes.opened]
  cases outcomes.pipe (.p2c forks) <;> cases outcomes.pipe (.c2p forks) <;> rfl

theorem pipes_fail_iff : (p2cRet = -1 ∨ c2pRet = -1) ↔ ¬outcomes.Opens forks := by
  rw [p2cAnswer, c2pAnswer, Outcomes.Opens]
  cases outcomes.pipe (.p2c forks) <;> cases outcomes.pipe (.c2p forks) <;> simp

/-- What is closed after a failing `pipe`. -/
theorem pipes_closed :
    (if p2cRet ≠ -1 then [p2cRead forks, p2cWrite forks] else []) ++
      (if c2pRet ≠ -1 then [c2pRead forks, c2pWrite forks] else []) = outcomes.opened forks := by
  rw [p2cAnswer, c2pAnswer, Outcomes.opened]
  cases outcomes.pipe (.p2c forks) <;> cases outcomes.pipe (.c2p forks) <;> rfl

end Pipes

/-- A pass through `forkone` in the parent: a `pipe` fails and everything is closed, or
the `fork` fails and the descriptors that are kept are closed, or all goes well and the
parent has four more descriptors. -/
theorem forkStep_cases (performs : (forkStep forks next).Performs calls (.returned message))
    (answered : ∀ call ∈ calls, outcomes.Answers call.op call.result) :
    (¬outcomes.Opens forks ∧ replay (descriptorLedger calls) (keptFrom 0 forks).toFinset = some ∅) ∨
      (outcomes.Opens forks ∧ outcomes.fork forks = false ∧
        descriptorLedger calls = (pairFds forks).map .acquire ++
          (keptFrom 0 (forks + 1)).map .release) ∨
      (outcomes.Opens forks ∧ outcomes.fork forks = true ∧
        ∃ first rest, calls = first ++ rest ∧
          descriptorLedger first = (pairFds forks).map .acquire ∧
          next.Performs rest (.returned message)) := by
  simp only [forkStep, Code.perform_bind, Code.performs_call] at performs
  rcases performs with ⟨p2cRet, _, rfl, c2pRet, rest, rfl, performs⟩
  have p2cAnswer : p2cRet = if outcomes.pipe (.p2c forks) then 0 else -1 :=
    answered ⟨.pipe (.p2c forks), p2cRet⟩ (by simp)
  have c2pAnswer : c2pRet = if outcomes.pipe (.c2p forks) then 0 else -1 :=
    answered ⟨.pipe (.c2p forks), c2pRet⟩ (by simp)
  have booked := pipes_booked p2cAnswer c2pAnswer
  have fails_iff := pipes_fail_iff p2cAnswer c2pAnswer
  by_cases opens : outcomes.Opens forks
  · rw [if_neg (fun fails => fails_iff.mp fails opens), Code.performs_call] at performs
    rcases performs with ⟨pid1, others, rfl, performs⟩
    have forkAnswer : 0 < pid1 ↔ outcomes.fork forks = true :=
      answered ⟨.fork forks, pid1⟩ (by simp)
    rw [outcomes.opened_of_opens opens] at booked
    by_cases isChild : pid1 = 0
    · simp only [isChild, ne_eq, not_true_eq_false, if_false] at performs
      exact absurd (childBranch_exits performs) (by simp)
    · simp only [ne_eq, isChild, not_false_eq_true, if_true] at performs
      by_cases negative : pid1 < 0
      · rw [if_pos negative, Code.performs_bind] at performs
        rcases performs with ⟨closes, _, _, rfl, closed, _, _, rfl, rfl, -⟩
        have failed : outcomes.fork forks = false := by
          rw [← Bool.not_eq_true, ← forkAnswer]
          exact Int.not_lt.mpr (Int.le_of_lt negative)
        refine Or.inr (Or.inl ⟨opens, failed, ?_⟩)
        rw [← booked, ← closeKept_ledger closed]
        simp [bookings]
      · rw [if_neg negative] at performs
        have forked : outcomes.fork forks = true :=
          forkAnswer.mp (Int.lt_iff_le_and_ne.mpr ⟨Int.not_lt.mp negative, Ne.symm isChild⟩)
        refine Or.inr (Or.inr ⟨opens, forked, [⟨.pipe (.p2c forks), p2cRet⟩,
          ⟨.pipe (.c2p forks), c2pRet⟩, ⟨.fork forks, pid1⟩], others, rfl, ?_, performs⟩)
        rw [← booked]
        simp [bookings]
  · rw [if_pos (fails_iff.mpr opens)] at performs
    refine Or.inl ⟨opens, ?_⟩
    rw [descriptorLedger_cons, descriptorLedger_cons, ← List.append_assoc, booked,
      pipeFailed_ledger performs, List.append_assoc, pipes_closed p2cAnswer c2pAnswer,
      replay_failed]

/-- Two descriptors of the last child stay open. -/
theorem replay_leaks (forks : Nat) :
    replay ((pairFds forks).map .acquire ++ (keptFrom 0 (forks + 1)).map .release)
      (keptFrom 0 forks).toFinset ≠ some ∅ := by
  have kept : ∀ fd ∈ keptFrom 0 (forks + 1), fd ∈ keptFrom 0 forks ++ pairFds forks := by
    intro fd member
    rw [keptFrom_succ, Nat.zero_add, List.mem_append] at member
    rcases member with old | new
    · exact List.mem_append_left _ old
    · apply List.mem_append_right
      simp only [List.mem_cons, List.not_mem_nil, or_false] at new
      rcases new with rfl | rfl <;> simp [pairFds]
  rw [replay_acquires_releases (nodup_kept_append forks) (nodup_keptFrom 0 _) kept]
  intro closed
  have leaked : p2cRead forks ∈
      (keptFrom 0 forks ++ pairFds forks).toFinset \ (keptFrom 0 (forks + 1)).toFinset := by
    rw [Finset.mem_sdiff, List.mem_toFinset, List.mem_toFinset]
    refine ⟨List.mem_append_right _ (by simp [pairFds]), ?_⟩
    intro member
    rcases mem_keptFrom.mp member with ⟨j, -, -, same | same⟩ <;>
      simp [p2cRead, p2cWrite, c2pRead] at same
  rw [Option.some.inj closed] at leaked
  exact absurd leaked (Finset.notMem_empty _)

/-- Two of the four new descriptors are closed before the next fork. -/
theorem replay_continues (forks : Nat) :
    replay ((pairFds forks).map .acquire ++ [p2cRead forks, c2pWrite forks].map .release)
      (keptFrom 0 forks).toFinset = some (keptFrom 0 (forks + 1)).toFinset := by
  rw [replay_acquires_releases (nodup_kept_append forks) (by simp [p2cRead, c2pWrite])
    (by simp [pairFds])]
  congr 1
  ext fd
  simp only [Finset.mem_sdiff, List.mem_toFinset, List.mem_append, keptFrom_succ, Nat.zero_add]
  constructor
  · rintro ⟨old | new, other⟩
    · exact Or.inl old
    · simp only [pairFds, List.mem_cons, List.not_mem_nil, or_false] at new other ⊢
      tauto
  · rintro (old | new)
    · refine ⟨Or.inl old, ?_⟩
      rcases mem_keptFrom.mp old with ⟨j, -, -, rfl | rfl⟩ <;>
        simp [p2cRead, p2cWrite, c2pRead, c2pWrite]
    · simp only [List.mem_cons, List.not_mem_nil, or_false] at new
      rcases new with rfl | rfl <;> simp [pairFds, p2cRead, p2cWrite, c2pRead, c2pWrite]

/-- The last of the children to try. -/
theorem pipeFailsFrom_zero : outcomes.PipeFailsFrom forks 0 ↔ ¬outcomes.Opens forks := by
  constructor
  · rintro ⟨i, least, most, -, fails⟩
    have same : i = forks := by omega
    rwa [same] at fails
  · intro fails
    exact ⟨forks, le_refl _, le_refl _, fun j least below => by omega, fails⟩

/-- One child and those that follow it. -/
theorem pipeFailsFrom_succ {remaining : Nat} : outcomes.PipeFailsFrom forks (remaining + 1) ↔
    ¬outcomes.Opens forks ∨ outcomes.Opens forks ∧ outcomes.fork forks = true ∧
      outcomes.PipeFailsFrom (forks + 1) remaining := by
  constructor
  · rintro ⟨i, least, most, before, fails⟩
    by_cases opens : outcomes.Opens forks
    · have later : forks < i := by
        refine Nat.lt_of_le_of_ne least ?_
        rintro rfl
        exact fails opens
      exact Or.inr ⟨opens, (before forks (le_refl _) later).2, i, later, by omega,
        fun j least below => before j (by omega) below, fails⟩
    · exact Or.inl opens
  · rintro (fails | ⟨opens, forked, i, least, most, before, fails⟩)
    · exact ⟨forks, le_refl _, by omega, fun j least below => by omega, fails⟩
    · refine ⟨i, by omega, by omega, fun j least below => ?_, fails⟩
      rcases Nat.eq_or_lt_of_le least with rfl | later
      · exact ⟨opens, forked⟩
      · exact before j later below

/-- The account from the label `forkone` on is even if and only if the first call to
fail is a `pipe`. -/
theorem forkone_balanced_iff {remaining : Nat}
    (performs : (forkone beyond forks remaining).Performs calls (.returned message))
    (answered : ∀ call ∈ calls, outcomes.Answers call.op call.result) :
    replay (descriptorLedger calls) (keptFrom 0 forks).toFinset = some ∅ ↔
      outcomes.PipeFailsFrom forks remaining := by
  induction remaining generalizing forks calls with
  | zero =>
      rw [pipeFailsFrom_zero]
      rcases forkStep_cases performs answered with
        ⟨fails, closed⟩ | ⟨opens, -, booked⟩ | ⟨opens, -, first, rest, rfl, booked, performs⟩
      · simp [fails, closed]
      · simp [opens, booked, replay_leaks]
      · simp [opens, booked, afterForks_ledger performs, replay_leaks]
  | succ remaining ih =>
      rw [pipeFailsFrom_succ]
      rcases forkStep_cases performs answered with
        ⟨fails, closed⟩ | ⟨opens, failed, booked⟩ |
          ⟨opens, forked, first, rest, rfl, booked, performs⟩
      · simp [fails, closed]
      · simp [opens, failed, booked, replay_leaks]
      · simp only [Code.perform_bind, Code.performs_call] at performs
        rcases performs with ⟨_, _, rfl, _, others, rfl, following⟩
        have restAnswered : ∀ call ∈ others, outcomes.Answers call.op call.result := by
          intro call member
          exact answered call (by simp [member])
        have closes : descriptorLedger (first ++ ⟨.close (p2cRead forks), ()⟩ ::
            ⟨.close (c2pWrite forks), ()⟩ :: others) =
              ((pairFds forks).map .acquire ++ [p2cRead forks, c2pWrite forks].map .release) ++
                descriptorLedger others := by
          simp [booked, bookings]
        rw [closes, replay_append, replay_continues, Option.bind_some, ih following restAnswered]
        simp [opens, forked]

end Traces

/-! ## The run function -/

instance (outcomes : Outcomes) : (op : Op) → (result : Res op) →
    Decidable (outcomes.Answers op result)
  | .getrlimit, _ | .setrlimit _, _ | .calloc _, _ | .pipe _, _ =>
      inferInstanceAs (Decidable (_ = _))
  | .fork _, _ => inferInstanceAs (Decidable (_ ↔ _))
  | .free, _ | .close _, _ | .read _ _, _ | .write _ _, _ | .sleep _, _
  | .getpid, _ | .printf _ _, _ | .exit _, _ => isTrue trivial

/-- The calls of the parent have the given outcomes. -/
def answered (outcomes : Outcomes) : Guard LimitsConfig LimitsEvent
  | _, .call .parent op result => outcomes.Answers op result
  | _, _ => True

instance (outcomes : Outcomes) (config : LimitsConfig) :
    (event : LimitsEvent) → Decidable (answered outcomes config event)
  | .call .parent op result => inferInstanceAs (Decidable (outcomes.Answers op result))
  | .call (.child _) _ _ | .external _ => isTrue trivial

theorem parent_never_started : system.NeverStarts .parent := by
  intro pid op result next code started
  cases op with
  | fork child =>
      rcases Option.ite_none_right_eq_some.mp started with ⟨-, same⟩
      cases same
  | _ => cases started

theorem Outcomes.pipeFailsFrom_iff (outcomes : Outcomes) {procNum : Int} (positive : 0 < procNum) :
    outcomes.PipeFailsFrom 0 (procNum.toNat - 1) ↔ outcomes.PipeFailsFirst procNum := by
  constructor
  · rintro ⟨i, -, most, before, fails⟩
    exact ⟨i, by omega, fun j below => before j (Nat.zero_le j) below, fails⟩
  · rintro ⟨i, below, before, fails⟩
    exact ⟨i, Nat.zero_le i, by omega, fun j _ below => before j below, fails⟩

/-- The run function returns at once, or it comes to the label `forkone`. -/
theorem runFunc_cases {beyond : Nat → UInt8} {outcomes : Outcomes} {procNum cpuNum : Int}
    {calls : List (Call Op Res)} {message : Option String} (positive : 0 < procNum)
    (performs : (runFunc beyond procNum cpuNum).Performs calls (.returned message))
    (answers : ∀ call ∈ calls, outcomes.Answers call.op call.result) :
    ¬outcomes.Admits cpuNum ∧ descriptorLedger calls = [] ∨
      outcomes.Admits cpuNum ∧ ∃ first rest, calls = first ++ rest ∧ descriptorLedger first = [] ∧
        (forkone beyond 0 (procNum.toNat - 1)).Performs rest (.returned message) := by
  simp only [runFunc, positive, not_true_eq_false, if_false] at performs
  by_cases cpus : 0 < cpuNum
  · simp only [cpus, not_true_eq_false, if_false, Code.perform_bind, Code.performs_call] at performs
    rcases performs with ⟨rlimMax, _, rfl, performs⟩
    have isLimit : rlimMax = outcomes.rlimMax := answers ⟨.getrlimit, rlimMax⟩ (by simp)
    rw [isLimit] at performs
    by_cases limit : cpuNum ≤ outcomes.rlimMax
    · simp only [limit, not_true_eq_false, if_false, Code.performs_call] at performs
      rcases performs with ⟨ret, _, rfl, performs⟩
      have isRet : ret = outcomes.setrlimit := answers ⟨.setrlimit cpuNum, ret⟩ (by simp)
      rw [isRet] at performs
      by_cases set : outcomes.setrlimit = 0
      · simp only [set, ne_eq, not_true_eq_false, if_false, Code.performs_call] at performs
        rcases performs with ⟨pp, _, rfl, performs⟩
        have isTable : pp = outcomes.calloc := answers ⟨.calloc procNum, pp⟩ (by simp)
        rw [isTable] at performs
        by_cases missing : outcomes.calloc = 0
        · rw [if_pos missing] at performs
          cases performs.1
          exact Or.inl ⟨fun admits => admits.2.2.2 missing, by simp [bookings]⟩
        · rw [if_neg missing] at performs
          refine Or.inr ⟨⟨cpus, limit, set, missing⟩, [_, _, _], _, rfl, ?_, performs⟩
          simp [bookings]
      · simp only [set, ne_eq, not_false_eq_true, if_true] at performs
        cases performs.1
        exact Or.inl ⟨fun admits => set admits.2.2.1, by simp [bookings]⟩
    · simp only [limit, not_false_eq_true, if_true] at performs
      cases performs.1
      exact Or.inl ⟨fun admits => limit admits.2.1, by simp [bookings]⟩
  · simp only [cpus, not_false_eq_true, if_true] at performs
    cases performs.1
    exact Or.inl ⟨fun admits => cpus admits.1, rfl⟩

/-- When the run function returns in the parent, every descriptor has been closed
exactly once, and none that was not open, if and only if the run function has left
before its first `pipe` or the first call to fail is a `pipe`. -/
theorem descriptors_closed_iff (beyond : Nat → UInt8) (outcomes : Outcomes) (procNum cpuNum : Int)
    (positive : 0 < procNum) (trace : List LimitsEvent) (config : LimitsConfig)
    (message : Option String)
    (run : GuardedRun system.step (answered outcomes) (start beyond procNum cpuNum) trace config)
    (returned : config.code .parent = some (.ret (.returned message))) :
    Balanced (descriptorLedger (callsOf .parent trace)) ↔
      ¬outcomes.Admits cpuNum ∨ outcomes.PipeFailsFirst procNum := by
  have performs := performs_of_run parent_never_started run rfl returned
  have answers : ∀ call ∈ callsOf .parent trace, outcomes.Answers call.op call.result := by
    intro call member
    obtain ⟨_, met⟩ := guard_of_mem run (mem_callsOf.mp member)
    exact met
  rw [Ledger.Balanced, ← outcomes.pipeFailsFrom_iff positive]
  rcases runFunc_cases positive performs answers with
    ⟨refused, empty⟩ | ⟨admits, first, rest, split, empty, following⟩
  · simp [refused, empty, replay]
  · have restAnswers : ∀ call ∈ rest, outcomes.Answers call.op call.result := by
      intro call member
      exact answers call (by simp [split, member])
    have whole := forkone_balanced_iff following restAnswers
    rw [split, descriptorLedger_append, empty, List.nil_append]
    simpa [admits, keptFrom] using whole

/-- One child, whose second pipe cannot be made. -/
def secondPipeFails : Outcomes :=
  ⟨1, 0, 4096, fun name => name = .p2c 0, fun _ => true⟩

theorem descriptors_closed_iff_second_pipe : ∃ trace config,
    GuardedRun system.step (answered secondPipeFails) (start zeros 1 1) trace config ∧
      Balanced (descriptorLedger (callsOf .parent trace)) := by
  have run : GuardedRun system.step (answered secondPipeFails) (start zeros 1 1)
    (opening 1 ++ [.call .parent (.pipe (.p2c 0)) (0 : Int),
      .call .parent (.pipe (.c2p 0)) (-1 : Int), .call .parent (.close (p2cRead 0)) (),
      .call .parent (.close (p2cWrite 0)) (), .call .parent .free ()]) _ :=
    GuardedRun.of_execute rfl
  refine ⟨_, _, run, ?_⟩
  rw [descriptors_closed_iff zeros secondPipeFails 1 1 (by decide) _ _ _ run rfl]
  exact Or.inr ⟨0, by decide, fun j below => absurd below (Nat.not_lt_zero j), by
    simp [Outcomes.Opens, secondPipeFails]⟩

/-- All calls succeed. -/
def allSucceed : Outcomes :=
  ⟨1, 0, 4096, fun _ => true, fun _ => true⟩

/-- The parent's steps after the answer of the only child. -/
def collects : List LimitsEvent :=
  [.call .parent (.read (c2pRead 0) 16) (answerBytes 7), .call .parent (.close (p2cWrite 0)) (),
    .call .parent (.close (c2pRead 0)) (), .call .parent .free ()]

/-- The test case succeeds with one child, and two descriptors stay open. -/
theorem successful_run_leaks : ∃ trace config,
    GuardedRun system.step (answered allSucceed) (start zeros 1 1) trace config ∧
      config.code .parent = some (.ret (.returned none)) ∧
      ¬Balanced (descriptorLedger (callsOf .parent trace)) := by
  refine ⟨opening 1 ++ forks 0 7 ++ kicks 1 ++ kicked 0 ++ answers 0 7 ++ collects, _,
    GuardedRun.of_execute rfl, rfl, ?_⟩
  decide

end McKernelTest.CpuProcLimits
