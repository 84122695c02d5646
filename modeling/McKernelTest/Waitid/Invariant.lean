import McKernelTest.Waitid.Core
import Mathlib.Data.List.Perm.Subperm

/-!
# The children of `waitid#1` and `waitid#2`

A child that stays in the group of the parent is one that the parent waits for.  Which
children stay is decided by what the system answers.  The parent has waited for as many
of them as it has gone through its loop, and for each of them once; and when `waitid`
fails, it has waited for all of them.

While the parent is asleep and has not been woken, no child that it waits for has exited.
-/

namespace McKernelTest.Waitid

open Process

section Stayers

variable (env : Environment) (testCase : TestCase) (procNum : Int)

/-- The child moves to a group of its own. -/
def leaves (i : Nat) : Bool :=
  testCase = .waitid1 && (i : Int) < procNum.tdiv 2 && env.setpgid i ≠ -1

/-- The children that stay in the group of the parent. -/
def stayers : List Nat :=
  (List.range procNum.toNat).filter fun i => env.fork i ≠ -1 && !leaves env testCase procNum i

/-- The verdict of the test cases. -/
def verdict : Option Failure :=
  if valid testCase procNum then
    if rounds testCase procNum ≤ (stayers env testCase procNum).length then none else some .waitid
  else
    some .procNum

theorem mem_stayers {i : Nat} : i ∈ stayers env testCase procNum ↔
    i < procNum.toNat ∧ env.fork i ≠ -1 ∧ leaves env testCase procNum i = false := by
  simp [stayers]

theorem nodup_stayers : (stayers env testCase procNum).Nodup :=
  List.nodup_range.filter _

end Stayers

/-! ## A child -/

/-- The child has made its move, if it makes one. -/
def ChildPoint.settled : ChildPoint → Bool
  | .getpid | .setpgid _ => false
  | _ => true

/-- The child can be at this point. -/
def ChildPoint.Fits (env : Environment) (testCase : TestCase) (procNum : Int) (i : Nat) :
    ChildPoint → Prop
  | .getpid => testCase = .waitid1
  | .setpgid pid => pid = env.fork i ∧ testCase = .waitid1 ∧ (i : Int) < procNum.tdiv 2
  | _ => True

/-- The group of a child. -/
def groupAt (env : Environment) (testCase : TestCase) (procNum : Int) (i : Nat)
    (point : ChildPoint) : Int :=
  if leaves env testCase procNum i = true ∧ point.settled = true then env.fork i
  else env.parentGroup

/-- The state of a child agrees with its point. -/
inductive ChildOk (env : Environment) (testCase : TestCase) (procNum : Int) (i : Nat) :
    Option Child → Option ChildPoint → Prop
  | unborn : ChildOk env testCase procNum i none none
  | born {child : Child} {point : ChildPoint} (forked : env.fork i ≠ -1)
      (fits : point.Fits env testCase procNum i)
      (group : child.group = groupAt env testCase procNum i point)
      (running : child.status = .running ↔ point ≠ .exited) :
      ChildOk env testCase procNum i (some child) (some point)

section Child

variable {env : Environment} {testCase : TestCase} {procNum : Int} {i : Nat}
  {world after : World} {point : ChildPoint}

theorem ChildOk.isSome {state : Option Child} {point : Option ChildPoint}
    (ok : ChildOk env testCase procNum i state point) : state.isSome = point.isSome := by
  cases ok <;> rfl

/-- A child that has been forked. -/
theorem ChildOk.start (forked : env.fork i ≠ -1) :
    ChildOk env testCase procNum i (some ⟨env.parentGroup, .running⟩)
      (some (childStart testCase)) := by
  have fits : (childStart testCase).Fits env testCase procNum i := by
    cases testCase with
    | waitid1 => rfl
    | waitid2 => exact trivial
  have group : env.parentGroup = groupAt env testCase procNum i (childStart testCase) := by
    cases testCase with
    | waitid1 => simp [groupAt, childStart, ChildPoint.settled]
    | waitid2 => simp [groupAt, leaves]
  have running : childStart testCase ≠ .exited := by
    cases testCase <;> simp [childStart]
  exact .born forked fits group (by simp [running])

/-- A child that has exited is in the group that it ends up in. -/
theorem ChildOk.group_of_exited {child : Child} {point : Option ChildPoint}
    (ok : ChildOk env testCase procNum i (some child) point) (exited : child.status ≠ .running) :
    child.group = if leaves env testCase procNum i then env.fork i else env.parentGroup := by
  cases ok with
  | @born _ point forked fits group running =>
      have isExited : point = .exited := not_not.mp fun runs => exited (running.mpr runs)
      subst isExited
      simpa [groupAt, ChildPoint.settled] using group

/-- A child that stays is in the group of the parent all the time. -/
theorem ChildOk.group_of_stays {child : Child} {point : Option ChildPoint}
    (ok : ChildOk env testCase procNum i (some child) point)
    (stays : leaves env testCase procNum i = false) : child.group = env.parentGroup := by
  cases ok with
  | born forked fits group running => simpa [groupAt, stays] using group

/-- A call of a child changes nothing but the child; its exit may wake the parent. -/
theorem child_step {op : Op} {next : Res op → ChildPoint} {result : Res op} {child : Child}
    (current : world.children i = some child)
    (ok : ChildOk env testCase procNum i (some child) (some point))
    (isNode : childNode procNum i point = .call op next)
    (performed : perform env procNum world (.child i) op result = some after) :
    child.status = .running ∧ ∃ changed : Child,
      after.children = Function.update world.children i (some changed) ∧
      ChildOk env testCase procNum i (some changed) (some (next result)) ∧
      (changed.status = .running ∧ after.waiter = world.waiter ∨
        changed.status = .exited ∧
          after.waiter = (world.wake env.wakesAll (some changed)).waiter) := by
  have kept : world.children = Function.update world.children i (some child) := by
    rw [← current, Function.update_eq_self]
  cases ok with
  | born forked fits group running =>
      have status : child.status = .running := by
        refine running.mpr ?_
        rintro rfl
        cases isNode
      refine ⟨status, ?_⟩
      cases point with
      | getpid =>
          cases isNode
          obtain ⟨isPid, ⟨⟩⟩ := Option.ite_none_right_eq_some.mp performed
          refine ⟨child, kept, ?_, Or.inl ⟨status, rfl⟩⟩
          have stayed : child.group = env.parentGroup := by
            simpa [groupAt, ChildPoint.settled] using group
          beta_reduce
          split
          · rename_i first
            exact .born forked ⟨isPid, fits, first⟩
              (by simp [groupAt, ChildPoint.settled, stayed]) (by simp [status])
          · rename_i second
            exact .born forked trivial (by simp [groupAt, leaves, second, stayed])
              (by simp [status])
      | setpgid pid =>
          cases isNode
          obtain ⟨isResult, ⟨⟩⟩ := Option.ite_none_right_eq_some.mp performed
          obtain ⟨isPid, isTest, first⟩ := fits
          have stayed : child.group = env.parentGroup := by
            simpa [groupAt, ChildPoint.settled] using group
          by_cases failed : result = -1
          · refine ⟨child, by rw [if_pos failed]; exact kept, ?_,
              Or.inl ⟨status, by rw [if_pos failed]⟩⟩
            exact .born forked trivial (by simp [groupAt, leaves, ← isResult, failed, stayed])
              (by simp [status])
          · refine ⟨{ child with group := pid }, ?_, ?_,
              Or.inl ⟨status, by rw [if_neg failed]; rfl⟩⟩
            · rw [if_neg failed, World.modify, current]
              rfl
            · refine .born forked trivial ?_ (by simp [status])
              simp [groupAt, leaves, ← isResult, failed, isTest, first, isPid, ChildPoint.settled]
      | exit =>
          cases isNode
          cases performed
          refine ⟨{ child with status := .exited }, ?_, ?_, Or.inr ⟨rfl, ?_⟩⟩
          · simp [World.wake, World.modify, current]
          · exact .born forked trivial (by simpa [groupAt, ChildPoint.settled] using group)
              (by simp)
          · -- Whether the parent waits for a child depends on its group alone.
            have same : ∀ idtype : Idtype,
                idtype.matches child = idtype.matches { child with status := .exited } := by
              intro idtype
              cases idtype <;> rfl
            simp [World.wake, World.modify, current, same]
      | getpidLast =>
          cases isNode
          obtain ⟨-, ⟨⟩⟩ := Option.ite_none_right_eq_some.mp performed
          exact ⟨child, kept, .born forked trivial
            (by simpa [groupAt, ChildPoint.settled] using group)
            (by simpa using running), Or.inl ⟨status, rfl⟩⟩
      | getpgid pid =>
          cases isNode
          obtain ⟨-, ⟨⟩⟩ := Option.ite_none_right_eq_some.mp performed
          exact ⟨child, kept, .born forked trivial
            (by simpa [groupAt, ChildPoint.settled] using group)
            (by simpa using running), Or.inl ⟨status, rfl⟩⟩
      | exited => cases isNode
      | _ =>
          cases isNode
          cases performed
          exact ⟨child, kept, .born forked trivial
            (by simpa [groupAt, ChildPoint.settled] using group)
            (by simpa using running), Or.inl ⟨status, rfl⟩⟩

end Child

/-! ## The parent -/

/-- The parent waits for the children that stay. -/
def Idtype.Fits (env : Environment) : TestCase → Idtype → Prop
  | .waitid1, idtype => idtype = .pgid env.parentGroup
  | .waitid2, idtype => idtype = .all

namespace ParentPoint

/-- How often the parent has called `fork`. -/
def forks (procNum : Int) : ParentPoint → Nat
  | .fork i => i
  | .returned (some .procNum) => 0
  | _ => procNum.toNat

/-- What the parent has done at a point, with the children that it has waited for. -/
def Fits (env : Environment) (testCase : TestCase) (procNum : Int) (reaped : List Nat) :
    ParentPoint → Prop
  | .fork i => valid testCase procNum = true ∧ reaped = [] ∧ (i : Int) < procNum
  | .getpid => valid testCase procNum = true ∧ reaped = []
  | .getpgid _ => valid testCase procNum = true ∧ reaped = [] ∧ testCase = .waitid1
  | .called _ idtype i | .waitid _ idtype i | .asleep _ idtype i =>
      valid testCase procNum = true ∧ idtype.Fits env testCase ∧ reaped.length = i ∧
        i < rounds testCase procNum
  | .reaped _ idtype i info | .report _ idtype i info =>
      valid testCase procNum = true ∧ idtype.Fits env testCase ∧ i < rounds testCase procNum ∧
        (info.result ≠ -1 → reaped.length = i + 1) ∧
        (info.result = -1 → (stayers env testCase procNum).length ≤ i)
  | .returned failure =>
      failure = verdict env testCase procNum ∧
        (failure = none → reaped.length = rounds testCase procNum)

/-- Whom the parent waits for in its sleep. -/
def waits : ParentPoint → Option Idtype
  | .asleep _ idtype _ => some idtype
  | _ => none

end ParentPoint

/-- Nobody has had to wake the parent: no child that it waits for has exited, and there is
another child, which has not even exited if every child wakes the parent. -/
def World.Undisturbed (world : World) (env : Environment) (waiter : Waiter) : Prop :=
  (∀ i child, world.children i = some child → child.status = .exited →
    waiter.idtype.matches child = false) ∧
  ∃ i child, world.children i = some child ∧ child.status ≠ .reaped ∧
    (env.wakesAll = true → child.status = .running)

/-- The state of the children agrees with what the parent has done. -/
structure Accounts (env : Environment) (testCase : TestCase) (procNum : Int) (world : World)
    (parent : ParentPoint) (children : Nat → Option ChildPoint) (reaped : List Nat) : Prop where
  fits : parent.Fits env testCase procNum reaped
  childOk : ∀ i, ChildOk env testCase procNum i (world.children i) (children i)
  forked : ∀ i, (world.children i).isSome = true ↔ i < parent.forks procNum ∧ env.fork i ≠ -1
  nodup : reaped.Nodup
  stays : ∀ i ∈ reaped, i ∈ stayers env testCase procNum
  isReaped : ∀ i, i ∈ reaped ↔ (world.children i).any (·.status = .reaped) = true
  asleep : world.waiter.map (·.idtype) = parent.waits
  undisturbed : ∀ waiter, world.waiter = some waiter → waiter.woken = false →
    world.Undisturbed env waiter

section Parent

variable {env : Environment} {testCase : TestCase} {procNum : Int} {world after : World}
  {parent next : ParentPoint} {children : Nat → Option ChildPoint} {reaped : List Nat}

/-- A child that is at a point exists. -/
theorem Accounts.exists_child {i : Nat} {point : ChildPoint}
    (accounts : Accounts env testCase procNum world parent children reaped)
    (current : children i = some point) :
    ∃ child, world.children i = some child ∧
      ChildOk env testCase procNum i (some child) (some point) := by
  have ok := accounts.childOk i
  rw [current] at ok
  obtain ⟨child, isChild⟩ : ∃ child, world.children i = some child :=
    Option.isSome_iff_exists.mp (by rw [ok.isSome]; rfl)
  exact ⟨child, isChild, isChild ▸ ok⟩

theorem forks_forkLoop {i : Nat} (inside : (i : Int) ≤ procNum) :
    (forkLoop procNum i).forks procNum = i := by
  unfold forkLoop
  split
  · rfl
  · simp only [ParentPoint.forks]
    omega

theorem forks_waitLoop (pid : Int) (idtype : Idtype) (i : Nat) :
    (waitLoop testCase procNum pid idtype i).forks procNum = procNum.toNat := by
  unfold waitLoop
  split <;> rfl

theorem waits_forkLoop (i : Nat) : (forkLoop procNum i).waits = none := by
  unfold forkLoop
  split <;> rfl

theorem waits_waitLoop (pid : Int) (idtype : Idtype) (i : Nat) :
    (waitLoop testCase procNum pid idtype i).waits = none := by
  unfold waitLoop
  split <;> rfl

/-- The parent has not waited for more children than stay. -/
theorem Accounts.length_reaped_le
    (accounts : Accounts env testCase procNum world parent children reaped) :
    reaped.length ≤ (stayers env testCase procNum).length :=
  (accounts.nodup.subperm accounts.stays).length_le

/-- At the head of the loop that waits. -/
theorem Accounts.fits_waitLoop {i : Nat} {pid : Int} {idtype : Idtype}
    (accounts : Accounts env testCase procNum world parent children reaped)
    (isValid : valid testCase procNum = true) (fits : idtype.Fits env testCase)
    (length : reaped.length = i) (inside : i ≤ rounds testCase procNum) :
    (waitLoop testCase procNum pid idtype i).Fits env testCase procNum reaped := by
  unfold waitLoop
  split
  · rename_i more
    exact ⟨isValid, fits, length, more⟩
  · rename_i enough
    have isLast : reaped.length = rounds testCase procNum := by omega
    refine ⟨?_, fun _ => isLast⟩
    rw [verdict, if_pos isValid, if_pos (isLast ▸ accounts.length_reaped_le)]

/-- A step of the parent that changes no child. -/
theorem Accounts.stay (accounts : Accounts env testCase procNum world parent children reaped)
    (fits : next.Fits env testCase procNum reaped)
    (forks : next.forks procNum = parent.forks procNum) (waits : next.waits = parent.waits) :
    Accounts env testCase procNum world next children reaped :=
  { accounts with
    fits := fits
    forked := forks ▸ accounts.forked
    asleep := accounts.asleep.trans waits.symm }

/-- The call of `fork`. -/
theorem Accounts.fork_step {i : Nat} {result : Int}
    (accounts : Accounts env testCase procNum world (.fork i) children reaped)
    (performed : perform env procNum world .parent (.fork i) result = some after) :
    children i = none ∧
      Accounts env testCase procNum after (forkLoop procNum (i + 1))
        (if result = -1 then children else Function.update children i (some (childStart testCase)))
        reaped := by
  obtain ⟨fits, childOk, forked, nodup, stays, isReaped, asleep, -⟩ := accounts
  obtain ⟨isValid, nobody, inside⟩ := fits
  obtain ⟨isResult, ⟨⟩⟩ := Option.ite_none_right_eq_some.mp performed
  have awake : world.waiter = none := Option.map_eq_none_iff.mp asleep
  have unborn : world.children i = none := by
    rw [← Option.not_isSome_iff_eq_none, forked i]
    exact fun early => Nat.lt_irrefl i early.1
  have isPoint : children i = none := by
    rw [← Option.not_isSome_iff_eq_none, ← (childOk i).isSome, unborn]
    simp
  have fits : (forkLoop procNum (i + 1)).Fits env testCase procNum reaped := by
    unfold forkLoop
    split
    · rename_i more
      exact ⟨isValid, nobody, more⟩
    · exact ⟨isValid, nobody⟩
  have forks : (forkLoop procNum (i + 1)).forks procNum = i + 1 := forks_forkLoop (by omega)
  have changes : ∀ num, num < i + 1 ∧ env.fork num ≠ -1 ↔
      num < i ∧ env.fork num ≠ -1 ∨ num = i ∧ env.fork num ≠ -1 := by
    intro num
    rw [← or_and_right, Nat.lt_succ_iff_lt_or_eq]
  refine ⟨isPoint, ?_⟩
  by_cases failed : result = -1
  · rw [if_pos failed, if_pos failed]
    refine ⟨fits, childOk, fun num => ?_, nodup, stays, isReaped,
      asleep.trans (waits_forkLoop _).symm, fun waiter isWaiter => ?_⟩
    swap
    · cases awake.symm.trans isWaiter
    rw [forks, changes, forked num]
    refine ⟨Or.inl, fun kinds => kinds.resolve_right ?_⟩
    rintro ⟨rfl, success⟩
    exact success (isResult ▸ failed)
  · rw [if_neg failed, if_neg failed]
    have success : env.fork i ≠ -1 := isResult ▸ failed
    refine ⟨fits, fun num => ?_, fun num => ?_, nodup, stays, fun num => ?_,
      asleep.trans (waits_forkLoop _).symm, fun waiter isWaiter => ?_⟩
    · dsimp only
      by_cases same : num = i
      · subst same
        rw [Function.update_self, Function.update_self]
        exact ChildOk.start success
      · rw [Function.update_of_ne same, Function.update_of_ne same]
        exact childOk num
    · rw [forks, changes]
      dsimp only
      by_cases same : num = i
      · subst same
        simp [success]
      · rw [Function.update_of_ne same, forked num]
        simp [same, ParentPoint.forks]
    · dsimp only
      by_cases same : num = i
      · subst same
        simp [nobody]
      · rw [Function.update_of_ne same]
        exact isReaped num
    · cases awake.symm.trans isWaiter

/-- Who is waited for. -/
theorem Idtype.matches_iff {idtype : Idtype} {child : Child} (fits : idtype.Fits env testCase) :
    idtype.matches child = true ↔ testCase = .waitid1 → child.group = env.parentGroup := by
  cases testCase with
  | waitid1 =>
      cases fits
      simp [Idtype.matches]
  | waitid2 =>
      cases fits
      simp [Idtype.matches]

/-- A child that stays and has not been waited for is one that can be waited for. -/
theorem Accounts.exists_of_unreaped {idtype : Idtype} {i : Nat}
    (accounts : Accounts env testCase procNum world parent children reaped)
    (fits : idtype.Fits env testCase) (forks : parent.forks procNum = procNum.toNat)
    (stays : i ∈ stayers env testCase procNum) (unreaped : i ∉ reaped) :
    i < procNum.toNat ∧ ∃ child, world.children i = some child ∧ child.status ≠ .reaped ∧
      idtype.matches child = true := by
  obtain ⟨inside, success, remains⟩ := (mem_stayers env testCase procNum).mp stays
  obtain ⟨child, current⟩ := Option.isSome_iff_exists.mp
    ((accounts.forked i).mpr ⟨forks ▸ inside, success⟩)
  have group := (current ▸ accounts.childOk i).group_of_stays remains
  rw [accounts.isReaped, current] at unreaped
  exact ⟨inside, child, current, by simpa using unreaped,
    (Idtype.matches_iff fits).mpr fun _ => group⟩

/-- When there is nobody left to wait for, all children that stay have been waited for. -/
theorem Accounts.length_stayers_le {idtype : Idtype}
    (accounts : Accounts env testCase procNum world parent children reaped)
    (fits : idtype.Fits env testCase) (forks : parent.forks procNum = procNum.toNat)
    (nobody : world.hasChild procNum.toNat idtype = false) :
    (stayers env testCase procNum).length ≤ reaped.length := by
  refine ((nodup_stayers env testCase procNum).subperm fun i stays => ?_).length_le
  by_contra unreaped
  obtain ⟨inside, child, current, waiting, isMatch⟩ :=
    accounts.exists_of_unreaped fits forks stays unreaped
  have unfound := List.any_eq_false.mp nobody i (List.mem_range.mpr inside)
  simp [current, waiting, isMatch] at unfound

/-- A child that has exited and can be waited for is one that stays. -/
theorem Accounts.stays_of_exited {idtype : Idtype} {i : Nat} {child : Child}
    (accounts : Accounts env testCase procNum world parent children reaped)
    (fits : idtype.Fits env testCase) (inside : i < procNum.toNat)
    (current : world.children i = some child) (exited : child.status = .exited)
    (isMatch : idtype.matches child = true) :
    i ∈ stayers env testCase procNum ∧ i ∉ reaped := by
  have born := (accounts.forked i).mp (by rw [current]; rfl)
  constructor
  · refine (mem_stayers env testCase procNum).mpr ⟨inside, born.2, ?_⟩
    by_contra moved
    rw [Bool.not_eq_false] at moved
    have group := (current ▸ accounts.childOk i).group_of_exited (by simp [exited])
    rw [if_pos moved] at group
    simp only [leaves, Bool.and_eq_true, decide_eq_true_eq] at moved
    exact env.fork_ne_parentGroup i born.2
      (group.symm.trans ((Idtype.matches_iff fits).mp isMatch moved.1.1))
  · rw [accounts.isReaped, current]
    simp [exited]

/-- The children after one of them has been waited for. -/
theorem Accounts.reap {pid : Int} {idtype : Idtype} {i num : Nat} {info : Info} {child : Child}
    (accounts : Accounts env testCase procNum world parent children reaped)
    (fits : (ParentPoint.reaped pid idtype i info).Fits env testCase procNum (reaped ++ [num]))
    (forks : parent.forks procNum = procNum.toNat)
    (current : world.children num = some child) (exited : child.status = .exited)
    (stays : num ∈ stayers env testCase procNum) (fresh : num ∉ reaped) :
    Accounts env testCase procNum
      { world.modify num ({ · with status := .reaped }) with waiter := none }
      (.reaped pid idtype i info) children (reaped ++ [num]) := by
  refine ⟨fits, fun other => ?_, fun other => ?_, ?_, ?_, fun other => ?_, rfl,
    fun _ isWaiter => by cases isWaiter⟩
  · by_cases same : other = num
    · subst same
      have ok := accounts.childOk other
      rw [current] at ok
      simp only [World.modify, Function.update_self, current]
      generalize children other = point at ok
      cases ok with
      | born forked fits group running =>
          refine .born forked fits group ?_
          simpa [exited] using running
    · simp only [World.modify, Function.update_of_ne same]
      exact accounts.childOk other
  · have kept := accounts.forked other
    rw [forks] at kept
    refine Iff.trans ?_ kept
    by_cases same : other = num
    · subst same
      simp [World.modify]
    · simp only [World.modify, Function.update_of_ne same]
  · exact List.nodup_append.mpr ⟨accounts.nodup, by simp, by
      rintro a member b isNum rfl
      exact fresh (List.mem_singleton.mp isNum ▸ member)⟩
  · intro other member
    rcases List.mem_append.mp member with old | new
    · exact accounts.stays other old
    · exact List.mem_singleton.mp new ▸ stays
  · by_cases same : other = num
    · subst same
      simp [World.modify, current]
    · simp only [World.modify, Function.update_of_ne same]
      rw [← accounts.isReaped]
      simp [same]

/-- The child that a look at the children reports. -/
def reported : Option Info → Option Int
  | some info => if info.result = 0 then some info.siPid else none
  | none => none

/-- A look at the children, in the call of `waitid` or after the parent has been woken. -/
theorem Accounts.scan_step {pid : Int} {idtype : Idtype} {i : Nat} {result : Option Info}
    (accounts : Accounts env testCase procNum world parent children reaped)
    (fits : (ParentPoint.waitid pid idtype i).Fits env testCase procNum reaped)
    (forks : parent.forks procNum = procNum.toNat)
    (performed : world.scan env procNum.toNat idtype result = some after) :
    ∃ grown, Accounts env testCase procNum after (scanned pid idtype i result) children grown ∧
      grown.map env.fork = reaped.map env.fork ++ (reported result).toList := by
  obtain ⟨isValid, isIdtype, length, inside⟩ := fits
  cases result with
  | none =>
      obtain ⟨⟨someone, nobody⟩, ⟨⟩⟩ := Option.ite_none_right_eq_some.mp performed
      refine ⟨reaped, ⟨⟨isValid, isIdtype, length, inside⟩, accounts.childOk,
        fun num => (accounts.forked num).trans (by rw [forks]; rfl), accounts.nodup,
        accounts.stays, accounts.isReaped, rfl, ?_⟩, by simp [reported]⟩
      rintro _ ⟨⟩ -
      constructor
      · intro num child current exited
        change world.children num = some child at current
        have within : num < procNum.toNat :=
          forks ▸ ((accounts.forked num).mp (by rw [current]; rfl)).1
        have unfound := List.any_eq_false.mp nobody num (List.mem_range.mpr within)
        simpa [current, exited] using unfound
      · simp only [World.hasChild, List.any_eq_true, Option.any_eq_true, Bool.and_eq_true,
          decide_eq_true_eq] at someone
        obtain ⟨num, within, child, current, unreaped, isMatch⟩ := someone
        refine ⟨num, child, current, unreaped, fun _ => ?_⟩
        have unfound := List.any_eq_false.mp nobody num within
        cases status : child.status with
        | running => rfl
        | exited => simp [current, status, isMatch] at unfound
        | reaped => exact absurd status unreaped
  | some info =>
      simp only [World.scan] at performed
      split at performed
      · rename_i failed
        obtain ⟨⟨-, nobody⟩, ⟨⟩⟩ := Option.ite_none_right_eq_some.mp performed
        have short := length ▸ accounts.length_stayers_le isIdtype forks nobody
        refine ⟨reaped, ⟨⟨isValid, isIdtype, inside, fun success => absurd failed success,
          fun _ => short⟩, accounts.childOk,
          fun num => (accounts.forked num).trans (by rw [forks]; rfl), accounts.nodup,
          accounts.stays, accounts.isReaped, rfl, fun _ isWaiter => by cases isWaiter⟩, ?_⟩
        simp [reported, failed]
      · rename_i success
        obtain ⟨zero, performed⟩ := Option.ite_none_right_eq_some.mp performed
        obtain ⟨num, found, ⟨⟩⟩ := Option.map_eq_some_iff.mp performed
        have within := List.mem_range.mp (List.mem_of_find?_eq_some found)
        have selected := List.find?_some found
        simp only [Bool.and_eq_true, decide_eq_true_eq, Option.any_eq_true] at selected
        obtain ⟨isPid, child, current, exited, isMatch⟩ := selected
        obtain ⟨stays, fresh⟩ := accounts.stays_of_exited isIdtype within current exited isMatch
        refine ⟨reaped ++ [num], accounts.reap ⟨isValid, isIdtype, inside, fun _ => by
          simp [length], fun failed => absurd failed success⟩ forks current exited stays fresh, ?_⟩
        simp [reported, zero, isPid]

end Parent

end McKernelTest.Waitid
