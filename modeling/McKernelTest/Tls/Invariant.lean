import McKernelTest.Tls.Protocol

/-!
# The semaphores of `tls#1`

Every semaphore is posted once and waited for once.  The invariant balances each
counter with the stages of the parent and of the child it belongs to: a child that
has posted has been waited for or has left a 1 in `sync`, and a child that the parent
has started has gone on or finds a 1 in `start`.
-/

namespace McKernelTest.Tls

open Posix Process Transition

namespace ParentStage

/-- The number of `pthread_create` calls that have been made. -/
def created (childCount : Nat) : ParentStage → Nat
  | .setup | .left => 0
  | .creating i => i
  | .syncing _ | .starting _ => childCount

/-- The number of children that have been waited for. -/
def waited (childCount : Nat) : ParentStage → Nat
  | .setup | .left | .creating _ => 0
  | .syncing i => i
  | .starting _ => childCount

/-- The number of children that have been started. -/
def started : ParentStage → Nat
  | .setup | .left | .creating _ | .syncing _ => 0
  | .starting i => i

/-- The parent goes on only with memory, and leaves early only without; a child that it
is about to create is one of the children. -/
def Fits (env : Environment) (childCount : Nat) : ParentStage → Prop
  | .setup => True
  | .creating i => env.calloc = true ∧ i < childCount
  | .syncing _ | .starting _ => env.calloc = true
  | .left => env.calloc = false

end ParentStage

namespace ChildStage

/-- The child has posted `sync`. -/
def hasPosted : ChildStage → Bool
  | .fresh => false
  | .posted | .running | .returned => true

/-- The child has passed its wait for `start`. -/
def hasEntered : ChildStage → Bool
  | .fresh | .posted => false
  | .running | .returned => true

end ChildStage

/-- Whether a loop that has come to `bound` has passed a child, as a number. -/
def passed (num bound : Nat) : Nat :=
  if num < bound then 1 else 0

theorem passed_self (num : Nat) : passed num num = 0 :=
  if_neg (Nat.lt_irrefl num)

theorem passed_succ_self (num : Nat) : passed num (num + 1) = 1 :=
  if_pos (Nat.lt_succ_self num)

theorem passed_succ_of_ne {num i : Nat} (other : num ≠ i) : passed num (i + 1) = passed num i := by
  have same : num < i + 1 ↔ num < i := by omega
  exact if_congr same rfl rfl

/-- The event of a child's post. -/
def posting (num : Nat) : TlsEvent :=
  .call (.child num) (.semPost (.sync num)) ()

/-- The event of the parent's post for a child. -/
def starting (num : Nat) : TlsEvent :=
  .call .parent (.semPost (.start num)) ()

/-- The two semaphores of a child agree with the stages of the parent and the child. -/
structure Account (env : Environment) (childCount : Nat) (trace : List TlsEvent)
    (parent : ParentStage) (num sync start : Nat) (child : Option ChildStage) : Prop where
  born : child.isSome = true ↔ num < parent.created childCount ∧ env.pthreadCreate num = 0
  sync : sync + passed num (parent.waited childCount) = (child.any (·.hasPosted)).toNat
  start : start + (child.any (·.hasEntered)).toNat = passed num parent.started
  logged : child.any (·.hasPosted) = true → posting num ∈ trace

/-- The semaphores of all children agree with the stages. -/
structure Accounts (env : Environment) (childCount : Nat) (trace : List TlsEvent)
    (sems : Sem → Nat) (parent : ParentStage) (children : Nat → Option ChildStage) : Prop where
  fits : parent.Fits env childCount
  account : ∀ num, Account env childCount trace parent num (sems (.sync num)) (sems (.start num))
    (children num)

section ParentSteps

variable {env : Environment} {childCount i : Nat} {trace : List TlsEvent} {sems : Sem → Nat}
  {parent next : ParentStage} {children : Nat → Option ChildStage}

theorem Account.extend {num sync start : Nat} {child : Option ChildStage}
    (account : Account env childCount trace parent num sync start child) (event : TlsEvent) :
    Account env childCount (trace ++ [event]) parent num sync start child :=
  { account with logged := fun posted => List.mem_append_left _ (account.logged posted) }

theorem Accounts.extend (accounts : Accounts env childCount trace sems parent children)
    (event : TlsEvent) : Accounts env childCount (trace ++ [event]) sems parent children :=
  ⟨accounts.fits, fun num => (accounts.account num).extend event⟩

/-- A move of the parent that counts nothing. -/
theorem Accounts.parent_quiet (accounts : Accounts env childCount trace sems parent children)
    (fits : next.Fits env childCount)
    (created : next.created childCount = parent.created childCount)
    (waited : next.waited childCount = parent.waited childCount)
    (started : next.started = parent.started) :
    Accounts env childCount trace sems next children where
  fits := fits
  account num := by
    rcases accounts.account num with ⟨born, sync, start, logged⟩
    constructor
    · rwa [created]
    · rwa [waited]
    · rwa [started]
    · exact logged

theorem creatingFrom_spec (memory : env.calloc = true) (reached : i ≤ childCount) :
    (creatingFrom childCount i).Fits env childCount ∧
      (creatingFrom childCount i).created childCount = i ∧
      (creatingFrom childCount i).waited childCount = 0 ∧
      (creatingFrom childCount i).started = 0 := by
  unfold creatingFrom
  split
  · rename_i more
    exact ⟨⟨memory, more⟩, rfl, rfl, rfl⟩
  · exact ⟨memory, by rw [ParentStage.created]; omega, rfl, rfl⟩

/-- A child that is about to be created does not exist. -/
theorem Accounts.unborn (accounts : Accounts env childCount trace sems (.creating i) children) :
    children i = none := by
  have born := (accounts.account i).born
  simpa [ParentStage.created] using born

/-- `sem_init` finds a semaphore that is 0 already. -/
theorem Accounts.init (accounts : Accounts env childCount trace sems (.creating i) children)
    {sem : Sem} (own : sem = .sync i ∨ sem = .start i) : Function.update sems sem 0 = sems := by
  have account := accounts.account i
  rw [accounts.unborn] at account
  rw [Function.update_eq_self_iff]
  rcases own with rfl | rfl
  · exact (Nat.eq_zero_of_add_eq_zero_right account.sync).symm
  · exact (Nat.eq_zero_of_add_eq_zero_right account.start).symm

/-- The children after `pthread_create` has returned. -/
def afterCreate (children : Nat → Option ChildStage) (num : Nat) (result : Int) :
    Nat → Option ChildStage :=
  if result = 0 then Function.update children num (some .fresh) else children

theorem afterCreate_self (unborn : children i = none) (result : Int) :
    afterCreate children i result i = if result = 0 then some .fresh else none := by
  unfold afterCreate
  split
  · exact Function.update_self _ _ _
  · exact unborn

theorem afterCreate_of_ne {num : Nat} (other : num ≠ i) (result : Int) :
    afterCreate children i result num = children num := by
  unfold afterCreate
  split
  · exact Function.update_of_ne other _ _
  · rfl

/-- `pthread_create` of child `i`. -/
theorem Accounts.create (accounts : Accounts env childCount trace sems (.creating i) children) :
    Accounts env childCount trace sems (creatingFrom childCount (i + 1))
      (afterCreate children i (env.pthreadCreate i)) := by
  obtain ⟨memory, room⟩ : env.calloc = true ∧ i < childCount := accounts.fits
  obtain ⟨fits, created, waited, started⟩ := creatingFrom_spec memory (Nat.succ_le_of_lt room)
  refine ⟨fits, fun num => ?_⟩
  rcases accounts.account num with ⟨born, sync, start, logged⟩
  rw [ParentStage.created] at born
  by_cases isNew : num = i
  · subst isNew
    rw [accounts.unborn] at sync start
    rw [afterCreate_self accounts.unborn]
    constructor
    · rw [created]
      split <;> simp [*]
    · rw [waited]
      split <;> exact sync
    · rw [started]
      split <;> exact start
    · split <;> exact fun impossible => absurd impossible (by simp [ChildStage.hasPosted])
  · rw [afterCreate_of_ne isNew]
    constructor
    · rw [born, created, Nat.lt_succ_iff_lt_or_eq]
      simp [isNew]
    · rw [waited]
      exact sync
    · rw [started]
      exact start
    · exact logged

/-- The parent's wait for child `i`. -/
theorem Accounts.wait (accounts : Accounts env childCount trace sems (.syncing i) children)
    (positive : 0 < sems (.sync i)) :
    Accounts env childCount trace (Function.update sems (.sync i) (sems (.sync i) - 1))
      (.syncing (i + 1)) children where
  fits := accounts.fits
  account num := by
    rcases accounts.account num with ⟨born, sync, start, logged⟩
    rw [ParentStage.waited] at sync
    rw [Function.update_of_ne (by simp : Sem.start num ≠ .sync i)]
    refine ⟨born, ?_, start, logged⟩
    rw [ParentStage.waited]
    by_cases same : num = i
    · subst same
      rw [passed_self] at sync
      rw [Function.update_self, passed_succ_self]
      omega
    · rwa [Function.update_of_ne (by simpa using same), passed_succ_of_ne same]

/-- The parent's post for child `i`. -/
theorem Accounts.post (accounts : Accounts env childCount trace sems (.starting i) children) :
    Accounts env childCount trace (semPostOn sems (.start i)) (.starting (i + 1)) children where
  fits := accounts.fits
  account num := by
    rcases accounts.account num with ⟨born, sync, start, logged⟩
    rw [ParentStage.started] at start
    rw [semPostOn, Function.update_of_ne (by simp : Sem.sync num ≠ .start i)]
    refine ⟨born, sync, ?_, logged⟩
    rw [ParentStage.started]
    by_cases same : num = i
    · subst same
      rw [passed_self] at start
      rw [Function.update_self, passed_succ_self]
      omega
    · rwa [Function.update_of_ne (by simpa using same), passed_succ_of_ne same]

end ParentSteps

section ChildSteps

variable {env : Environment} {childCount num : Nat} {trace later : List TlsEvent}
  {sems after : Sem → Nat} {parent : ParentStage} {children : Nat → Option ChildStage}
  {stage next : ChildStage}

/-- A move of one child concerns its own account only. -/
theorem Accounts.child (accounts : Accounts env childCount trace sems parent children)
    (own : Account env childCount later parent num (after (.sync num)) (after (.start num))
      (some next))
    (others : ∀ other, other ≠ num →
      after (.sync other) = sems (.sync other) ∧ after (.start other) = sems (.start other))
    (longer : ∀ event ∈ trace, event ∈ later) :
    Accounts env childCount later after parent (Function.update children num (some next)) := by
  refine ⟨accounts.fits, fun other => ?_⟩
  by_cases same : other = num
  · subst same
    rw [Function.update_self]
    exact own
  · rw [Function.update_of_ne same, (others other same).1, (others other same).2]
    have account := accounts.account other
    exact { account with logged := fun posted => longer _ (account.logged posted) }

/-- A move of a child that passes no semaphore. -/
theorem Accounts.child_quiet (accounts : Accounts env childCount trace sems parent children)
    (current : children num = some stage) (posted : next.hasPosted = stage.hasPosted)
    (entered : next.hasEntered = stage.hasEntered) :
    Accounts env childCount trace sems parent (Function.update children num (some next)) := by
  have account := accounts.account num
  rw [current] at account
  rcases account with ⟨born, sync, start, logged⟩
  apply accounts.child
  · refine ⟨born, ?_, ?_, ?_⟩
    · rwa [Option.any_some, posted]
    · rwa [Option.any_some, entered]
    · rwa [Option.any_some, posted]
  · exact fun _ _ => ⟨rfl, rfl⟩
  · exact fun _ member => member

/-- A child's post. -/
theorem Accounts.child_post (accounts : Accounts env childCount trace sems parent children)
    (current : children num = some .fresh) :
    Accounts env childCount (trace ++ [posting num]) (semPostOn sems (.sync num)) parent
      (Function.update children num (some .posted)) := by
  have account := accounts.account num
  rw [current] at account
  rcases account with ⟨born, sync, start, -⟩
  rw [semPostOn]
  apply accounts.child
  · rw [Function.update_self, Function.update_of_ne (by simp : Sem.start num ≠ .sync num)]
    refine ⟨born, ?_, start, fun _ => List.mem_append_right _ List.mem_cons_self⟩
    rw [Nat.add_right_comm, sync]
    rfl
  · intro other different
    rw [Function.update_of_ne (by simpa using different), Function.update_of_ne (by simp)]
    exact ⟨rfl, rfl⟩
  · exact fun _ member => List.mem_append_left _ member

/-- A child goes on. -/
theorem Accounts.child_enter (accounts : Accounts env childCount trace sems parent children)
    (current : children num = some .posted) (positive : 0 < sems (.start num)) :
    Accounts env childCount trace (Function.update sems (.start num) (sems (.start num) - 1)) parent
      (Function.update children num (some .running)) := by
  have account := accounts.account num
  rw [current] at account
  rcases account with ⟨born, sync, start, logged⟩
  apply accounts.child
  · rw [Function.update_self, Function.update_of_ne (by simp : Sem.sync num ≠ .start num)]
    refine ⟨born, sync, ?_, logged⟩
    rw [← start]
    exact Nat.sub_add_cancel positive
  · intro other different
    rw [Function.update_of_ne (by simp), Function.update_of_ne (by simpa using different)]
    exact ⟨rfl, rfl⟩
  · exact fun _ member => member

end ChildSteps

end McKernelTest.Tls
