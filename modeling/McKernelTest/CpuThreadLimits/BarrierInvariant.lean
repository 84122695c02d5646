import McKernelTest.CpuThreadLimits.Barrier

/-!
# The start barrier of `cpu_thread_limits#0`

How far the run function is, is a record of counters, one for each of its loops.  The
invariant is an account for each thread that compares its entry in the array and its point
with these counters.  A step of the run function raises one counter; a step of a thread
concerns its own account.
-/

namespace McKernelTest.CpuThreadLimits.Barrier

open Process Transition

/-- How many threads the loops of the run function have dealt with. -/
structure Progress where
  /-- Threads whose `local_id` has been stored. -/
  numbered : Nat := 0
  /-- Threads whose flag has been cleared. -/
  cleared : Nat := 0
  /-- Calls of `pthread_create`. -/
  created : Nat := 0
  /-- Results of `pthread_create` that have been stored. -/
  recorded : Nat := 0
  /-- Results that have been found to be 0. -/
  checked : Nat := 0
  /-- Flags that have been found set since `retry`. -/
  seen : Nat := 0
  /-- Threads that have been joined. -/
  joined : Nat := 0
  opened : Bool := false
  freed : Bool := false

/-- All threads have been created, as far as possible. -/
def Progress.made (count : Nat) : Progress :=
  { numbered := count, cleared := count, created := count, recorded := count }

/-- All threads have been created, and the barrier is open. -/
def Progress.opening (count : Nat) : Progress :=
  { Progress.made count with checked := count, seen := count, opened := true }

namespace MainPoint

/-- How far the run function is. -/
def progress (count : Nat) : MainPoint → Progress
  | .calloc | .getrlimit | .setrlimit => {}
  | .storeLocalId ith => Progress.made ith
  | .storeWaiting ith => { Progress.made ith with numbered := ith + 1 }
  | .create ith => { Progress.made ith with numbered := ith + 1, cleared := ith + 1 }
  | .storeIret ith _ => { Progress.made (ith + 1) with recorded := ith }
  | .loadIret ith => { Progress.made count with checked := ith }
  | .reloadIret _ | .printFailure _ _ | .freeFailed => Progress.made count
  | .loadWaiting ith => { Progress.made count with checked := count, seen := ith }
  | .openBarrier => { Progress.made count with checked := count, seen := count }
  | .join ith => { Progress.opening count with joined := ith }
  | .free => { Progress.opening count with joined := count }
  | .returned none => { Progress.opening count with joined := count, freed := true }
  | .returned (some .pthreadCreate) => { Progress.made count with freed := true }
  | .returned (some _) => {}

/-- The loops stay in the array, and what has been read from it is a result of
`pthread_create`. -/
def Fits (env : Environment) (args : Args) : MainPoint → Prop
  | .storeLocalId ith | .storeWaiting ith | .create ith | .loadIret ith | .loadWaiting ith
  | .join ith => ith < args.count
  | .storeIret ith iret => ith < args.count ∧ iret = env.pthreadCreate ith
  | .reloadIret ith | .printFailure ith _ => ith < args.count ∧ env.pthreadCreate ith ≠ 0
  | _ => True

end MainPoint

section Loops

variable (env : Environment) (args : Args) {count ith : Nat}

theorem joinFrom_fits : (joinFrom args.count ith).Fits env args := by
  unfold joinFrom
  split
  · assumption
  · trivial

theorem waitFrom_fits : (waitFrom args.count ith).Fits env args := by
  unfold waitFrom
  split
  · assumption
  · trivial

theorem checkFrom_fits : (checkFrom args.count ith).Fits env args := by
  unfold checkFrom
  split
  · assumption
  · exact waitFrom_fits env args

theorem createFrom_fits : (createFrom args.count ith).Fits env args := by
  unfold createFrom
  split
  · assumption
  · exact checkFrom_fits env args

theorem joinFrom_progress (reached : ith ≤ count) :
    (joinFrom count ith).progress count = { Progress.opening count with joined := ith } := by
  unfold joinFrom
  split
  · rfl
  · rw [show ith = count by omega]
    rfl

theorem waitFrom_progress (reached : ith ≤ count) :
    (waitFrom count ith).progress count =
      { Progress.made count with checked := count, seen := ith } := by
  unfold waitFrom
  split
  · rfl
  · rw [show ith = count by omega]
    rfl

theorem checkFrom_progress (reached : ith ≤ count) :
    (checkFrom count ith).progress count = { Progress.made count with checked := ith } := by
  unfold checkFrom
  split
  · rfl
  · rw [waitFrom_progress (Nat.zero_le count), show ith = count by omega]
    rfl

theorem createFrom_progress (reached : ith ≤ count) :
    (createFrom count ith).progress count = Progress.made ith := by
  unfold createFrom
  split
  · rfl
  · rw [checkFrom_progress (Nat.zero_le count), show ith = count by omega]
    rfl

end Loops

namespace ChildPoint

/-- The thread has set its flag. -/
def arrived : ChildPoint → Bool
  | .storeWaiting => false
  | _ => true

/-- The thread has passed the barrier. -/
def entered : ChildPoint → Bool
  | .storeWaiting | .loadBarrier | .pause => false
  | _ => true

/-- The thread has printed its line. -/
def printed : ChildPoint → Bool
  | .threadReturn | .exited => true
  | _ => false

end ChildPoint

/-- The entry of a thread, and the thread itself, agree with how far the run function is. -/
structure Account (env : Environment) (progress : Progress) (num : Nat) (cells : Field → Int)
    (returned : Bool) (child : Option ChildPoint) : Prop where
  born : child.isSome = true ↔ num < progress.created ∧ env.pthreadCreate num = 0
  checked : num < progress.checked → env.pthreadCreate num = 0
  seen : num < progress.seen → child.any (·.arrived) = true
  entered : child.any (·.entered) = true → progress.opened = true
  joined : num < progress.joined → returned = true
  returned : returned = true ↔ child = some .exited
  localId : progress.freed = false → num < progress.numbered → cells .localId = num + 1
  waiting : progress.freed = false → num < progress.cleared →
    cells .waiting = (child.any (·.arrived)).toNat
  iret : progress.freed = false → num < progress.recorded → cells .iret = env.pthreadCreate num
  printing : ∀ tid localId, child = some (.print tid localId) → localId = num + 1

section MainSteps

variable {env : Environment} {progress : Progress} {ith num : Nat} {cells after : Field → Int}
  {returned : Bool} {child : Option ChildPoint}

/-- The store of `local_id`. -/
theorem Account.number (account : Account env progress num cells returned child)
    (current : progress.numbered = ith)
    (stored : ∀ field, after field = if num = ith ∧ field = .localId then (ith : Int) + 1
      else cells field) :
    Account env { progress with numbered := ith + 1 } num after returned child where
  __ := account
  localId kept more := by
    rw [stored]
    split
    · omega
    · rename_i other
      simp only [and_true] at other
      apply account.localId kept
      rw [current]
      exact Nat.lt_of_le_of_ne (Nat.le_of_lt_succ more) other
  waiting kept more := by
    rw [stored, if_neg (by simp)]
    exact account.waiting kept more
  iret kept more := by
    rw [stored, if_neg (by simp)]
    exact account.iret kept more

/-- The flag of a thread is cleared before the thread is created. -/
theorem Account.clear (account : Account env progress num cells returned child)
    (current : progress.cleared = ith) (unborn : num = ith → child = none)
    (stored : ∀ field, after field = if num = ith ∧ field = .waiting then 0 else cells field) :
    Account env { progress with cleared := ith + 1 } num after returned child where
  __ := account
  localId kept more := by
    rw [stored, if_neg (by simp)]
    exact account.localId kept more
  waiting kept more := by
    rw [stored]
    split
    · rename_i own
      rw [unborn own.1]
      rfl
    · rename_i other
      simp only [and_true] at other
      apply account.waiting kept
      rw [current]
      exact Nat.lt_of_le_of_ne (Nat.le_of_lt_succ more) other
  iret kept more := by
    rw [stored, if_neg (by simp)]
    exact account.iret kept more

/-- A thread that is about to be created does not exist. -/
theorem Account.unborn (account : Account env progress ith cells returned child)
    (current : progress.created = ith) : child = none := by
  rw [← Option.not_isSome_iff_eq_none, account.born, current]
  exact fun created => Nat.lt_irrefl ith created.1

/-- The call of `pthread_create`. -/
theorem Account.create (account : Account env progress num cells returned child)
    (current : progress.created = ith) :
    Account env { progress with created := ith + 1 } num cells returned
      (if num = ith ∧ env.pthreadCreate ith = 0 then some .storeWaiting else child) := by
  by_cases own : num = ith ∧ env.pthreadCreate ith = 0
  · obtain ⟨rfl, success⟩ := own
    cases account.unborn current
    rw [if_pos ⟨rfl, success⟩]
    refine { account with born := ?_, seen := ?_, entered := ?_, returned := ?_, printing := ?_ }
    · simp [success]
    · exact fun more => absurd (account.seen more) (by simp)
    · exact fun entered => absurd entered (by simp [ChildPoint.entered])
    · simpa using account.returned
    · simp
  · rw [if_neg own]
    refine { account with born := ?_ }
    have others : num < ith + 1 ∧ env.pthreadCreate num = 0 ↔
        num < ith ∧ env.pthreadCreate num = 0 := by
      constructor
      · rintro ⟨more, success⟩
        refine ⟨Nat.lt_of_le_of_ne (Nat.le_of_lt_succ more) ?_, success⟩
        rintro rfl
        exact own ⟨rfl, success⟩
      · exact fun ⟨more, success⟩ => ⟨Nat.lt_succ_of_lt more, success⟩
    rw [account.born, current]
    exact others.symm

/-- The result of `pthread_create` is stored. -/
theorem Account.record (account : Account env progress num cells returned child)
    (current : progress.recorded = ith)
    (stored : ∀ field, after field = if num = ith ∧ field = .iret then env.pthreadCreate ith
      else cells field) :
    Account env { progress with recorded := ith + 1 } num after returned child where
  __ := account
  localId kept more := by
    rw [stored, if_neg (by simp)]
    exact account.localId kept more
  waiting kept more := by
    rw [stored, if_neg (by simp)]
    exact account.waiting kept more
  iret kept more := by
    rw [stored]
    split
    · rename_i own
      rw [own.1]
    · rename_i other
      simp only [and_true] at other
      apply account.iret kept
      rw [current]
      exact Nat.lt_of_le_of_ne (Nat.le_of_lt_succ more) other

/-- A result of `pthread_create` is found to be 0. -/
theorem Account.check (account : Account env progress num cells returned child)
    (current : progress.checked = ith) (found : env.pthreadCreate ith = 0) :
    Account env { progress with checked := ith + 1 } num cells returned child where
  __ := account
  checked more := by
    rcases Nat.lt_succ_iff_lt_or_eq.mp more with before | rfl
    · exact account.checked (current ▸ before)
    · exact found

/-- A thread that could not be created is found. -/
theorem Account.fail (account : Account env progress num cells returned child) :
    Account env { progress with checked := 0 } num cells returned child :=
  { account with checked := fun impossible => absurd impossible (Nat.not_lt_zero num) }

/-- A flag is found to be set. -/
theorem Account.see (account : Account env progress num cells returned child)
    (current : progress.seen = ith) (found : num = ith → child.any (·.arrived) = true) :
    Account env { progress with seen := ith + 1 } num cells returned child where
  __ := account
  seen more := by
    rcases Nat.lt_succ_iff_lt_or_eq.mp more with before | same
    · exact account.seen (current ▸ before)
    · exact found same

/-- The run function goes back to `retry`. -/
theorem Account.retry (account : Account env progress num cells returned child) :
    Account env { progress with seen := 0 } num cells returned child :=
  { account with seen := fun impossible => absurd impossible (Nat.not_lt_zero num) }

/-- The barrier is opened. -/
theorem Account.open (account : Account env progress num cells returned child) :
    Account env { progress with opened := true } num cells returned child :=
  { account with entered := fun _ => rfl }

/-- A thread is joined. -/
theorem Account.join (account : Account env progress num cells returned child)
    (current : progress.joined = ith) (found : num = ith → returned = true) :
    Account env { progress with joined := ith + 1 } num cells returned child where
  __ := account
  joined more := by
    rcases Nat.lt_succ_iff_lt_or_eq.mp more with before | same
    · exact account.joined (current ▸ before)
    · exact found same

/-- The array is freed. -/
theorem Account.free (account : Account env progress num cells returned child) :
    Account env { progress with freed := true } num cells returned child where
  __ := account
  localId kept := by cases kept
  waiting kept := by cases kept
  iret kept := by cases kept

/-- Before the first thread nothing is said about the array. -/
theorem Account.reset (account : Account env {} num cells returned child) :
    Account env {} num after returned child where
  __ := account
  localId _ more := absurd more (Nat.not_lt_zero num)
  waiting _ more := absurd more (Nat.not_lt_zero num)
  iret _ more := absurd more (Nat.not_lt_zero num)

end MainSteps

section ChildSteps

variable {env : Environment} {progress : Progress} {num : Nat} {cells after : Field → Int}
  {returned : Bool} {point next : ChildPoint}

/-- A step of a thread that neither sets its flag nor returns. -/
theorem Account.move (account : Account env progress num cells returned (some point))
    (running : point ≠ .exited) (continues : next ≠ .exited)
    (arrived : next.arrived = point.arrived)
    (entered : next.entered = true → progress.opened = true)
    (printing : ∀ tid localId, next = .print tid localId → localId = num + 1) :
    Account env progress num cells returned (some next) where
  born := account.born
  checked := account.checked
  seen more := by
    rw [Option.any_some, arrived]
    exact account.seen more
  entered := entered
  joined := account.joined
  returned := by
    rw [account.returned]
    simp [running, continues]
  localId := account.localId
  waiting kept more := by
    rw [Option.any_some, arrived]
    exact account.waiting kept more
  iret := account.iret
  printing tid localId printed := printing tid localId (Option.some.inj printed)

/-- A thread sets its flag. -/
theorem Account.arrive (account : Account env progress num cells returned (some .storeWaiting))
    (stored : progress.freed = false →
      ∀ field, after field = if field = .waiting then 1 else cells field) :
    Account env progress num after returned (some .loadBarrier) where
  born := account.born
  checked := account.checked
  seen _ := rfl
  entered impossible := absurd impossible (by simp [ChildPoint.entered])
  joined := account.joined
  returned := by simpa using account.returned
  localId kept more := by
    rw [stored kept, if_neg (by simp)]
    exact account.localId kept more
  waiting kept _ := by
    rw [stored kept, if_pos rfl]
    rfl
  iret kept more := by
    rw [stored kept, if_neg (by simp)]
    exact account.iret kept more
  printing := by simp

/-- A thread returns. -/
theorem Account.exit (account : Account env progress num cells returned (some .threadReturn)) :
    Account env progress num cells true (some .exited) where
  born := account.born
  checked := account.checked
  seen _ := rfl
  entered _ := account.entered rfl
  joined _ := rfl
  returned := by simp
  localId := account.localId
  waiting := account.waiting
  iret := account.iret
  printing := by simp

end ChildSteps

/-- The world agrees with how far the run function is, and so does every thread. -/
structure Accounts (env : Environment) (args : Args) (world : World) (main : MainPoint)
    (children : Nat → Option ChildPoint) : Prop where
  fits : main.Fits env args
  barrier : world.barrier = (main.progress args.count).opened.toNat
  freed : world.freed = (main.progress args.count).freed
  account : ∀ num, Account env (main.progress args.count) num (world.cells num) (world.returned num)
    (children num)

section Steps

variable {env : Environment} {args : Args} {count : Nat} {world after : World} {main : MainPoint}
  {children : Nat → Option ChildPoint}

/-- A store to the array while it is there. -/
theorem World.store_cells (kept : world.freed = false) (ith : Nat) (field : Field) (value : Int)
    (num : Nat) (other : Field) :
    (world.store ith field value).cells num other =
      if num = ith ∧ other = field then value else world.cells num other := by
  rw [World.store, if_neg (by simp [kept])]
  by_cases same : num = ith
  · subst same
    simp [Function.update_apply]
  · simp [same]

/-- A store changes the array only. -/
theorem World.store_eq (ith : Nat) (field : Field) (value : Int) :
    world.store ith field value =
      { world with cells := (world.store ith field value).cells } := by
  unfold World.store
  split <;> rfl

/-- A step of the run function that changes no shared variable but the array. -/
theorem Accounts.advance {next : MainPoint} {progress : Progress}
    (accounts : Accounts env args world main children) (fits : next.Fits env args)
    (isProgress : next.progress args.count = progress)
    (unchanged : after = { world with cells := after.cells })
    (opened : progress.opened = (main.progress args.count).opened)
    (freed : progress.freed = (main.progress args.count).freed)
    (account : ∀ num, Account env (main.progress args.count) num (world.cells num)
      (world.returned num) (children num) →
        Account env progress num (after.cells num) (world.returned num) (children num)) :
    Accounts env args after next children where
  fits := fits
  barrier := by
    rw [isProgress, opened, ← accounts.barrier, unchanged]
  freed := by
    rw [isProgress, freed, ← accounts.freed, unchanged]
  account num := by
    have same : after.returned = world.returned := by rw [unchanged]
    rw [isProgress, same]
    exact account num (accounts.account num)

/-- A step of the run function that changes nothing. -/
theorem Accounts.stay {next : MainPoint} (accounts : Accounts env args world main children)
    (fits : next.Fits env args) (isProgress : next.progress args.count = main.progress args.count) :
    Accounts env args world next children :=
  accounts.advance fits isProgress rfl rfl rfl fun _ account => account

/-- A load from the array while it is there. -/
theorem Accounts.load {thread : Thread} {ith : Nat} {field : Field} {value : Int}
    (accounts : Accounts env args world main children)
    (kept : (main.progress args.count).freed = false)
    (performed : perform env world thread (.load ith field) value = some after) :
    value = world.cells ith field ∧ world = after := by
  obtain ⟨loaded, isAfter⟩ := Option.ite_none_right_eq_some.mp performed
  exact ⟨loaded.resolve_left (by simp [accounts.freed, kept]), Option.some.inj isAfter⟩

/-- A step of the run function, if it does not create a thread. -/
theorem Accounts.main_step {op : Op} {next : Res op → MainPoint} {result : Res op}
    (accounts : Accounts env args world main children)
    (isNode : mainNode args main = .call op next) (single : ∀ ith, op ≠ .pthreadCreate ith)
    (performed : perform env world .main op result = some after) :
    Accounts env args after (next result) children := by
  have fits := accounts.fits
  cases main with
  | calloc =>
      cases isNode
      obtain ⟨-, ⟨⟩⟩ := Option.ite_none_right_eq_some.mp performed
      cases result with
      | true => exact accounts.advance trivial rfl rfl rfl rfl fun _ account => account.reset
      | false => exact accounts.advance trivial rfl rfl rfl rfl fun _ account => account.reset
  | getrlimit =>
      cases isNode
      obtain ⟨-, ⟨⟩⟩ := Option.ite_none_right_eq_some.mp performed
      beta_reduce
      split
      · exact accounts.stay trivial rfl
      · exact accounts.stay trivial rfl
  | setrlimit =>
      cases isNode
      obtain ⟨-, ⟨⟩⟩ := Option.ite_none_right_eq_some.mp performed
      beta_reduce
      split
      · exact accounts.stay (createFrom_fits env args) (createFrom_progress (Nat.zero_le _))
      · exact accounts.stay trivial rfl
  | storeLocalId ith =>
      cases isNode
      cases performed
      exact accounts.advance fits rfl (world.store_eq _ _ _) rfl rfl fun num account =>
        account.number rfl (world.store_cells accounts.freed ith .localId (ith + 1) num)
  | storeWaiting ith =>
      cases isNode
      cases performed
      refine accounts.advance fits rfl (world.store_eq _ _ _) rfl rfl fun num account =>
        account.clear rfl ?_ (world.store_cells accounts.freed ith .waiting 0 num)
      rintro rfl
      exact account.unborn rfl
  | create ith =>
      cases isNode
      exact absurd rfl (single ith)
  | storeIret ith iret =>
      cases isNode
      cases performed
      obtain ⟨inside, rfl⟩ := fits
      exact accounts.advance (createFrom_fits env args) (createFrom_progress inside)
        (world.store_eq _ _ _) rfl rfl fun num account =>
          account.record rfl (world.store_cells accounts.freed ith .iret _ num)
  | loadIret ith =>
      cases isNode
      obtain ⟨isResult, rfl⟩ := accounts.load rfl performed
      rw [(accounts.account ith).iret rfl fits] at isResult
      subst isResult
      beta_reduce
      split
      · rename_i failed
        exact accounts.advance ⟨fits, failed⟩ rfl rfl rfl rfl fun _ account => account.fail
      · rename_i success
        exact accounts.advance (checkFrom_fits env args) (checkFrom_progress fits) rfl rfl rfl
          fun _ account => account.check rfl (not_not.mp success)
  | reloadIret ith =>
      cases isNode
      obtain ⟨-, rfl⟩ := accounts.load rfl performed
      exact accounts.stay fits rfl
  | printFailure ith iret =>
      cases isNode
      cases performed
      exact accounts.stay trivial rfl
  | freeFailed =>
      cases isNode
      cases performed
      exact ⟨trivial, accounts.barrier, rfl, fun num => (accounts.account num).free⟩
  | loadWaiting ith =>
      cases isNode
      obtain ⟨isResult, rfl⟩ := accounts.load rfl performed
      rw [(accounts.account ith).waiting rfl fits] at isResult
      beta_reduce
      split
      · exact accounts.advance (waitFrom_fits env args) (waitFrom_progress (Nat.zero_le _)) rfl rfl
          rfl fun _ account => account.retry
      · rename_i set
        refine accounts.advance (waitFrom_fits env args) (waitFrom_progress fits) rfl rfl rfl
          fun num account => account.see rfl ?_
        rintro rfl
        by_contra unset
        simp [isResult, unset] at set
  | openBarrier =>
      cases isNode
      cases performed
      have isProgress := joinFrom_progress (Nat.zero_le args.count)
      refine ⟨joinFrom_fits env args, ?_, ?_, ?_⟩
      · rw [isProgress]
        rfl
      · rw [isProgress]
        exact accounts.freed
      · rw [isProgress]
        exact fun num => (accounts.account num).open
  | join ith =>
      cases isNode
      obtain ⟨returned, ⟨⟩⟩ := Option.ite_none_right_eq_some.mp performed
      refine accounts.advance (joinFrom_fits env args) (joinFrom_progress fits) rfl rfl rfl
        fun num account => account.join rfl ?_
      rintro rfl
      exact returned
  | free =>
      cases isNode
      cases performed
      exact ⟨trivial, accounts.barrier, rfl, fun num => (accounts.account num).free⟩
  | returned failure => cases isNode

/-- The call of `pthread_create`. -/
theorem Accounts.create {ith : Nat} {next : Int → MainPoint} {iret : Int}
    (accounts : Accounts env args world main children)
    (isNode : mainNode args main = .call (.pthreadCreate ith) next)
    (performed : perform env world .main (.pthreadCreate ith) iret = some after) :
    children ith = none ∧ Accounts env args after (next iret)
      (fun num => if num = ith ∧ iret = 0 then some .storeWaiting else children num) := by
  cases main with
  | create other =>
      cases isNode
      obtain ⟨rfl, ⟨⟩⟩ := Option.ite_none_right_eq_some.mp performed
      refine ⟨(accounts.account ith).unborn rfl, ⟨accounts.fits, rfl⟩, accounts.barrier,
        accounts.freed, ?_⟩
      exact fun num => (accounts.account num).create rfl
  | _ => cases isNode

/-- A step of one thread concerns its own account only. -/
theorem Accounts.child {num : Nat} {next : ChildPoint}
    (accounts : Accounts env args world main children) (barrier : after.barrier = world.barrier)
    (freed : after.freed = world.freed)
    (own : Account env (main.progress args.count) num (after.cells num)
      (after.returned num) (some next))
    (others : ∀ other, other ≠ num →
      after.cells other = world.cells other ∧ after.returned other = world.returned other) :
    Accounts env args after main (Function.update children num (some next)) where
  fits := accounts.fits
  barrier := barrier.trans accounts.barrier
  freed := freed.trans accounts.freed
  account other := by
    by_cases same : other = num
    · subst same
      rw [Function.update_self]
      exact own
    · rw [Function.update_of_ne same, (others other same).1, (others other same).2]
      exact accounts.account other

/-- A step of a thread that changes nothing but its point. -/
theorem Accounts.child_move {num : Nat} {point next : ChildPoint}
    (accounts : Accounts env args world main children) (current : children num = some point)
    (running : point ≠ .exited) (continues : next ≠ .exited)
    (arrived : next.arrived = point.arrived)
    (entered : next.entered = true → (main.progress args.count).opened = true)
    (printing : ∀ tid localId, next = .print tid localId → localId = num + 1) :
    Accounts env args world main (Function.update children num (some next)) := by
  have account := accounts.account num
  rw [current] at account
  exact accounts.child rfl rfl (account.move running continues arrived entered printing)
    fun _ _ => ⟨rfl, rfl⟩

/-- The array is freed with the barrier open only after all threads have been joined. -/
theorem MainPoint.joined_of_freed (opened : (main.progress count).opened = true)
    (freed : (main.progress count).freed = true) :
    (main.progress count).joined = (main.progress count).created := by
  cases main with
  | returned failure =>
      cases failure with
      | none => rfl
      | some failure =>
          cases failure with
          | pthreadCreate => cases opened
          | _ => cases freed
  | _ => cases freed

theorem MainPoint.created_le_numbered (main : MainPoint) (count : Nat) :
    (main.progress count).created ≤ (main.progress count).numbered := by
  cases main with
  | storeWaiting ith => exact Nat.le_succ ith
  | create ith => exact Nat.le_succ ith
  | returned failure =>
      cases failure with
      | none => exact Nat.le_refl _
      | some failure => cases failure <;> exact Nat.le_refl _
  | _ => exact Nat.le_refl _

/-- A thread that has passed the barrier and not returned finds the array in place. -/
theorem Accounts.kept {num : Nat} {point : ChildPoint}
    (accounts : Accounts env args world main children) (current : children num = some point)
    (entered : point.entered = true) (running : point ≠ .exited) :
    (main.progress args.count).freed = false := by
  have account := accounts.account num
  rw [current] at account
  by_contra freed
  have joined := MainPoint.joined_of_freed (account.entered entered) (eq_true_of_ne_false freed)
  have returned := account.joined (joined ▸ (account.born.mp rfl).1)
  exact running (Option.some.inj (account.returned.mp returned))

/-- A step of a thread. -/
theorem Accounts.child_step {num : Nat} {point : ChildPoint} {op : Op} {next : Res op → ChildPoint}
    {result : Res op} (accounts : Accounts env args world main children)
    (current : children num = some point) (isNode : childFunc num point = .call op next)
    (performed : perform env world (.child num) op result = some after) :
    Accounts env args after main (Function.update children num (some (next result))) := by
  have account := accounts.account num
  rw [current] at account
  have entered := account.entered
  cases point with
  | storeWaiting =>
      cases isNode
      cases performed
      have same := world.store_eq num .waiting 1
      refine accounts.child (by rw [same]) (by rw [same]) ?_ ?_
      · rw [same]
        refine account.arrive fun kept field => ?_
        simp [World.store_cells (accounts.freed.trans kept)]
      · intro other different
        refine ⟨?_, by rw [same]⟩
        unfold World.store
        split
        · rfl
        · exact Function.update_of_ne different _ _
  | loadBarrier =>
      cases isNode
      obtain ⟨isResult, ⟨⟩⟩ := Option.ite_none_right_eq_some.mp performed
      beta_reduce
      split
      · exact accounts.child_move current (by simp) (by simp) rfl (by simp [ChildPoint.entered])
          (by simp)
      · rename_i nonzero
        refine accounts.child_move current (by simp) (by simp) rfl (fun _ => ?_) (by simp)
        by_contra closed
        exact nonzero (by simp [isResult, accounts.barrier, closed])
  | pause =>
      cases isNode
      cases performed
      exact accounts.child_move current (by simp) (by simp) rfl (by simp [ChildPoint.entered])
        (by simp)
  | gettid =>
      cases isNode
      cases performed
      exact accounts.child_move current (by simp) (by simp) rfl entered (by simp)
  | loadLocalId tid =>
      cases isNode
      have kept := accounts.kept current rfl (by simp)
      obtain ⟨isResult, rfl⟩ := accounts.load kept performed
      refine accounts.child_move current (by simp) (by simp) rfl entered ?_
      rintro _ _ ⟨⟩
      have created := (account.born.mp rfl).1
      exact isResult ▸ account.localId kept
        (Nat.lt_of_lt_of_le created (main.created_le_numbered args.count))
  | print tid localId =>
      cases isNode
      cases performed
      exact accounts.child_move current (by simp) (by simp) rfl entered (by simp)
  | threadReturn =>
      cases isNode
      cases performed
      refine accounts.child rfl rfl ?_ ?_
      · change Account env _ num _ (Function.update world.returned num true num) _
        rw [Function.update_self]
        exact account.exit
      · exact fun other different => ⟨rfl, Function.update_of_ne different _ _⟩
  | exited => cases isNode

end Steps

end McKernelTest.CpuThreadLimits.Barrier
