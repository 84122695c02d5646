import McKernelTest.CpuThreadLimits.BarrierInvariant

/-!
# The verdict of `cpu_thread_limits#0`

What the run function returns depends on what the system answers, and on nothing else: at
every point the answer is already decided, and no step changes it, whatever the threads do
in between.
-/

namespace McKernelTest.CpuThreadLimits.Barrier

open Process Transition

section Verdict

variable (env : Environment) (args : Args)

/-- The verdict from the creation of the threads on. -/
def creationVerdict : Option Failure :=
  if ∃ ith < args.count, env.pthreadCreate ith ≠ 0 then some .pthreadCreate else none

/-- The verdict from the call of `setrlimit` on. -/
def setrlimitVerdict : Option Failure :=
  if env.setrlimit = 0 then creationVerdict env args else some .setrlimit

/-- The verdict from the call of `getrlimit` on. -/
def getrlimitVerdict : Option Failure :=
  if Machine.toUlong args.cpuNum ≤ env.rlimMax then setrlimitVerdict env args
  else some .hardLimit

/-- The verdict from the call of `calloc` on. -/
def callocVerdict : Option Failure :=
  if env.calloc then getrlimitVerdict env args else some .calloc

/-- The verdict of the test case. -/
def verdict : Option Failure :=
  if ¬0 < args.threadNum then some .threadNum
  else if ¬0 < args.cpuNum then some .cpuNum
  else callocVerdict env args

/-- What the run function is going to return. -/
def MainPoint.verdict : MainPoint → Option Failure
  | .calloc => callocVerdict env args
  | .getrlimit => getrlimitVerdict env args
  | .setrlimit => setrlimitVerdict env args
  | .storeLocalId _ | .storeWaiting _ | .create _ | .storeIret _ _ | .loadIret _ =>
      creationVerdict env args
  | .reloadIret _ | .printFailure _ _ | .freeFailed => some .pthreadCreate
  | .loadWaiting _ | .openBarrier | .join _ | .free => none
  | .returned failure => failure

theorem runFunc_verdict : (runFunc args).verdict env args = verdict env args := by
  unfold runFunc verdict
  by_cases threadNum : 0 < args.threadNum
  · by_cases cpuNum : 0 < args.cpuNum <;> simp [threadNum, cpuNum, MainPoint.verdict]
  · simp [threadNum, MainPoint.verdict]

theorem joinFrom_verdict (ith : Nat) : (joinFrom args.count ith).verdict env args = none := by
  unfold joinFrom
  split <;> rfl

theorem waitFrom_verdict (ith : Nat) : (waitFrom args.count ith).verdict env args = none := by
  unfold waitFrom
  split <;> rfl

variable {env args}

theorem creationVerdict_eq_none_iff :
    creationVerdict env args = none ↔ ∀ ith < args.count, env.pthreadCreate ith = 0 := by
  simp [creationVerdict]

/-- The loop over the results decides as soon as it has seen enough of them. -/
theorem checkFrom_verdict {ith : Nat} (checked : ∀ num < ith, env.pthreadCreate num = 0) :
    (checkFrom args.count ith).verdict env args = creationVerdict env args := by
  unfold checkFrom
  split
  · rfl
  · rename_i last
    rw [waitFrom_verdict, eq_comm, creationVerdict_eq_none_iff]
    exact fun num inside => checked num (by omega)

theorem createFrom_verdict (ith : Nat) :
    (createFrom args.count ith).verdict env args = creationVerdict env args := by
  unfold createFrom
  split
  · rfl
  · exact checkFrom_verdict (by simp)

/-- No step of the run function changes the verdict. -/
theorem Accounts.verdict_step {world after : World} {main : MainPoint}
    {children : Nat → Option ChildPoint} {op : Op} {next : Res op → MainPoint} {result : Res op}
    (accounts : Accounts env args world main children)
    (isNode : mainNode args main = .call op next)
    (performed : perform env world .main op result = some after) :
    (next result).verdict env args = main.verdict env args := by
  have fits := accounts.fits
  cases main with
  | calloc =>
      cases isNode
      obtain ⟨isResult, -⟩ := Option.ite_none_right_eq_some.mp performed
      cases result with
      | true => exact (if_pos isResult.symm).symm
      | false => exact (if_neg (by simp [← isResult])).symm
  | getrlimit =>
      cases isNode
      obtain ⟨rfl, -⟩ := Option.ite_none_right_eq_some.mp performed
      beta_reduce
      split
      · rename_i enough
        exact (if_pos enough).symm
      · rename_i larger
        exact (if_neg larger).symm
  | setrlimit =>
      cases isNode
      obtain ⟨rfl, -⟩ := Option.ite_none_right_eq_some.mp performed
      beta_reduce
      split
      · rename_i success
        exact (createFrom_verdict 0).trans (if_pos success).symm
      · rename_i failed
        exact (if_neg failed).symm
  | storeIret ith iret =>
      cases isNode
      exact createFrom_verdict (ith + 1)
  | loadIret ith =>
      cases isNode
      obtain ⟨isResult, -⟩ := accounts.load rfl performed
      rw [(accounts.account ith).iret rfl fits] at isResult
      beta_reduce
      split
      · rename_i failed
        exact (if_pos ⟨ith, fits, isResult ▸ failed⟩).symm
      · rename_i success
        apply checkFrom_verdict
        intro num before
        rcases Nat.lt_succ_iff_lt_or_eq.mp before with before | rfl
        · exact (accounts.account num).checked before
        · exact isResult ▸ not_not.mp success
  | loadWaiting ith =>
      cases isNode
      beta_reduce
      split
      · exact waitFrom_verdict env args 0
      · exact waitFrom_verdict env args (ith + 1)
  | openBarrier =>
      cases isNode
      exact joinFrom_verdict env args 0
  | join ith =>
      cases isNode
      exact joinFrom_verdict env args (ith + 1)
  | returned failure => cases isNode
  | _ =>
      cases isNode
      rfl

end Verdict

end McKernelTest.CpuThreadLimits.Barrier
