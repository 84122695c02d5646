import McKernelTest.Ptrace.Core
import McKernelTest.Process.Trace

/-!
# The verdict of the ptrace test cases

The run function waits for the child and looks at `WEXITSTATUS` of the status word.  That
byte is the exit status of a child that has exited, and the signal of one that is
stopped.  For a child that was killed by a signal it is 0, as for a successful exit.
-/

namespace McKernelTest.Ptrace

open Posix Process Transition

/-- `WIFEXITED`. -/
def wifexited (status : CInt) : Bool :=
  status &&& 0x7f = 0

/-- What a status word says of a child. -/
inductive Report where
  | exited (code : BitVec 8)
  | signalled (signal : BitVec 7) (dumped : Bool)
  | stopped (signal : BitVec 8)
  deriving DecidableEq, Repr

/-- The signal numbers that the status word can carry: a child is not killed by the signal
0, and 127 marks a stopped child; a child is not stopped by the signal 0. -/
def Report.Valid : Report → Prop
  | .exited _ => True
  | .signalled signal _ => signal ≠ 0 ∧ signal ≠ 127
  | .stopped signal => signal ≠ 0

/-- The status word. -/
def Report.encode : Report → CInt
  | .exited code => code.zeroExtend 32 <<< 8
  | .signalled signal dumped => signal.zeroExtend 32 ||| if dumped then 0x80 else 0
  | .stopped signal => signal.zeroExtend 32 <<< 8 ||| 0x7f

theorem encode_exited : ∀ code : BitVec 8, wifexited (Report.exited code).encode = true := by
  decide +kernel

theorem encode_signalled : ∀ (signal : BitVec 7) (dumped : Bool), signal ≠ 0 →
    wexitstatus (Report.signalled signal dumped).encode = 0 ∧
      wifexited (Report.signalled signal dumped).encode = false := by
  decide +kernel

theorem encode_stopped : ∀ signal : BitVec 8, signal ≠ 0 →
    wexitstatus (Report.stopped signal).encode ≠ 0 := by
  decide +kernel

/-- A word that is not the word of an exit and yet has nothing in `WEXITSTATUS` is the
word of a child that was killed by a signal. -/
theorem Report.encode_silent_iff (report : Report) (valid : report.Valid) :
    wifexited report.encode = false ∧ wexitstatus report.encode = 0 ↔
      ∃ signal dumped, report = .signalled signal dumped := by
  cases report with
  | exited code => simp [encode_exited]
  | signalled signal dumped =>
      rcases encode_signalled signal dumped valid.1 with ⟨silent, notExited⟩
      simp [silent, notExited]
  | stopped signal =>
      have shown := encode_stopped signal valid
      constructor
      · rintro ⟨-, silent⟩
        exact absurd silent shown
      · rintro ⟨_, _, other⟩
        cases other

/-! ## The run function -/

/-- The start of the run function with the given functions for the two processes. -/
def startWith (childFunc : Sem → Sem → Program Int)
    (parentFunc : Sem → Sem → Int → Program Int) : PtraceConfig where
  world := fun _ => 0
  code := family (runFunc childFunc parentFunc) none

/-- The calls are those of a parent that gets to the last `wait`: four calls and the
`fork`, the calls of `parent_func`, the two `munmap` and the `wait`. -/
def Finishes (parentFunc : Sem → Sem → Int → Program Int) (calls : List (Call Op Res))
    (funcRet : Int) (waited : WaitResult) : Prop :=
  ∃ (opening funcCalls : List (Call Op Res)) (pid : Int) (cwaitRet pwaitRet : CInt),
    opening.length = 4 ∧ (parentFunc .pwait .cwait pid).Performs funcCalls funcRet ∧
      calls = opening ++ ⟨.fork, pid⟩ :: (funcCalls ++
        [⟨.munmap .cwait, cwaitRet⟩, ⟨.munmap .pwait, pwaitRet⟩, ⟨.wait, waited⟩])

theorem parent_never_started : system.NeverStarts .parent := by
  intro role op result next code started
  cases op with
  | fork =>
      rcases Option.ite_none_right_eq_some.mp started with ⟨-, same⟩
      cases same
  | _ => cases started

/-- The child does not return from the run function. -/
theorem childBranch_exits {childFunc : Sem → Sem → Program Int} {ret : CInt}
    {calls : List (Call Op Res)} {ending : Ending}
    (performs : (childBranch childFunc ret).Performs calls ending) :
    ∃ status, ending = .exited status := by
  simp only [childBranch, Code.performs_bind, Code.perform_bind, Code.performs_call] at performs
  rcases performs with ⟨_, _, funcRet, -, -, _, _, -, _, _, -, performs⟩
  split at performs
  · rcases performs with ⟨_, _, -, -, rfl⟩
    exact ⟨-1, rfl⟩
  · exact ⟨funcRet, performs.2.symm⟩

/-- What the parent returns after the last `wait`. -/
theorem parentBranch_verdict {parentFunc : Sem → Sem → Int → Program Int} {ret : CInt} {pid : Int}
    {funcCalls : List (Call Op Res)} {funcRet : Int} {cwaitRet pwaitRet : CInt}
    {waited : WaitResult} {message : Option String}
    (first : (parentFunc .pwait .cwait pid).Performs funcCalls funcRet)
    (performs : (parentBranch parentFunc ret pid).Performs
      (funcCalls ++ [⟨.munmap .cwait, cwaitRet⟩, ⟨.munmap .pwait, pwaitRet⟩, ⟨.wait, waited⟩])
      (.returned message)) :
    message = none ↔ wexitstatus waited.status = 0 ∧ funcRet = 0 := by
  rw [parentBranch, Code.performs_bind] at performs
  rcases performs with ⟨calls, rest, result, split, also, performs⟩
  rcases first.eq_of_append also split with ⟨rfl, rfl⟩
  cases List.append_cancel_left split
  simp only [Code.perform_bind, Code.performs_call_cons] at performs
  split at performs
  · rcases performs with ⟨_, _, same, -⟩
    cases same
  · rw [Code.performs_call_cons] at performs
    by_cases gone : waited.pid = -1
    · simp [gone] at performs
    · by_cases silent : wexitstatus waited.status = 0 <;> by_cases passed : funcRet = 0 <;>
        simp only [gone, silent, passed, ne_eq, not_false_eq_true, not_true_eq_false,
          if_true, if_false, Code.pure_eq, Code.performs_ret, Ending.returned.injEq,
          true_and] at performs <;>
        simp only [← performs, silent, passed, reduceCtorEq, and_self, and_false, false_and]

/-- A parent that returns after the last `wait` has run `parentBranch`. -/
theorem parentBranch_of_finishes {childFunc : Sem → Sem → Program Int}
    {parentFunc : Sem → Sem → Int → Program Int} {opening rest : List (Call Op Res)} {pid : Int}
    {message : Option String} (four : opening.length = 4) (long : 3 ≤ rest.length)
    (performs : (runFunc childFunc parentFunc).Performs (opening ++ ⟨.fork, pid⟩ :: rest)
      (.returned message)) :
    ∃ ret, (parentBranch parentFunc ret pid).Performs rest (.returned message) := by
  match opening, four with
  | [first, second, third, fourth], _ =>
      simp only [runFunc, Code.perform_bind, Code.performs_call, List.cons_append, List.nil_append,
        List.cons.injEq] at performs
      rcases performs with ⟨_, _, ⟨rfl, rfl⟩, _, _, ⟨rfl, rfl⟩, performs⟩
      split at performs
      · rcases performs with ⟨_, _, same, empty, -⟩
        simp [empty] at same
      · simp only [Code.performs_call, List.cons.injEq] at performs
        rcases performs with ⟨pwaitRet, _, ⟨rfl, rfl⟩, cwaitRet, _, ⟨rfl, rfl⟩, performs⟩
        split at performs
        · rcases performs with ⟨_, _, same, -⟩
          cases same
        · rw [Code.performs_call_cons] at performs
          split at performs
          · rcases performs with ⟨_, _, rfl, rfl, -⟩
            simp at long
          · split at performs
            · rcases childBranch_exits performs with ⟨_, same⟩
              cases same
            · exact ⟨_, performs⟩

/-- The run function reports success only for a child that has exited with 0, and only if
`parent_func` has returned 0, unless the child was killed by a signal: that is, unless
the word is not that of an exit and `WEXITSTATUS` is 0 all the same. -/
theorem verdict_sound_iff (childFunc : Sem → Sem → Program Int)
    (parentFunc : Sem → Sem → Int → Program Int) (trace : List PtraceEvent) (config : PtraceConfig)
    (message : Option String) (funcRet : Int) (waited : WaitResult)
    (run : Run system.step (startWith childFunc parentFunc) trace config)
    (returned : config.code .parent = some (.ret (.returned message)))
    (finishes : Finishes parentFunc (callsOf .parent trace) funcRet waited) :
    (message = none →
      funcRet = 0 ∧ wifexited waited.status = true ∧ wexitstatus waited.status = 0) ↔
      funcRet ≠ 0 ∨ ¬(wifexited waited.status = false ∧ wexitstatus waited.status = 0) := by
  have performs := performs_of_run parent_never_started run rfl returned
  rcases finishes with ⟨opening, funcCalls, pid, cwaitRet, pwaitRet, four, first, split⟩
  rw [split] at performs
  rcases parentBranch_of_finishes four (by simp) performs with ⟨ret, branch⟩
  rw [parentBranch_verdict first branch]
  cases exited : wifexited waited.status <;> simp <;> tauto

/-- The opening of `ptrace#1` and the calls of both functions up to `PTRACE_CONT`, with a
child 5. -/
def tracedUntilCont : List PtraceEvent :=
  [.call .parent (.mmap .pwait) (4096 : Nat), .call .parent (.mmap .cwait) (8192 : Nat),
    .call .parent (.semInit .pwait) (0 : CInt), .call .parent (.semInit .cwait) (0 : CInt),
    .call .parent .fork (5 : Int), .call .child (.ptrace .traceme 0 0 0) ⟨0, 0, ⟨0, 0, 0, 0⟩⟩,
    .call .child (.semPost .pwait) (), .call .parent (.semWait .pwait) (),
    .call .parent (.kill 5 sigstop) (0 : CInt), .call .parent (.semPost .cwait) (),
    .call .parent .wait ⟨5, 0x137f⟩, .call .parent (.printf "child is stopped.\n" []) (),
    .call .parent (.ptrace .cont 5 0 0) ⟨0, 0, ⟨0, 0, 0, 0⟩⟩]

/-- The parent's last calls, with the given status word. -/
def lastCalls (status : CInt) : List PtraceEvent :=
  [.call .parent (.munmap .cwait) (0 : CInt), .call .parent (.munmap .pwait) (0 : CInt),
    .call .parent .wait ⟨5, status⟩]

/-- The calls of the parent in these runs are complete. -/
theorem finishes_lastCalls (status : CInt) :
    Finishes parentFunc1 (callsOf .parent (tracedUntilCont ++ lastCalls status)) 0 ⟨5, status⟩ :=
  ⟨[⟨.mmap .pwait, (4096 : Nat)⟩, ⟨.mmap .cwait, (8192 : Nat)⟩, ⟨.semInit .pwait, (0 : CInt)⟩,
      ⟨.semInit .cwait, (0 : CInt)⟩],
    [⟨.semWait .pwait, ()⟩, ⟨.kill 5 sigstop, (0 : CInt)⟩, ⟨.semPost .cwait, ()⟩,
      ⟨.wait, ⟨5, 0x137f⟩⟩, ⟨.printf "child is stopped.\n" [], ()⟩,
      ⟨.ptrace .cont 5 0 0, ⟨0, 0, ⟨0, 0, 0, 0⟩⟩⟩],
    5, 0, 0, rfl, Code.performs_of_replay rfl, rfl⟩

theorem verdict_sound_iff_exited : ∃ config,
    Run system.step (startWith childFunc1 parentFunc1) (tracedUntilCont ++ lastCalls 0) config ∧
      config.code .parent = some (.ret (.returned none)) ∧
      wifexited 0 = true ∧ wexitstatus 0 = 0 := by
  refine ⟨_, GuardedRun.of_execute rfl, rfl, ?_⟩
  have sound := (verdict_sound_iff childFunc1 parentFunc1 _ _ none 0 ⟨5, 0⟩
    (GuardedRun.of_execute rfl) rfl (finishes_lastCalls 0)).mpr (Or.inr (by decide))
  exact (sound rfl).2

/-- A child that `SIGKILL` has killed after `PTRACE_CONT` counts as a success. -/
theorem killed_child_passes : ∃ config,
    Run system.step (startWith childFunc1 parentFunc1)
      (tracedUntilCont ++ lastCalls (Report.signalled 9 false).encode) config ∧
      config.code .parent = some (.ret (.returned none)) ∧
      wifexited (Report.signalled 9 false).encode = false :=
  ⟨_, GuardedRun.of_execute rfl, rfl, by decide⟩

end McKernelTest.Ptrace
