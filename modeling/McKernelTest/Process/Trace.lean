import McKernelTest.Process.Core

/-!
# Traces of sequential code

A call is an operation together with the result it had.  `Code.Performs` says which
lists of calls take code to its end and what it returns then, for all results an
operation can have.  Code in sequence performs its parts in order, so the traces of a
program are found one function at a time.

A process of a system runs its own code whatever the others do: its calls in a run of
the system are a trace of the code it started with.
-/

namespace McKernelTest.Process

open Transition

/-- An operation and its result. -/
structure Call (Op : Type) (Res : Op → Type) where
  op : Op
  result : Res op

namespace Code

variable {Op : Type} {Res : Op → Type} {A B : Type}

/-- The code performs exactly these calls and returns the value. -/
def Performs : Code Op Res A → List (Call Op Res) → A → Prop
  | .ret result, calls, value => calls = [] ∧ result = value
  | .call op next, calls, value =>
      ∃ result rest, calls = ⟨op, result⟩ :: rest ∧ (next result).Performs rest value

@[simp]
theorem performs_ret (result value : A) (calls : List (Call Op Res)) :
    (Code.ret result).Performs calls value ↔ calls = [] ∧ result = value :=
  Iff.rfl

@[simp]
theorem performs_call (op : Op) (next : Res op → Code Op Res A) (calls : List (Call Op Res))
    (value : A) :
    (Code.call op next).Performs calls value ↔
      ∃ result rest, calls = ⟨op, result⟩ :: rest ∧ (next result).Performs rest value :=
  Iff.rfl

/-- The next call of a trace that begins with the operation at hand. -/
theorem performs_call_cons (op : Op) (next : Res op → Code Op Res A) (result : Res op)
    (calls : List (Call Op Res)) (value : A) :
    (Code.call op next).Performs (⟨op, result⟩ :: calls) value ↔
      (next result).Performs calls value := by
  constructor
  · rintro ⟨_, _, same, performs⟩
    cases same
    exact performs
  · intro performs
    exact ⟨result, calls, rfl, performs⟩

/-- Code can be run to its end if every operation has some result. -/
theorem exists_performs (answers : ∀ op, Nonempty (Res op)) (code : Code Op Res A) :
    ∃ calls value, code.Performs calls value := by
  induction code with
  | ret value => exact ⟨[], value, rfl, rfl⟩
  | call op next ih =>
      rcases answers op with ⟨result⟩
      rcases ih result with ⟨calls, value, performs⟩
      exact ⟨⟨op, result⟩ :: calls, value, result, calls, rfl, performs⟩

/-- Code in sequence performs its parts in order. -/
theorem performs_bind (code : Code Op Res A) (rest : A → Code Op Res B)
    (calls : List (Call Op Res)) (value : B) :
    (code >>= rest).Performs calls value ↔
      ∃ first second middle, calls = first ++ second ∧ code.Performs first middle ∧
        (rest middle).Performs second value := by
  induction code generalizing calls with
  | ret result =>
      constructor
      · intro performs
        exact ⟨[], calls, result, rfl, ⟨rfl, rfl⟩, performs⟩
      · rintro ⟨first, second, middle, rfl, ⟨rfl, rfl⟩, performs⟩
        exact performs
  | call op next ih =>
      constructor
      · rintro ⟨result, others, rfl, performs⟩
        rcases (ih result others).mp performs with ⟨first, second, middle, rfl, before, after⟩
        exact ⟨⟨op, result⟩ :: first, second, middle, rfl, ⟨result, first, rfl, before⟩, after⟩
      · rintro ⟨first, second, middle, rfl, ⟨result, others, rfl, before⟩, after⟩
        exact ⟨result, others ++ second, rfl,
          (ih result _).mpr ⟨others, second, middle, rfl, before, after⟩⟩

/-- The code performs allowed operations only. -/
def Uses (allowed : Op → Prop) : Code Op Res A → Prop
  | .ret _ => True
  | .call op next => allowed op ∧ ∀ result, (next result).Uses allowed

theorem Uses.bind {allowed : Op → Prop} {code : Code Op Res A} {rest : A → Code Op Res B}
    (first : code.Uses allowed) (second : ∀ value, (rest value).Uses allowed) :
    (code >>= rest).Uses allowed := by
  induction code with
  | ret value => exact second value
  | call op next ih => exact ⟨first.1, fun result => ih result (first.2 result)⟩

/-- Only allowed operations are in the traces. -/
theorem Uses.of_performs {allowed : Op → Prop} {code : Code Op Res A} {calls : List (Call Op Res)}
    {value : A} (uses : code.Uses allowed) (performs : code.Performs calls value) :
    ∀ call ∈ calls, allowed call.op := by
  induction code generalizing calls with
  | ret result =>
      rcases performs with ⟨rfl, -⟩
      exact fun call member => absurd member List.not_mem_nil
  | call op next ih =>
      rcases performs with ⟨result, rest, rfl, performs⟩
      intro call member
      rcases List.mem_cons.mp member with rfl | later
      · exact uses.1
      · exact ih result (uses.2 result) performs call later

/-- No trace of code is the beginning of another one. -/
theorem Performs.eq_of_append {code : Code Op Res A}
    {first second firstRest secondRest : List (Call Op Res)} {value other : A}
    (performs : code.Performs first value) (also : code.Performs second other)
    (same : first ++ firstRest = second ++ secondRest) : first = second ∧ value = other := by
  induction code generalizing first second with
  | ret result =>
      rcases performs with ⟨rfl, rfl⟩
      rcases also with ⟨rfl, rfl⟩
      exact ⟨rfl, rfl⟩
  | call op next ih =>
      rcases performs with ⟨result, calls, rfl, performs⟩
      rcases also with ⟨otherResult, otherCalls, rfl, also⟩
      simp only [List.cons_append, List.cons.injEq, Call.mk.injEq, heq_eq_eq, true_and] at same
      rcases same with ⟨rfl, same⟩
      rcases ih result performs also same with ⟨rfl, rfl⟩
      exact ⟨rfl, rfl⟩

/-- What the code returns if it performs the calls. -/
def replay [DecidableEq Op] : Code Op Res A → List (Call Op Res) → Option A
  | .ret value, [] => some value
  | .call op next, ⟨other, result⟩ :: calls =>
      if same : other = op then (next (same ▸ result)).replay calls else none
  | _, _ => none

theorem performs_of_replay [DecidableEq Op] {code : Code Op Res A} {calls : List (Call Op Res)}
    {value : A} (replayed : code.replay calls = some value) : code.Performs calls value := by
  induction code generalizing calls with
  | ret result =>
      cases calls with
      | nil => exact ⟨rfl, Option.some.inj replayed⟩
      | cons call calls => cases replayed
  | call op next ih =>
      cases calls with
      | nil => cases replayed
      | cons call calls =>
          rcases call with ⟨other, result⟩
          rw [replay] at replayed
          split at replayed
          · rename_i same
            subst same
            exact ⟨result, calls, rfl, ih result replayed⟩
          · cases replayed

end Code

section Runs

variable {Pid Op : Type} {Res : Op → Type} {A X W : Type} [DecidableEq Pid]

/-- The call that an event is for the given process. -/
def callOf (pid : Pid) : Event Pid Op Res X → Option (Call Op Res)
  | .call other op result => if other = pid then some ⟨op, result⟩ else none
  | .external _ => none

/-- The calls of one process in a run. -/
def callsOf (pid : Pid) (trace : List (Event Pid Op Res X)) : List (Call Op Res) :=
  trace.filterMap (callOf pid)

theorem callsOf_snoc (pid : Pid) (trace : List (Event Pid Op Res X)) (event : Event Pid Op Res X) :
    callsOf pid (trace ++ [event]) = callsOf pid trace ++ (callOf pid event).toList := by
  rw [callsOf, List.filterMap_append]
  cases call : callOf pid event <;> simp [callsOf, call]

theorem mem_callsOf {pid : Pid} {trace : List (Event Pid Op Res X)} {op : Op} {result : Res op} :
    ⟨op, result⟩ ∈ callsOf pid trace ↔ Event.call pid op result ∈ trace := by
  simp only [callsOf, List.mem_filterMap]
  constructor
  · rintro ⟨event, member, isCall⟩
    cases event with
    | external cause => cases isCall
    | call other op result =>
        rcases Option.ite_none_right_eq_some.mp isCall with ⟨rfl, same⟩
        cases same
        exact member
  · intro member
    exact ⟨_, member, by simp [callOf]⟩

/-- No operation starts the given process. -/
def System.NeverStarts (system : System Pid Op Res A X W) (pid : Pid) : Prop :=
  ∀ parent op result next start, system.spawn parent op result next ≠ some (pid, start)

variable [DecidableEq Op] {system : System Pid Op Res A X W} {pid : Pid}
  {source target : Config Pid Op Res A W} {trace : List (Event Pid Op Res X)}
  {guard : Guard (Config Pid Op Res A W) (Event Pid Op Res X)}

/-- A step leaves a process alone or is one of its calls, if nobody starts that
process anew. -/
theorem code_of_step {event : Event Pid Op Res X} {code : Code Op Res A}
    (once : system.NeverStarts pid)
    (current : source.code pid = some code) (step : system.step source event = some target) :
    callOf pid event = none ∧ target.code pid = some code ∨
      ∃ op result next, callOf pid event = some ⟨op, result⟩ ∧ code = .call op next ∧
        target.code pid = some (next result) := by
  cases event with
  | external cause =>
      rcases (System.step_external_eq_some_iff _ _ _ _).mp step with ⟨world, -, rfl⟩
      exact Or.inl ⟨rfl, current⟩
  | call other op result =>
      rcases (System.step_call_eq_some_iff _ _ _ _ _ _).mp step with ⟨next, world, found, -, rfl⟩
      have resumed : system.resume source.code other op result next pid =
          Function.update source.code other (some (next result)) pid := by
        unfold System.resume
        cases spawned : system.spawn other op result next with
        | none => rfl
        | some started =>
            have different : pid ≠ started.1 := by
              rintro rfl
              exact once other op result next started.2 spawned
            exact Function.update_of_ne different _ _
      by_cases same : other = pid
      · subst same
        cases current.symm.trans found
        refine Or.inr ⟨op, result, next, by simp [callOf], rfl, ?_⟩
        exact resumed.trans (Function.update_self _ _ _)
      · refine Or.inl ⟨by simp [callOf, same], ?_⟩
        exact (resumed.trans (Function.update_of_ne (Ne.symm same) _ _)).trans current

/-- What is left of the code of a process, put behind the calls it has made, is a trace
of the code it started with. -/
theorem exists_rest_of_run {code : Code Op Res A}
    (once : system.NeverStarts pid)
    (run : GuardedRun system.step guard source trace target)
    (begins : source.code pid = some code) :
    ∃ rest, target.code pid = some rest ∧ ∀ calls value,
      rest.Performs calls value → code.Performs (callsOf pid trace ++ calls) value := by
  induction run with
  | nil => exact ⟨code, begins, fun calls value performs => performs⟩
  | snoc _ _ step ih =>
      rcases ih with ⟨rest, current, whole⟩
      rcases code_of_step once current step with
        ⟨silent, same⟩ | ⟨op, result, next, call, rfl, after⟩
      · refine ⟨rest, same, fun calls value performs => ?_⟩
        rw [callsOf_snoc, silent, Option.toList_none, List.append_nil]
        exact whole calls value performs
      · refine ⟨next result, after, fun calls value performs => ?_⟩
        rw [callsOf_snoc, call, Option.toList_some, List.append_assoc]
        exact whole _ value ⟨result, calls, rfl, performs⟩

/-- The calls of a process that has returned are a trace of its code. -/
theorem performs_of_run {code : Code Op Res A} {value : A}
    (once : system.NeverStarts pid)
    (run : GuardedRun system.step guard source trace target) (begins : source.code pid = some code)
    (returned : target.code pid = some (.ret value)) : code.Performs (callsOf pid trace) value := by
  rcases exists_rest_of_run once run begins with ⟨rest, current, whole⟩
  cases returned.symm.trans current
  have performs := whole [] value ⟨rfl, rfl⟩
  rwa [List.append_nil] at performs

/-- Every event of a guarded run met the guard where it was taken. -/
theorem guard_of_mem {event : Event Pid Op Res X}
    (run : GuardedRun system.step guard source trace target) (member : event ∈ trace) :
    ∃ config, guard config event := by
  induction run with
  | nil => cases member
  | snoc _ allowed _ ih =>
      rcases List.mem_append.mp member with earlier | last
      · exact ih earlier
      · cases List.mem_singleton.mp last
        exact ⟨_, allowed⟩

end Runs

end McKernelTest.Process
