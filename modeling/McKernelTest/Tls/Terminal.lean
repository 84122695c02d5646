import McKernelTest.Process.Termination
import McKernelTest.Tls.Run

/-!
# How runs of `tls#1` end

No thread of the test case has an unbounded loop, so every state has a run after which
nothing can move.  There the parent is through with its semaphores, has left for want of
memory, or is blocked at a child's semaphore `sync`.
-/

namespace McKernelTest.Tls

open Posix Process Transition

section Within

theorem increments_within (remaining : Nat) :
    Code.Within (3 * remaining) (increments remaining) := by
  induction remaining with
  | zero => exact trivial
  | succ remaining ih => exact fun _ _ _ => ih

theorem report_within (num : Nat) : Code.Within 5 (report num) :=
  fun _ _ _ _ _ => trivial

/-- The thread function, with any number of rounds. -/
theorem rounds_within (num rounds : Nat) : Code.Within (3 * rounds + 5 + 4) (do
    semPost (.sync num)
    printf "[%d] wait\n" [num]
    semWait (.start num)
    printf "[%d] start\n" [num]
    increments rounds
    report num) :=
  fun _ _ _ _ => (increments_within rounds).bind fun _ => report_within num

theorem exists_func_within : ∃ budget, ∀ num, Code.Within budget (func num) := by
  generalize isRounds : incCount = rounds
  refine ⟨3 * rounds + 5 + 4, fun num => ?_⟩
  rw [func, isRounds]
  exact rounds_within num rounds

theorem createChildren_within (i remaining : Nat) :
    Code.Within (3 * remaining) (createChildren i remaining) := by
  induction remaining generalizing i with
  | zero => exact trivial
  | succ remaining ih => exact fun _ _ _ => ih (i + 1)

theorem syncChildren_within (i remaining : Nat) :
    Code.Within remaining (syncChildren i remaining) := by
  induction remaining generalizing i with
  | zero => exact trivial
  | succ remaining ih => exact fun _ => ih (i + 1)

theorem startChildren_within (i remaining : Nat) :
    Code.Within remaining (startChildren i remaining) := by
  induction remaining generalizing i with
  | zero => exact trivial
  | succ remaining ih => exact fun _ => ih (i + 1)

theorem destroyChildren_within (i remaining : Nat) :
    Code.Within (3 * remaining) (destroyChildren i remaining) := by
  induction remaining generalizing i with
  | zero => exact trivial
  | succ remaining ih => exact fun _ _ _ => ih (i + 1)

theorem checkChildren_within (i remaining : Nat) :
    Code.Within (remaining + 1) (checkChildren i remaining) := by
  induction remaining generalizing i with
  | zero => exact fun _ => trivial
  | succ remaining ih =>
      intro tls
      change Code.Within (remaining + 1) (ite _ _ _)
      split
      · exact ih (i + 1)
      · exact trivial

theorem runChildren_within (childCount : Nat) :
    Code.Within (9 * childCount + 2 + 1) (runChildren childCount) := by
  have started := (startChildren_within 0 childCount).bind fun _ =>
    (destroyChildren_within 0 childCount).bind fun _ => checkChildren_within 0 childCount
  have flushed : Code.Within _ (do
      fflush
      startChildren 0 childCount
      destroyChildren 0 childCount
      checkChildren 0 childCount) :=
    (Code.within_call _ _ _).mpr fun _ => started
  have created := (createChildren_within 0 childCount).bind fun _ =>
    (syncChildren_within 0 childCount).bind fun _ => flushed
  intro children
  cases children with
  | true => exact created.mono (by omega)
  | false => exact Code.within_ret _ _

end Within

section Reaching

variable {env : Environment} {childCount : Nat} {trace : List TlsEvent} {config : TlsConfig}

/-- The threads of the test case. -/
def threads (childCount : Nat) : Finset Thread :=
  insert .parent ((Finset.range childCount).image .child)

/-- The code that each thread is created with. -/
def fresh : Thread → Program (Option String)
  | .parent => return none
  | .child num => func num

theorem child_mem_threads {num : Nat} : .child num ∈ threads childCount ↔ num < childCount := by
  simp [threads]

theorem Invariant.startsFresh (invariant : Invariant env childCount trace config) :
    (system env).StartsFresh (threads childCount) fresh config := by
  rcases invariant with ⟨parent, children, tracks, accounts, -⟩
  intro thread op result next world started begins found performed spawned
  rcases tracks.call found with ⟨stage, current, accepted, -⟩
  cases op with
  | pthreadCreate i =>
      rcases Option.ite_none_right_eq_some.mp spawned with ⟨-, ⟨⟩⟩
      cases thread with
      | parent =>
          cases current
          cases parent with
          | creating other =>
              have same : i = other := by simpa using accepted
              subst same
              refine ⟨child_mem_threads.mpr accounts.fits.2, by simp, ?_, rfl⟩
              have related := tracks (.child i)
              rw [stagesOf, accounts.unborn] at related
              generalize config.code (.child i) = code at related ⊢
              cases related
              rfl
          | _ => simp at accepted
      | child num =>
          rcases Option.map_eq_some_iff.mp current with ⟨stage, -, rfl⟩
          exact absurd rfl (single_of_allowedChild accepted i)
  | _ => cases spawned

theorem exists_bounded_start (positive : 0 < childCount) :
    ∃ budget, System.Bounded (threads childCount) fresh budget (start childCount).code := by
  rcases exists_func_within with ⟨childBudget, childWithin⟩
  have isProgram : runFunc childCount = runChildren childCount := by
    simp [runFunc, positive]
  refine ⟨fun thread => if thread = .parent then 9 * childCount + 2 + 1 else childBudget, ?_, ?_⟩
  · intro thread foreign
    cases thread with
    | parent => exact absurd (Finset.mem_insert_self _ _) foreign
    | child num => rfl
  · intro thread _
    cases thread with
    | parent =>
        have within := runChildren_within childCount
        rw [← isProgram] at within
        exact within
    | child num => exact childWithin num

/-- Every reachable state has a run to a state where nothing moves. -/
theorem exists_terminal (positive : 0 < childCount)
    (run : Run (system env).step (start childCount) trace config) :
    ∃ rest final, Run (system env).step config rest final ∧ (system env).Terminal final := by
  rcases exists_bounded_start positive with ⟨budget, bounded⟩
  refine System.exists_terminal_of_run run bounded
    (fun config => ∃ trace, Invariant env childCount trace config) ?_ ?_ ?_
  · exact ⟨[], Invariant.initial positive⟩
  · rintro config ⟨trace, invariant⟩
    exact invariant.startsFresh
  · rintro config event target ⟨trace, invariant⟩ stepped
    exact ⟨_, invariant.step stepped⟩

end Reaching

/-! ## The parent at rest -/

/-- The thread stands at a `sem_wait` on a semaphore that is 0. -/
def Blocked (config : TlsConfig) (thread : Thread) (sem : Sem) : Prop :=
  config.world.sems sem = 0 ∧ ∃ next, config.code thread = some (.call (.semWait sem) next)

section Terminal

variable {env : Environment} {childCount : Nat} {trace : List TlsEvent} {config : TlsConfig}
  {parent : ParentStage} {children : Nat → Option ChildStage}

/-- Only a wait for a semaphore or for a thread blocks. -/
theorem blocked_of_terminal {thread : Thread} {op : Op} {next : Res op → Program (Option String)}
    (terminal : (system env).Terminal config)
    (found : config.code thread = some (.call op next)) :
    (∃ sem, op = .semWait sem ∧ config.world.sems sem = 0) ∨ ∃ num, op = .pthreadJoin num := by
  have refuses : ∀ result, perform env config.world thread op result = none :=
    terminal.perform_eq_none found
  cases op with
  | semWait sem => exact Or.inl ⟨sem, rfl, by simpa [perform, semWaitOn] using refuses ()⟩
  | pthreadJoin num => exact Or.inr ⟨num, rfl⟩
  | calloc count => simpa [perform] using refuses env.calloc
  | pthreadCreate num => simpa [perform] using refuses (env.pthreadCreate num)
  | loadNotls => simpa [perform] using refuses config.world.notls
  | loadChildTls num => simpa [perform] using refuses (config.world.childTls num)
  | _ => exact absurd (refuses ()) (by simp [perform])

/-- Where the parent can be when nothing moves. -/
theorem parent_at_rest (terminal : (system env).Terminal config)
    (tracks : (protocol childCount).Tracks (finished childCount) (stagesOf parent children)
      config.code) :
    (∃ i, parent = .syncing i ∧ Blocked config .parent (.sync i)) ∨
      parent = .starting childCount ∨ parent = .left := by
  have related := tracks .parent
  rw [stagesOf] at related
  generalize located : config.code .parent = code at related
  cases related with
  | some follows =>
      rename_i code
      cases code with
      | ret value =>
          rcases follows with ⟨⟨⟩⟩ | ⟨⟨⟩⟩ | ⟨num, ⟨⟩⟩
          · exact Or.inr (Or.inl rfl)
          · exact Or.inr (Or.inr rfl)
      | call op next =>
          have accepted : allowedParent childCount op parent := follows.1
          rcases blocked_of_terminal terminal located with ⟨sem, rfl, empty⟩ | ⟨num, rfl⟩
          · cases parent with
            | syncing i =>
                obtain ⟨-, rfl⟩ : i < childCount ∧ sem = .sync i := by simpa using accepted
                exact Or.inl ⟨i, rfl, empty, next, located⟩
            | _ => simp at accepted
          · cases parent with
            | starting i =>
                have isLast : i = childCount := by simpa using accepted
                exact Or.inr (Or.inl (congrArg _ isLast))
            | _ => simp at accepted

end Terminal

end McKernelTest.Tls
