import Mathlib.Data.Finset.Card

/-!
# Reusable barriers

A barrier counts the arrivals of its current generation and opens when as many
parties as it was made for have arrived, which starts the next generation.  A
party may pass once the generation of its arrival is over.

`Serves` relates a barrier to the number of times each party has arrived.  The
parties are never more than one arrival apart.
-/

namespace McKernelTest.Posix

/-- A barrier for `count` parties. -/
structure Barrier where
  count : Nat
  generation : Nat
  arrived : Nat
  deriving DecidableEq, Repr

/-- One more party arrives. -/
def Barrier.arrive (barrier : Barrier) : Barrier :=
  if barrier.arrived + 1 = barrier.count then
    { barrier with generation := barrier.generation + 1, arrived := 0 }
  else
    { barrier with arrived := barrier.arrived + 1 }

/-- An arrival never takes a generation back. -/
theorem Barrier.generation_le_arrive (barrier : Barrier) :
    barrier.generation ≤ barrier.arrive.generation := by
  unfold Barrier.arrive
  split
  · exact Nat.le_succ _
  · exact Nat.le_refl _

variable {P : Type}

/-- The barrier has seen the given number of arrivals of each of the parties
it was made for. -/
structure Barrier.Serves (barrier : Barrier) (parties : Finset P) (arrivals : P → Nat) :
    Prop where
  size : barrier.count = parties.card
  lower : ∀ party ∈ parties, barrier.generation ≤ arrivals party
  upper : ∀ party ∈ parties, arrivals party ≤ barrier.generation + 1
  arrived : barrier.arrived =
    (parties.filter fun party => arrivals party = barrier.generation + 1).card
  closed : barrier.arrived < barrier.count

namespace Barrier.Serves

variable {barrier : Barrier} {parties : Finset P} {arrivals : P → Nat} {party : P}

/-- Somebody is missing in the current generation. -/
theorem exists_missing (serves : barrier.Serves parties arrivals) :
    ∃ party ∈ parties, arrivals party = barrier.generation := by
  by_contra none
  push Not at none
  have everybody : parties.filter (fun party => arrivals party = barrier.generation + 1) =
      parties := by
    apply Finset.filter_true_of_mem
    intro party member
    have lower := serves.lower party member
    have upper := serves.upper party member
    have notMissing := none party member
    omega
  have closed := serves.closed
  rw [serves.arrived, everybody, serves.size] at closed
  exact Nat.lt_irrefl _ closed

variable [DecidableEq P]

theorem filter_arrive (serves : barrier.Serves parties arrivals) (member : party ∈ parties)
    (missing : arrivals party = barrier.generation) :
    (parties.filter fun other =>
      Function.update arrivals party (arrivals party + 1) other = barrier.generation + 1).card =
      barrier.arrived + 1 := by
  have split : (parties.filter fun other =>
      Function.update arrivals party (arrivals party + 1) other = barrier.generation + 1) =
      insert party (parties.filter fun other => arrivals other = barrier.generation + 1) := by
    ext other
    by_cases same : other = party
    · subst same
      simp [member, missing]
    · simp [same]
  rw [split, Finset.card_insert_of_notMem, serves.arrived]
  simp [missing]

/-- The arrival of a party that was missing. -/
theorem arrive (serves : barrier.Serves parties arrivals) (member : party ∈ parties)
    (missing : arrivals party = barrier.generation) :
    barrier.arrive.Serves parties (Function.update arrivals party (arrivals party + 1)) := by
  have counted := serves.filter_arrive member missing
  unfold Barrier.arrive
  split
  · rename_i complete
    have everybody : ∀ other ∈ parties,
        Function.update arrivals party (arrivals party + 1) other = barrier.generation + 1 := by
      have full := counted.trans (complete.trans serves.size)
      exact fun other found => Finset.filter_card_eq full other found
    constructor
    · exact serves.size
    · exact fun other found => (everybody other found).ge
    · intro other found
      rw [everybody other found]
      exact Nat.le_succ _
    · symm
      rw [Finset.card_eq_zero, Finset.filter_eq_empty_iff]
      intro other found
      rw [everybody other found]
      exact (Nat.lt_succ_self _).ne
    · have closed := serves.closed
      exact Nat.zero_lt_of_lt closed
  · rename_i incomplete
    constructor
    · exact serves.size
    · intro other found
      by_cases same : other = party
      · subst same
        rw [Function.update_self, missing]
        exact Nat.le_succ _
      · rw [Function.update_of_ne same]
        exact serves.lower other found
    · intro other found
      by_cases same : other = party
      · subst same
        rw [Function.update_self, missing]
      · rw [Function.update_of_ne same]
        exact serves.upper other found
    · exact counted.symm
    · have closed := serves.closed
      change barrier.arrived + 1 < barrier.count
      omega

end Barrier.Serves

end McKernelTest.Posix
