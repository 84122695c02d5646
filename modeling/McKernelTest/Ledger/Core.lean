import Mathlib.Data.Finset.Basic
import Mathlib.Data.Finset.Insert
import Mathlib.Data.Finset.Lattice.Lemmas
import Mathlib.Data.Finset.SDiff
import Mathlib.Data.Finset.Dedup

/-!
# Resource ledgers

A ledger is the chronological list of the acquisitions and releases a program
performs.  Booking it on the set of resources currently held is a partial
operation: acquiring what is held, and releasing what is not held, are both
undefined.  A ledger that books from nothing to nothing has released exactly
once whatever it acquired and has released nothing else.
-/

namespace McKernelTest.Ledger

universe u

/-- One booking of a resource. -/
inductive Entry (R : Type u) where
  | acquire (resource : R)
  | release (resource : R)
  deriving DecidableEq

variable {R : Type u} [DecidableEq R]

/-- Book the entries in order on the set of resources held. -/
def replay : List (Entry R) → Finset R → Option (Finset R)
  | [], held => some held
  | .acquire resource :: rest, held =>
      if resource ∈ held then none else replay rest (insert resource held)
  | .release resource :: rest, held =>
      if resource ∈ held then replay rest (held.erase resource) else none

/-- Everything acquired is released exactly once, and nothing is released
that is not held at that moment. -/
def Balanced (entries : List (Entry R)) : Prop :=
  replay entries ∅ = some ∅

instance (entries : List (Entry R)) : Decidable (Balanced entries) :=
  inferInstanceAs (Decidable (replay entries ∅ = some ∅))

theorem replay_append (first second : List (Entry R)) (held : Finset R) :
    replay (first ++ second) held = (replay first held).bind (replay second) := by
  induction first generalizing held with
  | nil => rfl
  | cons entry rest ih =>
      cases entry with
      | acquire resource =>
          by_cases member : resource ∈ held <;> simp [replay, member, ih]
      | release resource =>
          by_cases member : resource ∈ held <;> simp [replay, member, ih]

/-- Acquiring new, pairwise distinct resources adds them all. -/
theorem replay_acquires {resources : List R} {held : Finset R}
    (distinct : resources.Nodup) (fresh : ∀ resource ∈ resources, resource ∉ held) :
    replay (resources.map Entry.acquire) held = some (held ∪ resources.toFinset) := by
  induction resources generalizing held with
  | nil => simp [replay]
  | cons resource rest ih =>
      obtain ⟨notMem, distinct⟩ := List.nodup_cons.mp distinct
      have restFresh : ∀ other ∈ rest, other ∉ insert resource held := by
        intro other member
        rw [Finset.mem_insert, not_or]
        refine ⟨?_, fresh other (List.mem_cons_of_mem _ member)⟩
        rintro rfl
        exact notMem member
      rw [List.map_cons, replay, if_neg (fresh resource List.mem_cons_self),
        ih distinct restFresh, List.toFinset_cons]
      congr 1
      ext other
      simp only [Finset.mem_union, Finset.mem_insert, List.mem_toFinset]
      tauto

/-- Releasing pairwise distinct resources that are all held removes them. -/
theorem replay_releases {resources : List R} {held : Finset R}
    (distinct : resources.Nodup) (present : ∀ resource ∈ resources, resource ∈ held) :
    replay (resources.map Entry.release) held = some (held \ resources.toFinset) := by
  induction resources generalizing held with
  | nil => simp [replay]
  | cons resource rest ih =>
      obtain ⟨notMem, distinct⟩ := List.nodup_cons.mp distinct
      have restPresent : ∀ other ∈ rest, other ∈ held.erase resource := by
        intro other member
        rw [Finset.mem_erase]
        refine ⟨?_, present other (List.mem_cons_of_mem _ member)⟩
        rintro rfl
        exact notMem member
      rw [List.map_cons, replay, if_pos (present resource List.mem_cons_self),
        ih distinct restPresent, List.toFinset_cons]
      congr 1
      ext other
      simp only [Finset.mem_sdiff, Finset.mem_erase, Finset.mem_insert, List.mem_toFinset]
      tauto

/-- Acquiring new resources and then releasing some of what is held leaves the rest. -/
theorem replay_acquires_releases {old new released : List R} (distinct : (old ++ new).Nodup)
    (once : released.Nodup) (present : ∀ resource ∈ released, resource ∈ old ++ new) :
    replay (new.map Entry.acquire ++ released.map Entry.release) old.toFinset =
      some ((old ++ new).toFinset \ released.toFinset) := by
  obtain ⟨-, newDistinct, separate⟩ := List.nodup_append.mp distinct
  have fresh : ∀ resource ∈ new, resource ∉ old.toFinset := by
    intro resource inNew inOld
    exact separate resource (List.mem_toFinset.mp inOld) resource inNew rfl
  have held : ∀ resource ∈ released, resource ∈ (old ++ new).toFinset := by
    intro resource member
    exact List.mem_toFinset.mpr (present resource member)
  rw [replay_append, replay_acquires newDistinct fresh, Option.bind_some, ← List.toFinset_append,
    replay_releases once held]

/-- A batch of distinct acquisitions followed by the releases of the same
resources in any order is balanced. -/
theorem balanced_of_perm {acquired released : List R}
    (distinct : acquired.Nodup) (same : acquired.Perm released) :
    Balanced (acquired.map Entry.acquire ++ released.map Entry.release) := by
  have taken : replay (acquired.map Entry.acquire) ∅ = some acquired.toFinset := by
    rw [replay_acquires distinct fun resource _ => Finset.notMem_empty resource,
      Finset.empty_union]
  have returned : replay (released.map Entry.release) acquired.toFinset =
      some (acquired.toFinset \ released.toFinset) := by
    apply replay_releases (same.nodup_iff.mp distinct)
    intro resource member
    exact List.mem_toFinset.mpr (same.mem_iff.mpr member)
  rw [Balanced, replay_append, taken, Option.bind_some, returned,
    List.toFinset_eq_of_perm _ _ same, Finset.sdiff_self]

/-- In a ledger that books, a released resource was held before or acquired
by the ledger itself. -/
theorem mem_or_acquire_mem_of_replay {entries : List (Entry R)} {held final : Finset R}
    {resource : R} (booked : replay entries held = some final)
    (released : Entry.release resource ∈ entries) :
    resource ∈ held ∨ Entry.acquire resource ∈ entries := by
  induction entries generalizing held with
  | nil => simp at released
  | cons entry rest ih =>
      cases entry with
      | acquire first =>
          by_cases member : first ∈ held
          · simp [replay, member] at booked
          · rw [replay, if_neg member] at booked
            have tail : Entry.release resource ∈ rest := by simpa using released
            rcases ih booked tail with inHeld | acquired
            · rcases Finset.mem_insert.mp inHeld with rfl | inHeld
              · exact Or.inr List.mem_cons_self
              · exact Or.inl inHeld
            · exact Or.inr (List.mem_cons_of_mem _ acquired)
      | release first =>
          by_cases member : first ∈ held
          · rw [replay, if_pos member] at booked
            rcases List.mem_cons.mp released with equal | tail
            · cases equal
              exact Or.inl member
            · rcases ih booked tail with inHeld | acquired
              · exact Or.inl (Finset.mem_of_mem_erase inHeld)
              · exact Or.inr (List.mem_cons_of_mem _ acquired)
          · simp [replay, member] at booked

/-- A balanced ledger releases only what it acquires. -/
theorem Balanced.acquire_mem {entries : List (Entry R)} (balanced : Balanced entries)
    {resource : R} (released : Entry.release resource ∈ entries) :
    Entry.acquire resource ∈ entries := by
  rcases mem_or_acquire_mem_of_replay balanced released with inEmpty | acquired
  · simp at inEmpty
  · exact acquired

end McKernelTest.Ledger
