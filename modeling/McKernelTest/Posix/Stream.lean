import Mathlib.Data.List.Basic

/-!
# Byte streams cut into pieces

A stream socket keeps the bytes and forgets the boundaries of the messages.  If the
first byte of a message occurs nowhere else in it, the pieces of a repeated message
that begin with this byte are made of whole messages, so there are at most as many
pieces as messages, and exactly as many only if every piece is one message.
-/

namespace McKernelTest.Posix

universe u

/-- The stream of `count` messages. -/
def repeated {α : Type u} (message : List α) (count : Nat) : List α :=
  (List.replicate count message).flatten

section

variable {α : Type u} {first : α} {body : List α}

theorem repeated_succ (message : List α) (count : Nat) :
    repeated message (count + 1) = message ++ repeated message count := by
  simp [repeated, List.replicate_succ]

/-- The first piece ends where a message ends, if the next one begins with the first
byte of a message. -/
theorem cut_after_message (onlyFirst : first ∉ body) {count : Nat} {piece rest : List α}
    (nonempty : piece ≠ []) (next : rest = [] ∨ rest.head? = some first)
    (cut : piece ++ rest = repeated (first :: body) count) :
    ∃ remaining < count, rest = repeated (first :: body) remaining ∧
      (remaining + 1 = count → piece = first :: body) := by
  induction count generalizing piece with
  | zero =>
      have empty := (List.append_eq_nil_iff.mp cut).1
      exact absurd empty nonempty
  | succ count ih =>
      rw [repeated_succ] at cut
      rcases List.append_eq_append_iff.mp cut with
        ⟨tail, isMessage, isRest⟩ | ⟨tail, isPiece, isRest⟩
      · cases tail with
        | nil => exact ⟨count, Nat.lt_succ_self _, isRest, fun _ => by simpa using isMessage.symm⟩
        | cons other tail =>
            -- the piece ends inside the first message, so the next one begins in its body
            obtain ⟨head, front, rfl⟩ := List.exists_cons_of_ne_nil nonempty
            have isBody : body = front ++ other :: tail := (List.cons.inj isMessage).2
            have begins : rest.head? = some other := by rw [isRest]; rfl
            have isFirst : other = first := by
              rcases next with empty | isNext
              · simp [isRest] at empty
              · exact Option.some.inj (begins.symm.trans isNext)
            exact absurd (by simp [isBody, isFirst]) onlyFirst
      · cases tail with
        | nil =>
            exact ⟨count, Nat.lt_succ_self _, by simpa using isRest.symm,
              fun _ => by simpa using isPiece⟩
        | cons other tail =>
            obtain ⟨remaining, less, isRepeated, -⟩ := ih (by simp) isRest.symm
            exact ⟨remaining, Nat.lt_succ_of_lt less, isRepeated, fun last => by omega⟩

/-- Pieces that all begin with the first byte of a message are at most as many as the
messages; if they are as many, every piece is one message. -/
theorem pieces_of_repeated (onlyFirst : first ∉ body) {count : Nat} {pieces : List (List α)}
    (begin : ∀ piece ∈ pieces, piece.head? = some first)
    (cut : pieces.flatten = repeated (first :: body) count) :
    pieces.length ≤ count ∧
      (pieces.length = count → pieces = List.replicate count (first :: body)) := by
  induction pieces generalizing count with
  | nil =>
      refine ⟨Nat.zero_le _, fun none => ?_⟩
      rw [← none]
      rfl
  | cons piece rest ih =>
      have nonempty : piece ≠ [] := by
        rintro rfl
        exact absurd (begin [] List.mem_cons_self) (by simp)
      have others : ∀ piece ∈ rest, piece.head? = some first :=
        fun piece member => begin piece (List.mem_cons_of_mem _ member)
      have next : rest.flatten = [] ∨ rest.flatten.head? = some first := by
        cases rest with
        | nil => exact Or.inl rfl
        | cons second rest =>
            right
            rw [List.flatten_cons, List.head?_append, others second List.mem_cons_self]
            rfl
      obtain ⟨remaining, less, isRepeated, whole⟩ := cut_after_message onlyFirst nonempty next cut
      obtain ⟨bound, equal⟩ := ih others isRepeated
      rw [List.length_cons]
      refine ⟨by omega, fun all => ?_⟩
      have last : remaining + 1 = count := by omega
      rw [whole last, equal (by omega), ← last, List.replicate_succ]

end

end McKernelTest.Posix
