import Mathlib.Data.List.Basic

/-!
# Pipes as byte queues

A pipe holds the bytes written and not yet read.  A write appends all its
bytes.  A read of `count` bytes waits for a nonempty queue and then takes as
many bytes as there are, at most `count`; it does not know where one write
ended and the next began.
-/

namespace McKernelTest.Posix

/-- The two descriptors of a pipe. -/
inductive PipeEnd where
  | readEnd
  | writeEnd
  deriving DecidableEq, Repr

/-- `count` bytes from the start of a string literal: its characters, the NUL
behind them, and from there on whatever lies `beyond` in the program image. -/
def literalBytes (literal : String) (beyond : Nat → UInt8) (count : Nat) : List UInt8 :=
  (List.range count).map fun i =>
    if i < literal.utf8ByteSize then literal.toUTF8.get! i
    else if i = literal.utf8ByteSize then 0 else beyond i

@[simp]
theorem literalBytes_length (literal : String) (beyond : Nat → UInt8) (count : Nat) :
    (literalBytes literal beyond count).length = count := by
  simp [literalBytes]

/-- The queue after a read of `count` bytes that returned `bytes`; undefined
while the queue is empty. -/
def readQueue (queue : List UInt8) (count : Nat) (bytes : List UInt8) : Option (List UInt8) :=
  if queue ≠ [] ∧ bytes = queue.take count then some (queue.drop count) else none

theorem readQueue_eq_some_iff (queue bytes rest : List UInt8) (count : Nat) :
    readQueue queue count bytes = some rest ↔
      queue ≠ [] ∧ bytes = queue.take count ∧ rest = queue.drop count := by
  unfold readQueue
  split
  · rename_i allowed
    simp only [Option.some.injEq, allowed.1, allowed.2, ne_eq, not_false_eq_true, true_and]
    exact eq_comm
  · rename_i refused
    simp only [reduceCtorEq, false_iff]
    rintro ⟨nonempty, bytesEq, -⟩
    exact refused ⟨nonempty, bytesEq⟩

/-- Bytes are neither lost nor duplicated by a read. -/
theorem length_of_readQueue {queue bytes rest : List UInt8} {count : Nat}
    (read : readQueue queue count bytes = some rest) :
    0 < queue.length ∧ rest.length = queue.length - count := by
  obtain ⟨nonempty, -, rfl⟩ := (readQueue_eq_some_iff queue bytes rest count).mp read
  exact ⟨List.length_pos_of_ne_nil nonempty, List.length_drop⟩

end McKernelTest.Posix
