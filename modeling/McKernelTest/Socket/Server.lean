import McKernelTest.Posix.Stream
import McKernelTest.Text.Format

/-!
# The socket test

The client sends one text ten times, each time with its terminator.  The server
prints its buffer after every `recv` without looking at the number of bytes it has
received: what it shows is whatever text begins at the front of the buffer.  The
loops of `single_node.c` and `2node_recv.c` are the same, and so are those of the
two clients.
-/

namespace McKernelTest.Socket

open Posix Text

/-- `BUFFER_SIZE`. -/
def bufferSize : Nat := 256

/-- `SEND_COUNT`. -/
def sendCount : Nat := 10

/-- `toSendText`. -/
def toSendText : List Char :=
  "This is a test".toList

/-- What one `send` transmits: the text and its terminator. -/
def message : List Char :=
  toSendText ++ [nul]

/-- The bytes that the client transmits before it closes the socket. -/
def clientStream : List Char :=
  repeated message sendCount

/-- The results of `recv`. -/
inductive Received where
  | data (piece : List Char)
  | closed
  | failed (errno : Nat)

/-- The lines that the server loop prints: `[server] received[%d]: %s`,
`[server] recv() failed. error code: %d` and `[server] close() failed. error code: %d`. -/
inductive ServerLine where
  | received (recvCount : Nat) (text : List Char)
  | recvFailed (errno : Nat)
  | closeFailed (errno : Nat)
  deriving DecidableEq

/-- Whether a line reports a message. -/
def ServerLine.isReceived : ServerLine → Bool
  | .received _ _ => true
  | _ => false

/-- `recv` stores a piece at the front of the buffer and leaves what lies behind it. -/
def recvInto (buffer piece : List Char) : List Char :=
  piece ++ buffer.drop piece.length

/-- Closing the socket; the error number if it fails. -/
def closeLines (closeErrno : Option Nat) : List ServerLine :=
  match closeErrno with
  | none => []
  | some errno => [.closeFailed errno]

/-- The loop of the server, from a value of `recv_count` and contents of `buffer` on.
`beyond` is the memory behind the buffer, where `%s` goes on reading if the buffer
has no terminator. -/
def serverLoop (beyond : List Char) (closeErrno : Option Nat) :
    Nat → List Char → List Received → List ServerLine
  | _, _, [] => []
  | recvCount, buffer, .data piece :: rest =>
      .received recvCount (cString (recvInto buffer piece ++ beyond)) ::
        serverLoop beyond closeErrno (recvCount + 1) (recvInto buffer piece) rest
  | _, _, .closed :: _ => closeLines closeErrno
  | _, _, .failed errno :: _ => .recvFailed errno :: closeLines closeErrno

/-- What the server prints when the stream arrives in the given pieces. -/
def serverOutput (beyond : List Char) (closeErrno : Option Nat) (buffer : List Char)
    (pieces : List (List Char)) : List ServerLine :=
  serverLoop beyond closeErrno 0 buffer (pieces.map .data ++ [.closed])

/-- A way of cutting the client's stream into results of `recv`. -/
structure Segmentation (pieces : List (List Char)) : Prop where
  nonempty : ∀ piece ∈ pieces, piece ≠ []
  bounded : ∀ piece ∈ pieces, piece.length ≤ bufferSize
  joined : pieces.flatten = clientStream

/-- Report lines for a list of texts, numbered from `recvCount` on. -/
def numbered : Nat → List (List Char) → List ServerLine
  | _, [] => []
  | recvCount, text :: rest => .received recvCount text :: numbered (recvCount + 1) rest

/-- The server reports what was sent: one line for each message, in order, with the
text that was sent. -/
def Reports (output : List ServerLine) : Prop :=
  output.filter (·.isReceived) = numbered 0 (List.replicate sendCount toSendText)

/-! ## What is shown -/

/-- The texts that are shown for a list of pieces. -/
def shown (beyond : List Char) : List Char → List (List Char) → List (List Char)
  | _, [] => []
  | buffer, piece :: rest =>
      cString (recvInto buffer piece ++ beyond) :: shown beyond (recvInto buffer piece) rest

section

variable {beyond buffer : List Char} {closeErrno : Option Nat} {pieces : List (List Char)}

theorem filter_closeLines (closeErrno : Option Nat) :
    (closeLines closeErrno).filter (·.isReceived) = [] := by
  cases closeErrno <;> rfl

/-- The server numbers what it shows. -/
theorem serverLoop_received (recvCount : Nat) :
    (serverLoop beyond closeErrno recvCount buffer (pieces.map .data ++ [.closed])).filter
      (·.isReceived) = numbered recvCount (shown beyond buffer pieces) := by
  induction pieces generalizing recvCount buffer with
  | nil => exact filter_closeLines closeErrno
  | cons piece rest ih =>
      rw [List.map_cons, List.cons_append, serverLoop, List.filter_cons_of_pos rfl, ih]
      rfl

theorem numbered_injective {recvCount : Nat} {texts others : List (List Char)}
    (equal : numbered recvCount texts = numbered recvCount others) : texts = others := by
  induction texts generalizing recvCount others with
  | nil =>
      cases others with
      | nil => rfl
      | cons other rest => cases equal
  | cons text texts ih =>
      cases others with
      | nil => cases equal
      | cons other rest =>
          simp only [numbered, List.cons.injEq, ServerLine.received.injEq, true_and] at equal
          rw [equal.1, ih equal.2]

theorem shown_length (beyond buffer : List Char) (pieces : List (List Char)) :
    (shown beyond buffer pieces).length = pieces.length := by
  induction pieces generalizing buffer with
  | nil => rfl
  | cons piece rest ih => rw [shown, List.length_cons, List.length_cons, ih]

/-- A text that is shown begins as the piece does that was received last. -/
theorem head_of_shown {first : Char} {text : List Char} (begins : text.head? = some first)
    (nonempty : ∀ piece ∈ pieces, piece ≠ [])
    (same : ∀ other ∈ shown beyond buffer pieces, other = text) :
    ∀ piece ∈ pieces, piece.head? = some first := by
  induction pieces generalizing buffer with
  | nil => simp
  | cons piece rest ih =>
      intro other member
      rcases List.mem_cons.mp member with rfl | member
      · obtain ⟨head, tail, rfl⟩ := List.exists_cons_of_ne_nil (nonempty other List.mem_cons_self)
        have isText := same _ List.mem_cons_self
        rw [recvInto, List.cons_append, List.cons_append, cString, List.takeWhile_cons] at isText
        split at isText
        · rw [← isText] at begins
          exact begins
        · rw [← isText] at begins
          cases begins
      · exact ih (fun piece member => nonempty piece (List.mem_cons_of_mem _ member))
          (fun text member => same text (List.mem_cons_of_mem _ member)) other member

theorem nul_notMem_toSendText : nul ∉ toSendText := by
  decide

/-- A message that arrives on its own is shown, whatever the buffer held before. -/
theorem shown_messages (count : Nat) :
    shown beyond buffer (List.replicate count message) = List.replicate count toSendText := by
  induction count generalizing buffer with
  | zero => rfl
  | succ count ih =>
      rw [List.replicate_succ, List.replicate_succ, shown, ih, recvInto, message]
      rw [List.append_assoc, List.append_assoc, cString_append _ nul_notMem_toSendText,
        List.singleton_append, cString_nul_cons, List.append_nil]

end

/-- The server reports what was sent exactly if every `recv` returns one message. -/
theorem reports_iff (beyond : List Char) (closeErrno : Option Nat) (buffer : List Char)
    (pieces : List (List Char)) (segmentation : Segmentation pieces) :
    Reports (serverOutput beyond closeErrno buffer pieces) ↔
      pieces = List.replicate sendCount message := by
  rw [Reports, serverOutput, serverLoop_received]
  constructor
  · intro reported
    have texts := numbered_injective reported
    have count : pieces.length = sendCount := by
      rw [← shown_length beyond buffer pieces, texts, List.length_replicate]
    have same : ∀ text ∈ shown beyond buffer pieces, text = toSendText := by
      rw [texts]
      exact fun _ => List.eq_of_mem_replicate
    have begins : ∀ piece ∈ pieces, piece.head? = some 'T' :=
      head_of_shown rfl segmentation.nonempty same
    exact (pieces_of_repeated (by decide) begins segmentation.joined).2 count
  · rintro rfl
    rw [shown_messages]

/-- Ten pieces of one message each. -/
theorem reports_iff_messages :
    Segmentation (List.replicate sendCount message) ∧
      Reports (serverOutput [] none (List.replicate bufferSize 'x')
        (List.replicate sendCount message)) := by
  have segmentation : Segmentation (List.replicate sendCount message) := by
    refine ⟨?_, ?_, rfl⟩
    · intro piece member
      rw [List.eq_of_mem_replicate member]
      decide
    · intro piece member
      rw [List.eq_of_mem_replicate member]
      decide
  exact ⟨segmentation, (reports_iff [] none _ _ segmentation).mpr rfl⟩

/-- All messages in one piece: a single line is printed. -/
theorem coalesced_not_reported :
    Segmentation [clientStream] ∧
      ¬Reports (serverOutput [] none (List.replicate bufferSize nul) [clientStream]) := by
  have length : clientStream.length = sendCount * message.length := by
    simp [clientStream, repeated]
  refine ⟨⟨?_, ?_, by simp⟩, ?_⟩
  · intro piece member
    rw [List.mem_singleton.mp member, ← List.length_pos_iff, length]
    decide
  · intro piece member
    rw [List.mem_singleton.mp member, length]
    decide
  · rw [Reports, serverOutput, serverLoop_received]
    intro reported
    have count := congrArg List.length (numbered_injective reported)
    rw [shown_length, List.length_replicate] at count
    exact absurd count (by decide)

end McKernelTest.Socket
