import Columnar.Consumer.PieceWriter
import Columnar.Proofs.Consumer.LineWriter
/-!
# What a piece writer receives

Each call takes a first part of what is left, so all calls together take a first part of the whole, as
many bytes as are reported (`takes_writePieces`). So what a line writer says that it has sent to a
piece writer is what the calls took, however rows are cut into pieces (`faithful_acceptAll`). A writer
that takes something in every call has taken all in the end (`Willing.device`).
-/

set_option autoImplicit false

namespace Columnar

namespace PieceWriter

variable {σ : Type} (writer : PieceWriter σ)

/-- Of some bytes a number was taken, and these were received behind what was received before. -/
structure Takes (bytes : List UInt8) (before : Tapped σ) (outcome : Nat × Tapped σ) : Prop where
  count_le : outcome.1 ≤ bytes.length
  received_eq : outcome.2.received = before.received ++ bytes.take outcome.1

namespace Takes

variable {whole front back : List UInt8} {before : Tapped σ} {outcome later : Nat × Tapped σ}

/-- A call that takes nothing has received nothing, whatever it makes of the state. -/
theorem nothing (bytes : List UInt8) (tapped : Tapped σ) (state : σ) :
    Takes bytes tapped (0, { tapped with state }) :=
  ⟨Nat.zero_le _, (List.append_nil _).symm⟩

/-- What is taken of some bytes is taken of them with others behind. -/
theorem append (takes : Takes front before outcome) (back : List UInt8) :
    Takes (front ++ back) before outcome := by
  obtain ⟨count_le, received_eq⟩ := takes
  refine ⟨?_, ?_⟩
  · rw [List.length_append]
    exact Nat.le_add_right_of_le count_le
  · rw [received_eq, List.take_append_of_le_length count_le]

/-- What is then taken of the bytes that are left adds to it. -/
theorem trans (takes : Takes whole before outcome)
    (more : Takes (whole.drop outcome.1) outcome.2 later) :
    Takes whole before (outcome.1 + later.1, later.2) := by
  have first := takes.count_le
  have second := more.count_le
  rw [List.length_drop] at second
  refine ⟨?_, ?_⟩
  · show outcome.1 + later.1 ≤ whole.length
    omega
  · show later.2.received = before.received ++ whole.take (outcome.1 + later.1)
    rw [more.received_eq, takes.received_eq, List.take_add, List.append_assoc]

end Takes

/-- One call takes a first part of what it is offered and says how much. -/
theorem takes_call (bytes : List UInt8) (tapped : Tapped σ) :
    Takes bytes tapped (writer.call bytes tapped) := by
  unfold call
  split
  · next state failed => exact .nothing bytes tapped state
  · next taken state answered => exact ⟨Nat.le_of_lt_succ taken.isLt, rfl⟩

/-- Every call but the last takes some of the bytes that are left, so the induction is on these. -/
theorem takes_writeAll (bytes : List UInt8) (tapped : Tapped σ) :
    Takes bytes tapped (writer.writeAll bytes tapped) := by
  induction bytes, tapped using writeAll.induct writer with
  | case1 tapped =>
    rw [writeAll]
    exact .nothing [] tapped tapped.state
  | case2 tapped byte rest called some ih =>
    rw [writeAll, dif_pos some]
    exact (writer.takes_call (byte :: rest) tapped).trans ih
  | case3 tapped byte rest called none =>
    rw [writeAll, dif_neg none]
    exact writer.takes_call (byte :: rest) tapped

/-- All calls for the pieces of a row together take a first part of the row, since the first piece
that is not taken whole is the last that is offered. -/
theorem takes_writePieces (pieces : List (List UInt8)) :
    ∀ tapped : Tapped σ, Takes pieces.flatten tapped (writer.writePieces pieces tapped) := by
  induction pieces with
  | nil => exact fun tapped => .nothing [] tapped tapped.state
  | cons piece rest ih =>
    intro tapped
    have first := writer.takes_writeAll piece tapped
    rw [writePieces, List.flatten_cons]
    dsimp only
    by_cases short : (writer.writeAll piece tapped).1 < piece.length
    · rw [if_pos short]
      exact first.append rest.flatten
    · have all : (writer.writeAll piece tapped).1 = piece.length :=
        Nat.le_antisymm first.count_le (Nat.not_lt.mp short)
      rw [if_neg short]
      refine (first.append rest.flatten).trans ?_
      rw [all, List.drop_left]
      exact ih _

/-- A writer that takes something in every call, and flushes. -/
structure Willing (writer : PieceWriter σ) : Prop where
  writes (bytes : List UInt8) (state : σ) (some : bytes ≠ []) :
    ∃ taken later, writer.write bytes state = (Option.some taken, later) ∧ 0 < taken.val
  flushes (state : σ) : (writer.flush state).1 = true

section

variable {writer} (willing : writer.Willing)

include willing

/-- A willing writer takes something of what it is offered. -/
theorem Willing.call_pos {bytes : List UInt8} (some : bytes ≠ []) (tapped : Tapped σ) :
    0 < (writer.call bytes tapped).1 := by
  obtain ⟨taken, later, answered, positive⟩ := willing.writes bytes tapped.state some
  rw [call, answered]
  exact positive

/-- A willing writer takes a piece whole in the end, since each call leaves less of it. -/
theorem Willing.length_le_writeAll (bytes : List UInt8) (tapped : Tapped σ) :
    bytes.length ≤ (writer.writeAll bytes tapped).1 := by
  induction bytes, tapped using writeAll.induct writer with
  | case1 tapped => exact Nat.zero_le _
  | case2 tapped byte rest called some ih =>
    rw [writeAll, dif_pos some]
    rw [List.length_drop] at ih
    exact Nat.sub_le_iff_le_add'.mp ih
  | case3 tapped byte rest called none =>
    exact absurd (willing.call_pos (List.cons_ne_nil byte rest) tapped) none

/-- A willing writer takes all pieces whole. -/
theorem Willing.length_le_writePieces (pieces : List (List UInt8)) :
    ∀ tapped : Tapped σ, pieces.flatten.length ≤ (writer.writePieces pieces tapped).1 := by
  induction pieces with
  | nil => exact fun tapped => Nat.zero_le _
  | cons piece rest ih =>
    intro tapped
    have first := willing.length_le_writeAll piece tapped
    have later := ih (writer.writeAll piece tapped).2
    rw [writePieces, List.flatten_cons, List.length_append]
    dsimp only
    rw [if_neg (Nat.not_lt.mpr first)]
    exact Nat.add_le_add first later

/-- However bytes are cut, such a writer takes all of them. -/
theorem Willing.device (cutting : Cutting) : (writer.device cutting).Willing where
  size_le bytes tapped := by
    have all := willing.length_le_writePieces (cutting.pieces bytes.data.toList) tapped
    rw [cutting.flatten_pieces] at all
    exact all
  flushes tapped := willing.flushes tapped.state

end

end PieceWriter

/-! ### As a device -/

namespace LineWriter

variable {σ : Type} (writer : PieceWriter σ) (cutting : Cutting)

/-- What was sent is what the calls took. -/
def Faithful (lines : LineWriter (Tapped σ)) : Prop :=
  lines.device.received = lines.sent

variable {lines : LineWriter (Tapped σ)}

/-- The bytes that a line writer says that it has sent are those that the calls took. -/
theorem faithful_writeBytes (bytes : ByteArray) (faithful : lines.Faithful) :
    (lines.writeBytes (writer.device cutting) bytes).state.Faithful := by
  have takes := writer.takes_writePieces (cutting.pieces bytes.data.toList) lines.device
  rw [cutting.flatten_pieces] at takes
  rw [Faithful, device_writeBytes, sent_writeBytes, ← faithful]
  exact takes.received_eq

/-- A row that is written, or begun, keeps what is said to be sent with what was taken. -/
theorem faithful_writeRow (row : Json) (faithful : lines.Faithful) :
    (lines.writeRow (writer.device cutting) row).state.Faithful := by
  have text := faithful_writeBytes writer cutting (rowBytes row) faithful
  refine Attempt.state_andThen (Attempt.state_andThen text ?_) id
  exact faithful_writeBytes writer cutting lineFeed

/-- Any number of rows keep what is said to be sent with what was taken. -/
theorem faithful_writeRows (rows : List Json) :
    ∀ {lines : LineWriter (Tapped σ)}, lines.Faithful →
      (writeRows (writer.device cutting) rows lines).state.Faithful := by
  induction rows with
  | nil => exact id
  | cons row rest ih =>
    exact fun faithful => Attempt.state_andThen (faithful_writeRow writer cutting row faithful) ih

/-- Flushing calls for no bytes. -/
theorem faithful_flush (faithful : lines.Faithful) :
    (lines.flush (writer.device cutting)).state.Faithful := by
  unfold flush
  dsimp only
  split <;> exact faithful

/-- What a line writer has sent when it has taken batches, up to the first that fails, is what the
calls took. -/
theorem faithful_acceptAll (batches : List RecordBatch) :
    ∀ {lines : LineWriter (Tapped σ)}, lines.Faithful →
      ((consumer (writer.device cutting)).acceptAll batches lines).state.Faithful := by
  induction batches with
  | nil => exact id
  | cons batch rest ih =>
    intro lines faithful
    have rows := faithful_writeRows writer cutting batch.rows faithful
    have taken : ((consumer (writer.device cutting)).accept batch lines).state.Faithful :=
      Attempt.state_andThen rows (faithful_flush writer cutting)
    exact Attempt.state_andThen taken ih

end LineWriter

end Columnar
