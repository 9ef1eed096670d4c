import Columnar.Consumer.LineWriter
import Columnar.Proofs.Json.Printer
/-!
# What a line writer sends

However little of what it is offered a device takes, the bytes that reach it are a first part of the
lines due, and a row is counted exactly when its line feed is among them. `Sends` says so of one
operation, and is closed under doing one operation after another; so it holds of a row, of a batch
and of any number of batches (`sends_acceptAll`). That rows are counted by line feeds rests on the
text of a row being one line. To a device that takes all that it is offered everything is sent
(`failure_acceptAll`).
-/

set_option autoImplicit false

namespace Columnar

/-- Batches offered one after the other, up to the first that is not taken. -/
def Consumer.acceptAll {τ : Type} (consumer : Consumer τ) : List RecordBatch → τ → Attempt τ
  | [], state => .ok state
  | batch :: batches, state => (consumer.accept batch state).andThen (consumer.acceptAll batches)

/-- A device that takes all that it is offered. -/
structure Device.Willing {δ : Type} (device : Device δ) : Prop where
  size_le (bytes : ByteArray) (state : δ) : bytes.size ≤ (device.write bytes state).1
  flushes (state : δ) : (device.flush state).1 = true

namespace LineWriter

variable {δ : Type}

/-- The bytes that reached the device. -/
def sent (writer : LineWriter δ) : List UInt8 :=
  writer.output.data.toList

/-- The line of a row. -/
def lineOf (row : Json) : List UInt8 :=
  (rowBytes row).data.toList ++ [10]

/-- The lines of rows, in order. -/
def linesOf (rows : List Json) : List UInt8 :=
  rows.flatMap lineOf

/-- The text of a row has no line feed. -/
theorem notMem_rowBytes (row : Json) : 10 ∉ (rowBytes row).data.toList :=
  Json.notMem_toUTF8_render row (by decide)

/-- The line of a row has one line feed, at its end. -/
theorem count_lineOf (row : Json) : (lineOf row).count 10 = 1 := by
  rw [lineOf, List.count_append, List.count_eq_zero_of_not_mem (notMem_rowBytes row)]
  rfl

/-- There are as many line feeds as rows. -/
theorem count_linesOf (rows : List Json) : (linesOf rows).count 10 = rows.length := by
  induction rows with
  | nil => rfl
  | cons row rest ih =>
    have lines : linesOf (row :: rest) = lineOf row ++ linesOf rest := List.flatMap_cons
    rw [lines, List.count_append, count_lineOf, ih, List.length_cons, Nat.add_comm]

/-- An operation that is to send some bytes sends a first part of them, and counts the line feeds in
it. If it does not fail, it sends them all. -/
def Sends (due : List UInt8) (before : LineWriter δ) (attempt : Attempt (LineWriter δ)) : Prop :=
  ∃ part, part <+: due ∧ attempt.state.sent = before.sent ++ part ∧
    attempt.state.rowsWritten = before.rowsWritten + part.count 10 ∧
    (attempt.failure = none → part = due)

namespace Sends

variable {before : LineWriter δ} {attempt : Attempt (LineWriter δ)} {due : List UInt8}

/-- An operation that changes only the device sends nothing. -/
theorem of_same (sent : attempt.state.sent = before.sent)
    (rows : attempt.state.rowsWritten = before.rowsWritten) : Sends [] before attempt :=
  ⟨[], List.prefix_refl [], by rw [sent, List.append_nil], rows, fun _ => rfl⟩

/-- What two operations in a row send. -/
theorem andThen {first second : List UInt8} {next : LineWriter δ → Attempt (LineWriter δ)}
    (sends : Sends first before attempt) (later : ∀ writer, Sends second writer (next writer)) :
    Sends (first ++ second) before (attempt.andThen next) := by
  obtain ⟨part, begins, sent, rows, all⟩ := sends
  cases failed : attempt.failure with
  | some failure =>
    rw [Attempt.andThen_of_failure failed]
    refine ⟨part, begins.trans (List.prefix_append first second), sent, rows, fun clean => ?_⟩
    rw [failed] at clean
    cases clean
  | none =>
    obtain ⟨part', begins', sent', rows', all'⟩ := later attempt.state
    cases all failed
    rw [Attempt.andThen_of_clean failed]
    refine ⟨first ++ part', (List.prefix_append_right_inj first).mpr begins', ?_, ?_, fun clean => ?_⟩
    · rw [sent', sent, List.append_assoc]
    · rw [rows', rows, List.count_append, Nat.add_assoc]
    · rw [all' clean]

/-- The count of rows never falls. -/
theorem rowsWritten_le (sends : Sends due before attempt) :
    before.rowsWritten ≤ attempt.state.rowsWritten := by
  obtain ⟨part, -, -, rows, -⟩ := sends
  rw [rows]
  exact Nat.le_add_right _ _

/-- What goes through counts one row for each line feed that was due. -/
theorem rowsWritten_eq (sends : Sends due before attempt) (clean : attempt.failure = none) :
    attempt.state.rowsWritten = before.rowsWritten + due.count 10 := by
  obtain ⟨part, -, -, rows, all⟩ := sends
  rw [rows, all clean]

end Sends

variable (device : Device δ)

section

variable (bytes : ByteArray) (writer : LineWriter δ)

/-- Offering bytes to a device leaves it as its own write does. -/
theorem device_writeBytes :
    (writer.writeBytes device bytes).state.device = (device.write bytes writer.device).2 := by
  unfold writeBytes
  dsimp only
  split <;> rfl

/-- Offering bytes counts no row; that is left to the line feed. -/
theorem rowsWritten_writeBytes :
    (writer.writeBytes device bytes).state.rowsWritten = writer.rowsWritten := by
  unfold writeBytes
  dsimp only
  split <;> rfl

/-- The bytes sent are those that the device says it has taken. -/
theorem sent_writeBytes :
    (writer.writeBytes device bytes).state.sent =
      writer.sent ++ bytes.data.toList.take (device.write bytes writer.device).1 := by
  have output (taken : Nat) :
      (writer.output ++ bytes.extract 0 taken).data.toList =
        writer.sent ++ bytes.data.toList.take taken := by
    rw [ByteArray.data_append, ByteArray.data_extract, Array.toList_append, Array.toList_extract]
    rfl
  unfold writeBytes
  dsimp only
  split <;> exact output _

/-- A device fails when it does not take all bytes. -/
theorem failure_writeBytes_eq_none_iff :
    (writer.writeBytes device bytes).failure = none ↔
      bytes.data.toList.length ≤ (device.write bytes writer.device).1 := by
  have size : bytes.data.toList.length = bytes.size := rfl
  unfold writeBytes
  dsimp only
  split
  · next short => exact ⟨nofun, fun enough => absurd short (Nat.not_lt.mpr enough)⟩
  · next enough => exact ⟨fun _ => Nat.not_lt.mp enough, fun _ => rfl⟩

end

/-- Bytes without a line feed are sent without a row being counted. -/
theorem sends_writeBytes {bytes : ByteArray} (plain : 10 ∉ bytes.data.toList)
    (writer : LineWriter δ) :
    Sends bytes.data.toList writer (writer.writeBytes device bytes) := by
  refine ⟨_, List.take_prefix _ _, sent_writeBytes device bytes writer, ?_, fun clean => ?_⟩
  · rw [rowsWritten_writeBytes,
      List.count_eq_zero_of_not_mem fun among => plain (List.mem_of_mem_take among), Nat.add_zero]
  · exact List.take_of_length_le ((failure_writeBytes_eq_none_iff device bytes writer).mp clean)

/-- A line feed is sent and its row counted, or neither. -/
theorem sends_lineFeed (writer : LineWriter δ) :
    Sends [10] writer
      ((writer.writeBytes device lineFeed).andThen fun writer => .ok writer.countRow) := by
  have whole := failure_writeBytes_eq_none_iff device lineFeed writer
  have sent := sent_writeBytes device lineFeed writer
  have rows := rowsWritten_writeBytes device lineFeed writer
  cases failed : (writer.writeBytes device lineFeed).failure with
  | some failure =>
    have none : (device.write lineFeed writer.device).1 = 0 := by
      rw [failed] at whole
      have short : ¬1 ≤ (device.write lineFeed writer.device).1 := fun enough => nomatch whole.mpr enough
      omega
    rw [none, List.take_zero] at sent
    rw [Attempt.andThen_of_failure failed]
    refine ⟨[], List.nil_prefix, sent, rows, fun clean => ?_⟩
    rw [failed] at clean
    cases clean
  | none =>
    rw [List.take_of_length_le (whole.mp failed)] at sent
    rw [Attempt.andThen_of_clean failed]
    refine ⟨[10], List.prefix_refl _, sent, ?_, fun _ => rfl⟩
    show (writer.writeBytes device lineFeed).state.rowsWritten + 1 = _
    rw [rows]
    rfl

/-- Of a row the writer sends its text and then the line feed. A device that stops in the text gets
no line feed, so no row is counted for it. -/
theorem sends_writeRow (row : Json) (writer : LineWriter δ) :
    Sends (lineOf row) writer (writer.writeRow device row) := by
  rw [writeRow, Attempt.andThen_assoc]
  exact (sends_writeBytes device (notMem_rowBytes row) writer).andThen (sends_lineFeed device)

/-- Of rows the writer sends their lines, one after the other, up to where the device stops. -/
theorem sends_writeRows (rows : List Json) :
    ∀ writer : LineWriter δ, Sends (linesOf rows) writer (writeRows device rows writer) := by
  induction rows with
  | nil => exact fun writer => .of_same rfl rfl
  | cons row rest ih => exact fun writer => (sends_writeRow device row writer).andThen ih

/-- Flushing sends nothing. -/
theorem sends_flush (writer : LineWriter δ) : Sends [] writer (writer.flush device) := by
  unfold flush
  dsimp only
  split
  · exact .of_same rfl rfl
  · exact .of_same rfl rfl

/-- Taking a batch sends its lines. -/
theorem sends_accept (batch : RecordBatch) (writer : LineWriter δ) :
    Sends (linesOf batch.rows) writer ((consumer device).accept batch writer) := by
  have sends := (sends_writeRows device batch.rows writer).andThen (sends_flush device)
  rw [List.append_nil] at sends
  exact sends

/-- Taking batches, up to the first that fails, sends their lines. -/
theorem sends_acceptAll (batches : List RecordBatch) :
    ∀ writer : LineWriter δ, Sends (linesOf (batches.flatMap RecordBatch.rows)) writer
      ((consumer device).acceptAll batches writer) := by
  induction batches with
  | nil => exact fun writer => .of_same rfl rfl
  | cons batch rest ih =>
    intro writer
    rw [linesOf, List.flatMap_cons, List.flatMap_append]
    exact (sends_accept device batch writer).andThen ih

/-! ### Willing devices -/

section

variable {device} (willing : device.Willing)

include willing

/-- A willing device takes all bytes that it is offered. -/
theorem failure_writeBytes (bytes : ByteArray) (writer : LineWriter δ) :
    (writer.writeBytes device bytes).failure = none :=
  (failure_writeBytes_eq_none_iff device bytes writer).mpr (willing.size_le bytes writer.device)

/-- To a willing device a row is written whole. -/
theorem failure_writeRow (row : Json) (writer : LineWriter δ) :
    (writer.writeRow device row).failure = none := by
  have text := failure_writeBytes willing (rowBytes row) writer
  rw [writeRow, Attempt.andThen_of_clean text, Attempt.failure_andThen_eq_none_iff]
  exact ⟨failure_writeBytes willing lineFeed _, rfl⟩

/-- To a willing device all rows are written. -/
theorem failure_writeRows (rows : List Json) :
    ∀ writer : LineWriter δ, (writeRows device rows writer).failure = none := by
  induction rows with
  | nil => exact fun writer => rfl
  | cons row rest ih =>
    intro writer
    rw [writeRows, Attempt.andThen_of_clean (failure_writeRow willing row writer)]
    exact ih _

/-- A willing device can be flushed. -/
theorem failure_flush (writer : LineWriter δ) : (writer.flush device).failure = none := by
  unfold flush
  dsimp only
  rw [willing.flushes writer.device]
  rfl

/-- Batches are all taken by a willing device. -/
theorem failure_acceptAll (batches : List RecordBatch) :
    ∀ writer : LineWriter δ, ((consumer device).acceptAll batches writer).failure = none := by
  induction batches with
  | nil => exact fun writer => rfl
  | cons batch rest ih =>
    intro writer
    have taken : ((consumer device).accept batch writer).failure = none :=
      (Attempt.failure_andThen_eq_none_iff _ _).mpr
        ⟨failure_writeRows willing batch.rows writer, failure_flush willing _⟩
    rw [Consumer.acceptAll, Attempt.andThen_of_clean taken]
    exact ih _

end

end LineWriter

end Columnar
