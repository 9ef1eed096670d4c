import Columnar.Consumer.Basic
import Columnar.Json.Printer
/-!
# Rows as lines of JSON

A line writer writes the rows of each batch to a device, every row as one line of compact JSON, and
flushes the device behind the last row. A row counts as written once its line feed is.
-/

set_option autoImplicit false

namespace Columnar

/-- An output device with states of a type. It takes some first part of the bytes that it is offered,
and fails when that is not all of them; a flush goes through or not. -/
structure Device (δ : Type) where
  write : ByteArray → δ → Nat × δ
  flush : δ → Bool × δ

/-- A device being written to, the bytes that it took, and how many rows were written. -/
structure LineWriter (δ : Type) where
  device : δ
  output : ByteArray
  rowsWritten : Nat

namespace LineWriter

variable {δ : Type}

/-- The writer of a device to which nothing was written. -/
def ofDevice (device : δ) : LineWriter δ := ⟨device, .empty, 0⟩

/-- Writes bytes. -/
def writeBytes (device : Device δ) (bytes : ByteArray) (writer : LineWriter δ) :
    Attempt (LineWriter δ) :=
  let (taken, state) := device.write bytes writer.device
  let writer := { writer with device := state, output := writer.output ++ bytes.extract 0 taken }
  if taken < bytes.size then .failed writer .unwritableOutput else .ok writer

/-- The bytes of a row without its line feed. -/
def rowBytes (row : Json) : ByteArray :=
  row.render.toUTF8

/-- The line feed behind a row. -/
def lineFeed : ByteArray := ⟨#[10]⟩

/-- Counts a row. -/
def countRow (writer : LineWriter δ) : LineWriter δ :=
  { writer with rowsWritten := writer.rowsWritten + 1 }

/-- Writes a row and its line feed. -/
def writeRow (device : Device δ) (row : Json) (writer : LineWriter δ) :
    Attempt (LineWriter δ) :=
  ((writer.writeBytes device (rowBytes row)).andThen (writeBytes device lineFeed)).andThen
    fun writer => .ok writer.countRow

/-- Writes rows in order. -/
def writeRows (device : Device δ) : List Json → LineWriter δ → Attempt (LineWriter δ)
  | [], writer => .ok writer
  | row :: rows, writer => (writer.writeRow device row).andThen (writeRows device rows)

/-- Flushes the device. -/
def flush (device : Device δ) (writer : LineWriter δ) : Attempt (LineWriter δ) :=
  let (flushed, state) := device.flush writer.device
  let writer := { writer with device := state }
  if flushed then .ok writer else .failed writer .unwritableOutput

/-- Line writers of a device as a consumer. -/
def consumer (device : Device δ) : Consumer (LineWriter δ) where
  accept batch writer := (writeRows device batch.rows writer).andThen (flush device)

end LineWriter

end Columnar
