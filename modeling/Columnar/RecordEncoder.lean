import Columnar.Column.Write
import Columnar.RecordBatch
/-!
# Writing records into batches

An encoder writes JSON objects of one struct type as rows of a batch of that type. A row is counted
once all of it is written; what a failed write leaves in the columns lies behind the counted rows.
-/

set_option autoImplicit false

namespace Columnar

/-- What writes records of a type. -/
structure RecordEncoder where
  type : DataType
  policy : CellPolicy

namespace RecordEncoder

/-- The encoder for records of a type. -/
def ofType (type : DataType) (policy : CellPolicy) : Except Failure RecordEncoder := do
  type.validateRoot
  return ⟨type, policy⟩

/-- An empty batch for the records of an encoder. -/
def allocateBatch (encoder : RecordEncoder) (capacity : Nat) : Except Failure RecordBatch :=
  RecordBatch.allocate encoder.type capacity

/-- Writes a record behind the rows of a batch and counts it. -/
def write (encoder : RecordEncoder) (record : Json.Members) (batch : RecordBatch) :
    Attempt RecordBatch :=
  if batch.isFull then .failed batch (.batchFull batch.capacity)
  else if encoder.type = batch.type then
    let written :=
      Column.writeFields encoder.policy encoder.type.fields record batch.size batch.columns
    match written.failure with
    | some failure => .failed { batch with columns := written.state } failure
    | none => .ok { batch with columns := written.state, size := batch.size + 1 }
  else .failed batch (.typesDiffer encoder.type batch.type)

/-- A failed write counts no row. -/
theorem size_write_of_failure (encoder : RecordEncoder) (record : Json.Members)
    (batch : RecordBatch) (failure : Failure)
    (h : (encoder.write record batch).failure = some failure) :
    (encoder.write record batch).state.size = batch.size := by
  revert h
  unfold write
  dsimp only
  split
  · intro _; rfl
  · split
    · split
      · intro _; rfl
      · intro h; exact absurd h (by simp [Attempt.ok])
    · intro _; rfl

end RecordEncoder

end Columnar
