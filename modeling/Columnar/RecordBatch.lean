import Columnar.Column.ChildCounts
import Columnar.Column.Read
import Columnar.DataType.Validity
/-!
# Batches of rows

A batch holds rows of one struct type, up to a fixed number, with one column for each field of the
type. It is allocated once and used again after a reset.
-/

set_option autoImplicit false

namespace Columnar

/-- Rows of a type, in columns. -/
structure RecordBatch where
  type : DataType
  capacity : Nat
  size : Nat
  columns : List (String × Column)

namespace RecordBatch

/-- How many rows a batch holds if nothing is said. -/
def defaultCapacity : Nat := 1024

/-- An empty batch for rows of a type. -/
def allocate (type : DataType) (capacity : Nat) : Except Failure RecordBatch := do
  if capacity = 0 then .error .zeroCapacity
  type.validateRoot
  return ⟨type, capacity, 0, Column.allocateFields capacity type.fields⟩

/-- Whether a batch has no row. -/
def isEmpty (batch : RecordBatch) : Bool := batch.size == 0

/-- Whether a batch has no room for another row. -/
def isFull (batch : RecordBatch) : Bool := batch.size == batch.capacity

/-- The column at a position. -/
def column? (batch : RecordBatch) (index : Nat) : Option Column :=
  batch.columns[index]?.map Prod.snd

/-- The column of a field. -/
def columnNamed? (batch : RecordBatch) (name : String) : Option Column :=
  batch.columns.lookup name

/-- A batch without rows; its columns keep their slots. -/
def reset (batch : RecordBatch) : RecordBatch :=
  { batch with size := 0, columns := Column.resetFields batch.columns }

/-- A batch whose lists and maps may or may not grow their children. -/
def setGrowable (batch : RecordBatch) (growable : Bool) : RecordBatch :=
  { batch with columns := Column.setGrowableFields growable batch.columns }

/-- The child counts of all columns, one column after the other. -/
def childCounts (batch : RecordBatch) : List Nat :=
  Column.childCountsFields batch.columns

/-- A batch with child counts put back. -/
def restore (batch : RecordBatch) (counts : List Nat) : RecordBatch :=
  { batch with columns := (Column.restoreFields batch.columns counts).1 }

/-- The value of a row that the batch has. -/
def row? (batch : RecordBatch) (row : Nat) : Option Json :=
  if row < batch.size then some (.objectOf (Column.fieldValues batch.columns row)) else none

/-- The values of the rows, in order. -/
def rows (batch : RecordBatch) : List Json :=
  (List.range batch.size).filterMap batch.row?

/-- Every row that is counted can be read, so a batch has as many rows as it says. -/
theorem length_rows (batch : RecordBatch) : batch.rows.length = batch.size := by
  have present : ∀ row ∈ List.range batch.size, (batch.row? row).isSome = true := by
    intro row inside
    rw [row?, if_pos (List.mem_range.mp inside)]
    rfl
  rw [rows, List.length_filterMap_eq_countP, List.countP_eq_length.mpr present, List.length_range]

end RecordBatch

end Columnar
