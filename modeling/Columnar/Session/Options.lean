import Columnar.Column.Write
import Columnar.RecordBatch
/-!
# Options of a session

How many rows a batch holds, and what a session does about input that is not a record, values that
their cells cannot store, and child columns that are full.
-/

set_option autoImplicit false

namespace Columnar

/-- What becomes of input that is not a record. -/
inductive RecordPolicy where
  /-- It is counted and left out. -/
  | skip
  /-- The session fails. -/
  | abort
deriving DecidableEq

/-- What becomes of a record for whose children there is no room. -/
inductive OverflowPolicy where
  /-- The child columns grow. -/
  | grow
  /-- The record goes into the next batch. Child columns grow only for a record that has an empty
  batch to itself. -/
  | defer
deriving DecidableEq

/-- The options of a session. -/
structure Options where
  capacity : Nat
  onMalformed : RecordPolicy
  onNotObject : RecordPolicy
  onCellFailure : CellPolicy
  onOverflow : OverflowPolicy
deriving DecidableEq

/-- The options of a session for which nothing is said. -/
def Options.default : Options :=
  ⟨RecordBatch.defaultCapacity, .skip, .skip, .abort, .grow⟩

/-- The attribute under which hosts note how many rows their output has. -/
def recordCountAttribute : String := "record.count"

end Columnar
