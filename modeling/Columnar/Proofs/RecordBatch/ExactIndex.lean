import Columnar.Proofs.Column.ExactIndex
import Columnar.Proofs.RecordBatch.Layout
/-!
# Batches with exact child indexes

The rows of a batch are the live rows of its columns. A batch that stores records, and had taken no
child slots when the first of them was written, has exact child indexes for them.
-/

set_option autoImplicit false

namespace Columnar.RecordBatch

open Column (ExactFields VacantFields)

variable {policy : CellPolicy} {growable : Bool} {type : DataType} {batch : RecordBatch}
  {origins : List (String × Column)} {written due : List Json.Members}

/-- The child index of every list and map in a batch is exact for its rows, which are the given
records. -/
def Exact (records : List Json.Members) (batch : RecordBatch) : Prop :=
  ExactFields batch.columns (numbered 0 records)

/-- A new batch has taken no child slots. -/
theorem vacantFields_of_allocate {capacity : Nat} (allocated : allocate type capacity = .ok batch) :
    VacantFields batch.columns := by
  obtain ⟨-, -, rfl⟩ := eq_of_allocate allocated
  exact Column.vacantFields_allocate capacity type.fields

/-- The rows of a batch that stores records are those of the records, all of them open. -/
theorem opened_recordSlots (records : List Json.Members) (start : Nat) :
    Column.opened Column.members? start (recordSlots records) = numbered start records := by
  induction records generalizing start with
  | nil => rfl
  | cons record rest ih =>
    rw [Column.numbered_cons, ← ih]
    exact Column.opened_cons start (some (.object record)) (recordSlots rest)

/-- What a batch stores is indexed exactly. -/
theorem Stores.exact (stores : Stores policy origins written due batch)
    (shaped : Shaped growable type batch) (vacant : VacantFields origins) : batch.Exact written := by
  obtain ⟨-, holds, taken⟩ := stores
  have fits := shaped.fits
  rw [RecordBatch.Holds, shaped.type_eq] at holds
  rw [shaped.type_eq] at taken
  have indexed := Column.exactFields_of_holds type.fields origins batch.capacity batch.columns _ fits
    holds taken vacant
  rw [recordPlan, opened_recordSlots] at indexed
  exact indexed

end Columnar.RecordBatch
