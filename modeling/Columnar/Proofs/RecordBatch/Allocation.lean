import Columnar.Proofs.Column.Allocation
import Columnar.Proofs.RecordBatch.Layout
/-!
# Slots and growth of a batch

The slots of all columns of a batch, and which of its lists and maps may grow their children. A batch
of the right shape has one permission everywhere, and as long as it is not to grow, nothing that is
done to it changes its slots.
-/

set_option autoImplicit false

namespace Columnar

namespace RecordBatch

/-- How many slots the columns of a batch have, at every depth. -/
def allocation (batch : RecordBatch) : List Nat :=
  Column.allocationFields batch.columns

/-- For each list and map of a batch, at every depth, whether it may grow its children. -/
def growables (batch : RecordBatch) : List Bool :=
  Column.growablesFields batch.columns

variable {growable : Bool} {type : DataType} {batch : RecordBatch}

/-- A batch of the right shape has one permission everywhere. -/
theorem Shaped.growables_eq (shaped : Shaped growable type batch) :
    ∀ flag ∈ batch.growables, flag = growable :=
  Column.growablesFields_of_fits type.fields batch.capacity batch.columns shaped.fits

/-- A batch of the right shape has it with whatever permission its lists and maps turn out to have.
-/
theorem Shaped.of_growables (shaped : Shaped growable type batch) {allowed : Bool}
    (same : ∀ flag ∈ batch.growables, flag = allowed) : Shaped allowed type batch :=
  ⟨shaped.valid, shaped.type_eq, shaped.size_le,
    Column.FitsFields.of_growables allowed type.fields batch.capacity batch.columns shaped.fits same⟩

@[simp] theorem allocation_reset (batch : RecordBatch) : batch.reset.allocation = batch.allocation :=
  Column.allocationFields_reset batch.columns

@[simp] theorem allocation_restore (batch : RecordBatch) (counts : List Nat) :
    (batch.restore counts).allocation = batch.allocation :=
  Column.allocationFields_restore batch.columns counts

end RecordBatch

/-- A write into a batch that must not grow changes no number of slots, whether it fails or not. -/
theorem RecordEncoder.allocation_write {type : DataType} {batch : RecordBatch}
    (shaped : RecordBatch.Shaped false type batch) (encoder : RecordEncoder) (record : Json.Members) :
    (encoder.write record batch).state.allocation = batch.allocation := by
  obtain ⟨room, sameType⟩ | same := writes_or_keeps encoder record batch
  · have fits := shaped.fits
    rw [← shaped.type_eq, ← sameType] at fits
    rw [write_of_room record sameType room]
    exact Column.allocationFields_writeFields encoder.policy encoder.type.fields batch.capacity record
      batch.size batch.columns fits
  · rw [same]

end Columnar
