import Columnar.Proofs.Column.ReadBack
import Columnar.Proofs.RecordBatch.Layout
/-!
# Rows that are written again

The row that a record becomes is itself a record. Written into another new batch of the type, under
the policy that lets no fault pass, it becomes the same row (`row_of_row`): a row holds only values
that are stored as they are.
-/

set_option autoImplicit false

namespace Columnar

open Column (storedFields)

/-- A record without a fault is written into a new batch, and becomes its first row. -/
theorem RecordEncoder.row?_write_of_fault_eq_none {policy : CellPolicy} {type : DataType}
    {fresh : RecordBatch} (shaped : RecordBatch.Shaped true type fresh) (empty : fresh.size = 0)
    (positive : 0 < fresh.capacity) (free : Column.FreeFieldsFrom 0 fresh.columns)
    {record : Json.Members} (sound : Column.faultFields policy type.fields record = none) :
    ((RecordEncoder.mk type policy).write record fresh).failure = none ∧
      ((RecordEncoder.mk type policy).write record fresh).state.row? 0 =
        some (storedRecord policy type record) := by
  have room : fresh.isFull = false := by
    rw [RecordEncoder.isFull_eq_false shaped, empty]
    exact positive
  let encoder : RecordEncoder := ⟨type, policy⟩
  have shaped : RecordBatch.Shaped true encoder.type fresh := shaped
  have blamed := RecordEncoder.blamed_write shaped room record
  have clean := blamed.of_growable.trans sound
  have stores := RecordEncoder.stores_write shaped
    (RecordBatch.stores_nil shaped empty free [record]) clean
  have after := RecordEncoder.shaped_write shaped encoder record
  exact ⟨clean, RecordBatch.row?_eq after stores.size_eq stores.holds rfl⟩

/-- What a record is stored as is a record without a fault, and is stored as it is. -/
theorem exists_storedRecord {type : DataType} (valid : type.validateRoot = .ok ())
    {policy : CellPolicy} {record : Json.Members}
    (sound : Column.faultFields policy type.fields record = none) :
    ∃ row, storedRecord policy type record = .object row ∧
      Column.faultFields .abort type.fields row = none ∧
      storedRecord .abort type row = .object row := by
  obtain ⟨attributes, fields, rfl, wellFormed⟩ := (DataType.validateRoot_eq_ok_iff type).mp valid
  have distinct : ((storedFields policy fields record).map Prod.fst).Nodup := by
    rw [Column.names_storedFields]
    rw [DataType.WellFormed] at wellFormed
    exact wellFormed.1
  have reads : storedRecord policy (.struct attributes fields) record =
      .object (storedFields policy fields record) := Json.objectOf_of_nodup distinct
  have stays := Column.stays_stored (.struct attributes fields) wellFormed (.object record) sound
  rw [storedRecord] at reads
  rw [reads] at stays
  exact ⟨storedFields policy fields record, reads, stays.sound, stays.stored_eq⟩

/-- The row of a record, written as a record itself, becomes the same row. The batches are new and
their child columns may grow. -/
theorem row_of_row {type : DataType} (valid : type.validateRoot = .ok ()) (policy : CellPolicy)
    {capacity capacity' : Nat} (positive : 0 < capacity) (positive' : 0 < capacity')
    (record : Json.Members) :
    ∃ encoder strict fresh other, RecordEncoder.ofType type policy = .ok encoder ∧
      RecordEncoder.ofType type .abort = .ok strict ∧
      encoder.allocateBatch capacity = .ok fresh ∧ strict.allocateBatch capacity' = .ok other ∧
      ((encoder.write record fresh).failure = none →
        ∃ row, (encoder.write record fresh).state.row? 0 = some (.object row) ∧
          (strict.write row other).failure = none ∧
          (strict.write row other).state.row? 0 = some (.object row)) := by
  obtain ⟨fresh, allocated, shaped, empty, same, free⟩ :=
    RecordBatch.exists_allocate valid positive
  obtain ⟨other, allocated', shaped', empty', same', free'⟩ :=
    RecordBatch.exists_allocate valid positive'
  have typed : ∀ policy, RecordEncoder.ofType type policy = .ok ⟨type, policy⟩ := by
    intro policy
    rw [RecordEncoder.ofType, valid]
    rfl
  refine ⟨⟨type, policy⟩, ⟨type, .abort⟩, fresh, other, typed policy, typed .abort, allocated,
    allocated', fun clean => ?_⟩
  have room : fresh.isFull = false := RecordEncoder.isFull_of_write record clean
  have typedShape : RecordBatch.Shaped true (RecordEncoder.mk type policy).type fresh := shaped
  have blamed := RecordEncoder.blamed_write typedShape room record
  have sound := blamed.of_growable.symm.trans clean
  obtain ⟨row, reads, noFault, stays⟩ := exists_storedRecord valid sound
  obtain ⟨-, first⟩ := RecordEncoder.row?_write_of_fault_eq_none shaped empty (same ▸ positive) free
    sound
  obtain ⟨again, second⟩ := RecordEncoder.row?_write_of_fault_eq_none shaped' empty'
    (same' ▸ positive') free' noFault
  exact ⟨row, first.trans (congrArg some reads), again, second.trans (congrArg some stays)⟩

/-- A row with a rounded decimal, a narrowed integer and a list that holds a null. -/
theorem row_of_row_rounded :
    let type := DataType.struct .default
      [("a", .leaf .decimal ⟨5, 1, 0⟩ []), ("b", .listOf (.ofPrimitive (.integer .tiny)))]
    let record : Json.Members := [("a", .text "7.25"), ("b", .array [.int 300, .null])]
    let fresh : RecordBatch := ⟨type, 1, 0, Column.allocateFields 1 type.fields⟩
    let once := (RecordEncoder.mk type .nullCell).write record fresh
    once.failure = none ∧
      ∃ row, once.state.row? 0 = some (.object row) ∧
        ((RecordEncoder.mk type .abort).write row fresh).failure = none ∧
        ((RecordEncoder.mk type .abort).write row fresh).state.row? 0 = some (.object row) := by
  intro type record fresh once
  have valid : type.validateRoot = .ok () := rfl
  have clean : once.failure = none := by decide +kernel
  obtain ⟨_, _, _, _, typed, typed', allocated, allocated', again⟩ :=
    row_of_row valid .nullCell Nat.one_pos Nat.one_pos record
  cases typed
  cases typed'
  cases allocated
  cases allocated'
  exact ⟨clean, again clean⟩

end Columnar
