import Columnar.Proofs.Column.Flags
import Columnar.Proofs.RecordBatch.Rows
/-!
# What a failed write leaves for the next one

A write that fails counts no row, so the next record goes into the same row. Values, spans and child
slots of the failed write are out of its reach, but flags are not: a cell that the failed write made
null stays null whatever is written into it. So the next row is what it would be without the failed
write exactly if it has nothing but null in the cells that the failed write flagged
(`row_after_failed_write_iff`), and it is something else otherwise (`row_after_failed_write_ne`).
-/

set_option autoImplicit false

namespace Columnar

open Column (Fits FreeFrom FreeFieldsFrom flagged nulled stored valueAt)

namespace RecordBatch

/-- The columns of a batch as the fields of one struct column without null rows. -/
def root (batch : RecordBatch) : Column :=
  .struct (.ofSize batch.capacity) batch.columns

/-- A batch of the right shape in which no row behind the next one is flagged. -/
structure Spare (type : DataType) (batch : RecordBatch) : Prop where
  shaped : Shaped true type batch
  free : FreeFieldsFrom (batch.size + 1) batch.columns

variable {type : DataType} {batch : RecordBatch}

/-- The columns of a batch are the fields of a struct column of its type. -/
theorem fits_root {growable : Bool} (shaped : Shaped growable type batch) :
    Fits growable type batch.root := by
  obtain ⟨attributes, same⟩ := shaped.exists_struct
  have fits := shaped.fits
  rw [same]
  refine ⟨NullMask.consistent_ofSize _, ?_⟩
  rw [NullMask.size_ofSize]
  exact fits

/-- A row of a batch is what the struct column of its columns reads as there. -/
theorem row?_eq_root {row : Nat} (inside : row < batch.size) :
    batch.row? row = some (valueAt batch.root row) := by
  rw [row?, if_pos inside, root, valueAt, NullMask.isNull_ofSize]
  rfl

/-- Where a batch is free behind its next row, so is the struct column of its columns. -/
theorem Spare.freeFrom_root (spare : Spare type batch) :
    FreeFrom (batch.size + 1) batch.root :=
  ⟨fun row _ => NullMask.isNull_ofSize _ row, spare.free⟩

end RecordBatch

namespace RecordEncoder

open RecordBatch

variable {encoder : RecordEncoder} {type : DataType} {batch : RecordBatch}

/-- The columns of a batch are written like a struct column. -/
theorem root_write (spare : Spare encoder.type batch) (room : batch.isFull = false)
    (record : Json.Members) :
    (encoder.write record batch).state.root =
      (Column.write encoder.policy encoder.type (.object record) batch.size batch.root).state := by
  obtain ⟨attributes, same⟩ := spare.shaped.exists_struct
  have fits := fits_root spare.shaped
  rw [same] at fits
  have written := Column.write_struct fits encoder.policy record batch.size
  rw [← same] at written
  unfold root
  rw [written, write_of_room record spare.shaped.type_eq.symm room]
  rfl

/-- A write, of whatever record by whatever encoder, flags no row behind the next one. -/
theorem spare_write (spare : Spare type batch) (encoder : RecordEncoder) (record : Json.Members) :
    Spare type (encoder.write record batch).state := by
  refine ⟨shaped_write spare.shaped encoder record, ?_⟩
  obtain ⟨room, sameType⟩ | same := writes_or_keeps encoder record batch
  · have fits := spare.shaped.fits
    rw [← spare.shaped.type_eq, ← sameType] at fits
    have free := Column.freeFieldsFrom_writeFields true encoder.policy encoder.type.fields record
      batch.size batch.capacity batch.columns (batch.size + 1) fits (Nat.lt_succ_self _) spare.free
    rw [write_of_room record sameType room]
    refine Column.FreeFieldsFrom.mono ?_ _ free
    dsimp only
    split <;> omega
  · rw [same]
    exact spare.free

/-- Any number of writes, failed ones too, leave a batch free behind its next row, since each of
them flags no row behind its own. -/
theorem spare_performAll (writes : List (RecordEncoder × Json.Members)) :
    ∀ {batch : RecordBatch}, Spare type batch →
      Spare type (batch.performAll (writes.map fun write => .write write.1 write.2)) := by
  induction writes with
  | nil => exact fun spare => spare
  | cons write rest ih => exact fun spare => ih (spare_write spare write.1 write.2)

/-- Where child columns may grow, a record is refused for its first fault. -/
theorem failure_write (spare : Spare encoder.type batch) (room : batch.isFull = false)
    (record : Json.Members) :
    (encoder.write record batch).failure =
      Column.faultFields encoder.policy encoder.type.fields record :=
  (blamed_write spare.shaped room record).of_growable

/-- A record that is written reads as what it is stored as, but for the cells that were flagged
before. -/
theorem row?_write (spare : Spare encoder.type batch) {record : Json.Members}
    (clean : (encoder.write record batch).failure = none) :
    (encoder.write record batch).state.row? batch.size =
      some ((storedRecord encoder.policy encoder.type record).veil
        (flagged batch.root batch.size)) := by
  have room := isFull_of_write record clean
  have less := (isFull_eq_false spare.shaped).mp room
  have sound := failure_write spare room record
  rw [clean] at sound
  obtain ⟨attributes, same⟩ := spare.shaped.exists_struct
  have faultless : Column.fault encoder.policy encoder.type (.object record) = none := by
    rw [same]
    exact sound.symm
  have wellFormed : encoder.type.WellFormed := by
    obtain ⟨_, _, _, wellFormed⟩ := (DataType.validateRoot_eq_ok_iff _).mp spare.shaped.valid
    exact wellFormed
  have reads := Column.valueAt_write encoder.policy encoder.type wellFormed (.object record)
    batch.size batch.root (fits_root spare.shaped)
    (by simpa [root, Column.slots] using less) spare.freeFrom_root faultless
  have counted : batch.size < (encoder.write record batch).state.size := by
    rw [size_write_of_clean record clean]
    exact Nat.lt_succ_self _
  rw [row?_eq_root counted, root_write spare room, reads]
  rfl

/-- The flags that a write leaves in its row. -/
theorem flagged_write (spare : Spare encoder.type batch) (room : batch.isFull = false)
    (record : Json.Members) (path : List String) :
    flagged (encoder.write record batch).state.root batch.size path =
      (flagged batch.root batch.size path ||
        (nulled encoder.policy encoder.type (.object record)).contains path) := by
  have less := (isFull_eq_false spare.shaped).mp room
  rw [root_write spare room]
  exact Column.flagged_write encoder.policy encoder.type (.object record) batch.size batch.root
    (fits_root spare.shaped) (by simpa [root, Column.slots] using less) path

/-- A record that is written after another one failed reads as it would without it, but for the cells
that the failed write flagged. -/
theorem row?_write_of_failed (spare : Spare encoder.type batch) {refused kept : Json.Members}
    (failed : (encoder.write refused batch).failure ≠ none)
    (clean : (encoder.write kept (encoder.write refused batch).state).failure = none) :
    ∃ row, (encoder.write kept batch).failure = none ∧
      (encoder.write kept batch).state.row? batch.size = some row ∧
      (encoder.write kept (encoder.write refused batch).state).state.row? batch.size =
        some (row.veil fun path =>
          (nulled encoder.policy encoder.type (.object refused)).contains path) := by
  obtain ⟨failure, failed⟩ := Option.ne_none_iff_exists'.mp failed
  have spare' := spare_write spare encoder refused
  have same_size := size_write_of_failure encoder refused batch failure failed
  have room' := isFull_of_write kept clean
  have room : batch.isFull = false := by
    rw [isFull_eq_false spare.shaped, ← same_size, ← capacity_write encoder refused batch]
    exact (isFull_eq_false spare'.shaped).mp room'
  have sound := failure_write spare' room' kept
  have clean' : (encoder.write kept batch).failure = none := by
    rw [failure_write spare room kept, ← sound, clean]
  have row := row?_write spare clean'
  have row' := row?_write spare' clean
  rw [same_size] at row'
  refine ⟨_, clean', row, ?_⟩
  rw [row', Json.veil_veil, funext (flagged_write spare room refused)]

end RecordEncoder

/-- A write that failed is seen in the next row exactly where it flagged a cell that the next record
gives a value. A batch is reached from a new one by any writes, a record is refused, and another one
is written into the same row. Then that one is written without the refused record too, and its row is
the same both times exactly if it has nothing but null in the cells that the refused record made null
up to where it failed. -/
theorem row_after_failed_write_iff {type : DataType} (valid : type.validateRoot = .ok ())
    {capacity : Nat} (positive : 0 < capacity) (policy : CellPolicy)
    (writes : List (RecordEncoder × Json.Members)) (refused kept : Json.Members) :
    ∃ encoder fresh, RecordEncoder.ofType type policy = .ok encoder ∧
      encoder.allocateBatch capacity = .ok fresh ∧
      let batch := fresh.performAll (writes.map fun write => .write write.1 write.2)
      let tried := encoder.write refused batch
      tried.failure ≠ none → (encoder.write kept tried.state).failure = none →
        (encoder.write kept batch).failure = none ∧
        ∃ row, (encoder.write kept batch).state.row? batch.size = some row ∧
          ((encoder.write kept tried.state).state.row? batch.size = some row ↔
            ∀ path ∈ nulled policy type (.object refused), ∀ cell,
              row.Reaches path cell → cell = .null) := by
  obtain ⟨fresh, allocated, shaped, empty, -, free⟩ := RecordBatch.exists_allocate valid positive
  refine ⟨⟨type, policy⟩, fresh, ?_, allocated, ?_⟩
  · rw [RecordEncoder.ofType, valid]
    rfl
  intro batch tried failed clean
  have begun : RecordBatch.Spare type fresh :=
    ⟨shaped, Column.FreeFieldsFrom.mono (Nat.zero_le _) _ free⟩
  have spare : RecordBatch.Spare (RecordEncoder.mk type policy).type batch :=
    RecordEncoder.spare_performAll writes begun
  obtain ⟨row, clean', without, after⟩ := RecordEncoder.row?_write_of_failed spare failed clean
  refine ⟨clean', row, without, ?_⟩
  rw [after, Option.some.injEq, Json.veil_eq_self_iff]
  simp only [List.contains_iff_mem]
  constructor
  · intro null path among cell reaches
    exact null path cell among reaches
  · intro null path cell among reaches
    exact null path among cell reaches

/-- A member that is missing from the next record is null with or without the flag. -/
theorem row_after_failed_write_iff_missing :
    let inner := DataType.struct .default
      [("b", .ofPrimitive (.integer .regular)), ("c", .ofPrimitive (.integer .regular))]
    let type := DataType.struct .default [("a", inner)]
    let encoder : RecordEncoder := ⟨type, .abort⟩
    let fresh : RecordBatch := ⟨type, 4, 0, Column.allocateFields 4 type.fields⟩
    let refused : Json.Members := [("a", .object [("b", .null), ("c", .text "x")])]
    let kept : Json.Members := [("a", .object [("c", .int 3)])]
    let tried := encoder.write refused fresh
    type.validateRoot = .ok () ∧ tried.failure ≠ none ∧
      (encoder.write kept tried.state).failure = none ∧
      (encoder.write kept tried.state).state.row? 0 =
        some (.object [("a", .object [("b", .null), ("c", .int 3)])]) := by
  intro inner type encoder fresh refused kept tried
  have valid : type.validateRoot = .ok () := rfl
  have typed : RecordEncoder.ofType type .abort = .ok encoder := rfl
  have allocated : encoder.allocateBatch 4 = .ok fresh := rfl
  have failed : tried.failure ≠ none := by decide +kernel
  have clean : (encoder.write kept tried.state).failure = none := by decide +kernel
  obtain ⟨_, _, same, same', sees⟩ :=
    row_after_failed_write_iff valid (Nat.succ_pos 3) .abort [] refused kept
  cases typed.symm.trans same
  cases allocated.symm.trans same'
  obtain ⟨-, row, without, sees⟩ := sees failed clean
  have row_eq : row = .object [("a", .object [("b", .null), ("c", .int 3)])] := by
    have direct : (encoder.write kept fresh).state.row? 0 =
        some (.object [("a", .object [("b", .null), ("c", .int 3)])]) := rfl
    exact Option.some.inj (without.symm.trans direct)
  have flags : Column.nulled .abort type (.object refused) = [["a", "b"]] := by decide +kernel
  rw [row_eq] at sees
  refine ⟨valid, failed, clean, sees.mpr ?_⟩
  intro path among cell reaches
  rw [flags, List.mem_singleton] at among
  subst among
  simpa [Json.Reaches] using reaches

/-- A record with a value where the failed write flagged a cell loses that value. -/
theorem row_after_failed_write_ne :
    let type := DataType.struct .default
      [("a", .ofPrimitive (.integer .regular)), ("b", .ofPrimitive (.integer .regular))]
    let encoder : RecordEncoder := ⟨type, .abort⟩
    let fresh : RecordBatch := ⟨type, 4, 0, Column.allocateFields 4 type.fields⟩
    let tried := encoder.write [("a", .null), ("b", .text "x")] fresh
    let kept : Json.Members := [("a", .int 1), ("b", .int 2)]
    RecordEncoder.ofType type .abort = .ok encoder ∧ encoder.allocateBatch 4 = .ok fresh ∧
      tried.failure ≠ none ∧ (encoder.write kept tried.state).failure = none ∧
      (encoder.write kept tried.state).state.row? 0 ≠ (encoder.write kept fresh).state.row? 0 := by
  intro type encoder fresh tried kept
  have failed : tried.failure ≠ none := by decide +kernel
  have clean : (encoder.write kept tried.state).failure = none := by decide +kernel
  have after : (encoder.write kept tried.state).state.row? 0 =
      some (.object [("a", .null), ("b", .int 2)]) := rfl
  have without : (encoder.write kept fresh).state.row? 0 =
      some (.object [("a", .int 1), ("b", .int 2)]) := rfl
  refine ⟨rfl, rfl, failed, clean, ?_⟩
  rw [after, without]
  intro same
  simp at same

end Columnar
