import Columnar.Proofs.Column.Free
import Columnar.Proofs.Column.LayoutWrite
import Columnar.Proofs.DataType.WellFormed
import Columnar.RecordEncoder
/-!
# Batches that store records

The columns of a batch together are the fields of a struct column, its rows the slots of that column.
A batch stores records when its columns hold the plan that these records make. Allocating, writing,
resetting and putting child counts back are described here once, in terms of the records stored, and
the rows of a batch are read off them.
-/

set_option autoImplicit false

namespace Columnar

open Column (FitsFields HoldsFields TakenFields FreeFieldsFrom stored storedFields fault faultFields
  Blamed)

/-- The slots that records fill. -/
def recordSlots (records : List Json.Members) : List (Option Json) :=
  records.map fun record => some (.object record)

/-- The plan of a batch that has some records as its rows and is to have others. -/
def recordPlan (written due : List Json.Members) : Plan :=
  ⟨0, recordSlots written, recordSlots due⟩

/-- What a record of a type reads as once it was stored. -/
def storedRecord (policy : CellPolicy) (type : DataType) (record : Json.Members) : Json :=
  stored policy type (.object record)

namespace RecordBatch

/-- A batch has columns of the shape of a record type, with enough slots for its rows. -/
structure Shaped (growable : Bool) (type : DataType) (batch : RecordBatch) : Prop where
  valid : type.validateRoot = .ok ()
  type_eq : batch.type = type
  size_le : batch.size ≤ batch.capacity
  fits : FitsFields growable batch.capacity type.fields batch.columns

/-- The columns of a batch hold records as a plan says, from its first row on. -/
def Holds (policy : CellPolicy) (origins : List (String × Column)) (written due : List Json.Members)
    (batch : RecordBatch) : Prop :=
  HoldsFields policy batch.type.fields origins (recordPlan written due) batch.columns

/-- A batch stores some records as its rows, and may have traces only of others that are due. -/
structure Stores (policy : CellPolicy) (origins : List (String × Column))
    (written due : List Json.Members) (batch : RecordBatch) : Prop where
  size_eq : batch.size = written.length
  holds : batch.Holds policy origins written due
  taken : TakenFields batch.type.fields origins (recordSlots written) batch.columns

variable {policy : CellPolicy} {growable : Bool} {type : DataType} {batch : RecordBatch}
  {origins : List (String × Column)} {written due : List Json.Members}

/-! ### Batches of the right shape -/

/-- Only for record types is a batch allocated, and only with room for a row. -/
theorem eq_of_allocate {capacity : Nat} (allocated : allocate type capacity = .ok batch) :
    type.validateRoot = .ok () ∧ 0 < capacity ∧
      batch = ⟨type, capacity, 0, Column.allocateFields capacity type.fields⟩ := by
  unfold allocate at allocated
  split at allocated
  · cases allocated
  · next notZero =>
    cases valid : type.validateRoot with
    | error failure =>
      rw [valid] at allocated
      cases allocated
    | ok _ =>
      rw [valid] at allocated
      cases allocated
      exact ⟨rfl, Nat.pos_of_ne_zero notZero, rfl⟩

/-- A batch is allocated for every record type and every number of rows but zero. -/
theorem exists_allocate (valid : type.validateRoot = .ok ()) {capacity : Nat}
    (positive : 0 < capacity) :
    ∃ batch, allocate type capacity = .ok batch ∧ Shaped true type batch ∧ batch.size = 0 ∧
      batch.capacity = capacity ∧ FreeFieldsFrom 0 batch.columns := by
  refine ⟨⟨type, capacity, 0, Column.allocateFields capacity type.fields⟩, ?_, ?_, rfl, rfl, ?_⟩
  · have notZero : capacity ≠ 0 := Nat.pos_iff_ne_zero.mp positive
    unfold allocate
    rw [if_neg notZero, valid]
    rfl
  · exact ⟨valid, rfl, Nat.zero_le _, Column.fitsFields_allocate capacity type.fields⟩
  · exact Column.freeFieldsFrom_allocate capacity type.fields

/-- A reset leaves the shape of a batch. -/
theorem Shaped.reset (shaped : Shaped growable type batch) : Shaped growable type batch.reset :=
  ⟨shaped.valid, shaped.type_eq, Nat.zero_le _,
    Column.FitsFields.reset type.fields batch.capacity batch.columns shaped.fits⟩

/-- The permission of a batch can be changed without its shape. -/
theorem Shaped.setGrowable (shaped : Shaped growable type batch) (allowed : Bool) :
    Shaped allowed type (batch.setGrowable allowed) :=
  ⟨shaped.valid, shaped.type_eq, shaped.size_le,
    Column.FitsFields.setGrowable allowed type.fields batch.capacity batch.columns shaped.fits⟩

/-- Child counts that are put back leave the shape of a batch. -/
theorem Shaped.restore (shaped : Shaped growable type batch) (counts : List Nat) :
    Shaped growable type (batch.restore counts) :=
  ⟨shaped.valid, shaped.type_eq, shaped.size_le,
    Column.FitsFields.restore type.fields batch.capacity batch.columns counts shaped.fits⟩

/-- A batch of the right shape is one for a struct type. -/
theorem Shaped.exists_struct (shaped : Shaped growable type batch) :
    ∃ attributes, type = .struct attributes type.fields := by
  obtain ⟨attributes, fields, rfl, -⟩ := DataType.wellFormed_of_validateRoot shaped.valid
  exact ⟨attributes, rfl⟩

/-! ### Storing records -/

/-- A batch that is free everywhere stores no record, and any records may be due. -/
theorem stores_nil (shaped : Shaped growable type batch) (empty : batch.size = 0)
    (free : FreeFieldsFrom 0 batch.columns) (due : List Json.Members) :
    Stores policy batch.columns [] due batch := by
  have fits := shaped.fits
  rw [← shaped.type_eq] at fits
  exact ⟨empty,
    Column.holdsFields_of_freeFieldsFrom policy _ _ _ fits 0 free (Nat.zero_le _) (recordSlots due),
    Column.takenFields_self _ _ _ fits⟩

/-- A batch that holds a plan holds it with more records due, as long as none of them is written. -/
theorem Holds.extend (holds : batch.Holds policy origins written due) (more : List Json.Members) :
    batch.Holds policy origins written (due ++ more) := by
  have covers := Plan.Covers.extend 0 (recordSlots written) (recordSlots due) (recordSlots more)
  have more_due : recordSlots due ++ recordSlots more = recordSlots (due ++ more) :=
    List.map_append.symm
  rw [more_due] at covers
  exact Column.HoldsFields.weaken _ _ _ _ _ covers holds

/-- A batch that stores records stores them with more due behind them. -/
theorem Stores.extend (stores : Stores policy origins written due batch)
    (more : List Json.Members) : Stores policy origins written (due ++ more) batch :=
  ⟨stores.size_eq, stores.holds.extend more, stores.taken⟩

/-- A batch holds what it held when its permission changes. -/
theorem Holds.setGrowable (holds : batch.Holds policy origins written due)
    (shaped : Shaped growable type batch) (allowed : Bool) :
    (batch.setGrowable allowed).Holds policy origins written due := by
  have fits := shaped.fits
  rw [← shaped.type_eq] at fits
  exact Column.HoldsFields.setGrowable allowed _ _ _ _ fits _ holds

/-- A batch stores what it stored when its permission changes. -/
theorem Stores.setGrowable (stores : Stores policy origins written due batch)
    (shaped : Shaped growable type batch) (allowed : Bool) :
    Stores policy origins written due (batch.setGrowable allowed) :=
  ⟨stores.size_eq, stores.holds.setGrowable shaped allowed,
    Column.TakenFields.setGrowable allowed _ _ _ _ stores.taken⟩

/-- After a reset a batch stores no record, and any records may be due; child slots are counted from
the batch itself. -/
theorem stores_reset (shaped : Shaped growable type batch) (due : List Json.Members) :
    Stores policy batch.reset.columns [] due batch.reset :=
  stores_nil shaped.reset rfl (Column.freeFieldsFrom_reset batch.columns) due

/-- A row of a batch reads as the record that the batch holds there. -/
theorem row?_eq (shaped : Shaped growable type batch) (size_eq : batch.size = written.length)
    (holds : batch.Holds policy origins written due) {row : Nat} {record : Json.Members}
    (found : written[row]? = some record) :
    batch.row? row = some (storedRecord policy type record) := by
  have inside : row < batch.size := by
    rw [size_eq]
    exact (List.getElem?_eq_some_iff.mp found).1
  have slot : (recordPlan written due).done[row]? = some (some (.object record)) := by
    simp [recordPlan, recordSlots, found]
  have fits := shaped.fits
  rw [← shaped.type_eq] at fits
  have values := Column.HoldsFields.fieldValues_eq _ _ _ _ fits _ holds row record slot
  have start : (recordPlan written due).start + row = row := Nat.zero_add row
  rw [start, shaped.type_eq] at values
  obtain ⟨attributes, same⟩ := shaped.exists_struct
  rw [row?, if_pos inside, values, storedRecord, same, stored]
  rfl

/-- The rows of a batch read as the records that it holds, in order. -/
theorem rows_eq (shaped : Shaped growable type batch) (size_eq : batch.size = written.length)
    (holds : batch.Holds policy origins written due) :
    batch.rows = written.map (storedRecord policy type) := by
  have first : ∀ n ≤ written.length, (List.range n).filterMap batch.row? =
      (written.take n).map (storedRecord policy type) := by
    intro n
    induction n with
    | zero => exact fun _ => rfl
    | succ n ih =>
      intro inside
      have here := row?_eq shaped size_eq holds (List.getElem?_eq_getElem inside)
      rw [List.range_succ, List.filterMap_append, ih (Nat.le_of_succ_le inside),
        List.take_add_one, List.getElem?_eq_getElem inside, List.map_append]
      simp [here]
  rw [rows, size_eq, first written.length (Nat.le_refl _), List.take_length]

/-- The rows of a batch that stores records are what the records are stored as, in order. -/
theorem Stores.rows_eq (stores : Stores policy origins written due batch)
    (shaped : Shaped growable type batch) :
    batch.rows = written.map (storedRecord policy type) :=
  RecordBatch.rows_eq shaped stores.size_eq stores.holds

end RecordBatch

namespace RecordEncoder

open RecordBatch

variable {encoder : RecordEncoder} {growable : Bool} {type : DataType} {batch : RecordBatch}
  {origins : List (String × Column)} {written due : List Json.Members} {record : Json.Members}

/-! ### Writing records -/

/-- Where the types agree and there is room, a record is written into the columns field by field. -/
theorem write_of_room (record : Json.Members) (sameType : encoder.type = batch.type)
    (room : batch.isFull = false) :
    encoder.write record batch =
      let fields := Column.writeFields encoder.policy encoder.type.fields record batch.size
        batch.columns
      ⟨{ batch with
          columns := fields.state
          size := if fields.failure.isNone then batch.size + 1 else batch.size },
        fields.failure⟩ := by
  unfold write
  rw [if_neg (by rw [room]; exact Bool.false_ne_true), if_pos sameType]
  dsimp only
  split
  · next failure failed => rw [failed]; rfl
  · next clean => rw [clean]; rfl

/-- Otherwise a batch is left as it is. -/
theorem write_of_no_room (encoder : RecordEncoder) (record : Json.Members)
    (refused : batch.isFull = true ∨ encoder.type ≠ batch.type) :
    ∃ failure, encoder.write record batch = .failed batch failure := by
  unfold write
  obtain full | other := refused
  · exact ⟨_, if_pos full⟩
  · by_cases full : batch.isFull = true
    · exact ⟨_, if_pos full⟩
    · refine ⟨.typesDiffer encoder.type batch.type, ?_⟩
      rw [if_neg full, if_neg other]

/-- A write goes into the columns, or it leaves the batch as it is. -/
theorem writes_or_keeps (encoder : RecordEncoder) (record : Json.Members) (batch : RecordBatch) :
    (batch.isFull = false ∧ encoder.type = batch.type) ∨
      (encoder.write record batch).state = batch := by
  by_cases writes : batch.isFull = false ∧ encoder.type = batch.type
  · exact .inl writes
  · have refused : batch.isFull = true ∨ encoder.type ≠ batch.type := by
      by_cases room : batch.isFull = true
      · exact .inl room
      · exact .inr fun same => writes ⟨Bool.eq_false_iff.mpr room, same⟩
    obtain ⟨failure, same⟩ := write_of_no_room encoder record refused
    rw [same]
    exact .inr rfl

/-- A record that was written had room. -/
theorem isFull_of_write (record : Json.Members)
    (clean : (encoder.write record batch).failure = none) : batch.isFull = false := by
  cases full : batch.isFull with
  | false => rfl
  | true =>
    obtain ⟨failure, same⟩ := write_of_no_room encoder record (.inl full)
    rw [same] at clean
    cases clean

/-- A record that was written is counted. -/
theorem size_write_of_clean (record : Json.Members)
    (clean : (encoder.write record batch).failure = none) :
    (encoder.write record batch).state.size = batch.size + 1 := by
  revert clean
  unfold write
  dsimp only
  split
  · intro clean
    cases clean
  · split
    · split
      · intro clean
        cases clean
      · intro _
        rfl
    · intro clean
      cases clean

@[simp] theorem capacity_write (encoder : RecordEncoder) (record : Json.Members)
    (batch : RecordBatch) : (encoder.write record batch).state.capacity = batch.capacity := by
  unfold write
  dsimp only
  split
  · rfl
  · split
    · split <;> rfl
    · rfl

/-- A batch of the right shape has room as long as it has fewer rows than it can hold. -/
theorem isFull_eq_false (shaped : Shaped growable type batch) :
    batch.isFull = false ↔ batch.size < batch.capacity := by
  have most := shaped.size_le
  unfold isFull
  rw [beq_eq_false_iff_ne]
  omega

/-- A write, of whatever record by whatever encoder, leaves a batch of the same shape. -/
theorem shaped_write (shaped : Shaped growable type batch) (encoder : RecordEncoder)
    (record : Json.Members) : Shaped growable type (encoder.write record batch).state := by
  obtain ⟨room, sameType⟩ | same := writes_or_keeps encoder record batch
  · have less := (isFull_eq_false shaped).mp room
    rw [write_of_room record sameType room]
    refine ⟨shaped.valid, shaped.type_eq, ?_, ?_⟩
    · dsimp only
      split <;> omega
    · have fits := Column.fitsFields_writeFields growable encoder.policy type.fields batch.capacity
        record batch.size batch.columns shaped.fits
      rw [← shaped.type_eq, ← sameType] at fits
      rw [← shaped.type_eq, ← sameType]
      exact fits
  · rw [same]
    exact shaped

/-- What a record is refused for: its first fault, or a full child column that must not grow. -/
theorem blamed_write (shaped : Shaped growable encoder.type batch) (room : batch.isFull = false)
    (record : Json.Members) :
    Blamed growable (faultFields encoder.policy encoder.type.fields record)
      (encoder.write record batch).failure := by
  rw [write_of_room record shaped.type_eq.symm room]
  exact Column.blamed_writeFields growable encoder.policy encoder.type.fields record batch.capacity
    batch.size batch.columns shaped.fits

/-- What a write of the next record leaves in the columns. -/
theorem landsFields_write (shaped : Shaped growable encoder.type batch) (room : batch.isFull = false)
    (stores : Stores encoder.policy origins written (record :: due) batch) :
    Column.LandsFields encoder.policy encoder.type.fields origins 0 (recordSlots written) record
      (recordSlots due)
      (Column.writeFields encoder.policy encoder.type.fields record batch.size batch.columns) := by
  obtain ⟨size_eq, holds, taken⟩ := stores
  have less := (isFull_eq_false shaped).mp room
  have sameSize : batch.size = 0 + (recordSlots written).length := by
    rw [size_eq, recordSlots, List.length_map, Nat.zero_add]
  rw [RecordBatch.Holds, shaped.type_eq] at holds
  rw [shaped.type_eq] at taken
  have lands := Column.lands_writeFields growable encoder.policy encoder.type.fields origins
    batch.capacity batch.columns 0 (recordSlots written) (recordSlots due) record shaped.fits
    (by rw [← sameSize]; exact less) holds taken
  rw [← sameSize] at lands
  exact lands

/-- A record that was written is the next row. -/
theorem stores_write (shaped : Shaped growable encoder.type batch)
    (stores : Stores encoder.policy origins written (record :: due) batch)
    (clean : (encoder.write record batch).failure = none) :
    Stores encoder.policy origins (written ++ [record]) due (encoder.write record batch).state := by
  have room := isFull_of_write record clean
  have lands := landsFields_write shaped room stores
  have more : recordSlots written ++ [some (.object record)] =
      recordSlots (written ++ [record]) := by
    rw [recordSlots, recordSlots, List.map_append]
    rfl
  have size : (encoder.write record batch).state.size = (written ++ [record]).length := by
    rw [size_write_of_clean record clean, List.length_append, stores.size_eq]
    rfl
  rw [write_of_room record shaped.type_eq.symm room] at clean size ⊢
  dsimp only at clean
  refine ⟨size, ?_, ?_⟩
  · have holds := lands.holds clean
    rw [more] at holds
    rw [RecordBatch.Holds, shaped.type_eq]
    exact holds
  · have taken := lands.taken clean
    rw [more] at taken
    rw [shaped.type_eq]
    exact taken

/-- Whether a write fails or not, the columns still hold the plan as it was. -/
theorem holds_write (shaped : Shaped growable encoder.type batch)
    (stores : Stores encoder.policy origins written (record :: due) batch) :
    (encoder.write record batch).state.Holds encoder.policy origins written (record :: due) := by
  cases room : batch.isFull with
  | true =>
    obtain ⟨failure, same⟩ := write_of_no_room encoder record (.inl room)
    rw [same]
    exact stores.holds
  | false =>
    have lands := landsFields_write shaped room stores
    rw [write_of_room record shaped.type_eq.symm room, RecordBatch.Holds, shaped.type_eq]
    exact lands.kept

/-- A record that failed is still due, as if it had not been tried, once the child counts are put
back. -/
theorem stores_restore_write (shaped : Shaped growable encoder.type batch)
    (stores : Stores encoder.policy origins written (record :: due) batch) {failure : Failure}
    (failed : (encoder.write record batch).failure = some failure) :
    Stores encoder.policy origins written (record :: due)
      ((encoder.write record batch).state.restore batch.childCounts) := by
  have sameSize := size_write_of_failure encoder record batch failure failed
  have shaped' := shaped_write shaped encoder record
  have holds := holds_write shaped stores
  have taken := stores.taken
  rw [RecordBatch.Holds, shaped'.type_eq] at holds
  rw [shaped.type_eq] at taken
  refine ⟨sameSize.trans stores.size_eq, ?_, ?_⟩
  · rw [RecordBatch.Holds, (shaped'.restore _).type_eq]
    exact Column.HoldsFields.restore _ _ _ _ shaped'.fits _ _ holds
  · have restored := Column.TakenFields.restore _ _ _ _ _ _ shaped.fits shaped'.fits _ taken []
    rw [List.append_nil] at restored
    rw [(shaped'.restore _).type_eq]
    exact restored

end RecordEncoder

end Columnar
