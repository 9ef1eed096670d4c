import Columnar.Proofs.Column.Access
import Columnar.Proofs.RecordBatch.CommittedRows
/-!
# Batches are read and written in range

A batch is reached from a new one by writes, failed ones too, by resets, by letting child columns grow
or not, and by putting back child counts that were taken when it had the rows that it has. However it
was reached, its rows are anchored (`Reached.exists_sound`), and so no write and no reading of a row
looks at a position that is not there (`Sound.inRange`).
-/

set_option autoImplicit false

namespace Columnar

namespace RecordEncoder

/-- Writes a record behind the rows of a batch and counts it, with accesses in range only. -/
def checkedWrite (encoder : RecordEncoder) (record : Json.Members) (batch : RecordBatch) :
    Option (Attempt RecordBatch) :=
  if batch.isFull then some (.failed batch (.batchFull batch.capacity))
  else if encoder.type = batch.type then do
    let written ← Column.checkedWriteFields encoder.policy encoder.type.fields record batch.size
      batch.columns
    match written.failure with
    | some failure => return .failed { batch with columns := written.state } failure
    | none => return .ok { batch with columns := written.state, size := batch.size + 1 }
  else some (.failed batch (.typesDiffer encoder.type batch.type))

end RecordEncoder

namespace RecordBatch

/-- The value of a row that the batch has, with accesses in range only. -/
def checkedRow? (batch : RecordBatch) (row : Nat) : Option (Option Json) :=
  if row < batch.size then
    (Column.checkedFieldValues batch.columns row).map fun values => some (.objectOf values)
  else some none

/-- Batches of a type that are reached from a new one, with the child counts that were taken since
their rows last changed. -/
inductive Reached (type : DataType) : RecordBatch → List (List Nat) → Prop where
  | new {capacity : Nat} {batch : RecordBatch} (allocated : allocate type capacity = .ok batch) :
      Reached type batch []
  | written {batch : RecordBatch} {snapshots : List (List Nat)} (encoder : RecordEncoder)
      (record : Json.Members) (reached : Reached type batch snapshots)
      (clean : (encoder.write record batch).failure = none) :
      Reached type (encoder.write record batch).state []
  | refused {batch : RecordBatch} {snapshots : List (List Nat)} (encoder : RecordEncoder)
      (record : Json.Members) (reached : Reached type batch snapshots)
      (failed : (encoder.write record batch).failure ≠ none) :
      Reached type (encoder.write record batch).state snapshots
  | setGrowable {batch : RecordBatch} {snapshots : List (List Nat)} (allowed : Bool)
      (reached : Reached type batch snapshots) : Reached type (batch.setGrowable allowed) snapshots
  | reset {batch : RecordBatch} {snapshots : List (List Nat)}
      (reached : Reached type batch snapshots) : Reached type batch.reset []
  | snapshot {batch : RecordBatch} {snapshots : List (List Nat)}
      (reached : Reached type batch snapshots) :
      Reached type batch (batch.childCounts :: snapshots)
  | restored {batch : RecordBatch} {snapshots : List (List Nat)} {counts : List Nat}
      (reached : Reached type batch snapshots) (among : counts ∈ snapshots) :
      Reached type (batch.restore counts) snapshots

/-- Writes to a batch that is not full, and readings of its rows, are in range. -/
structure InRange (batch : RecordBatch) : Prop where
  write : ∀ (encoder : RecordEncoder) (record : Json.Members), batch.isFull = false →
    encoder.checkedWrite record batch = some (encoder.write record batch)
  read : ∀ row < batch.size, batch.checkedRow? row = some (batch.row? row)

variable {growable : Bool} {type : DataType} {batch : RecordBatch} {snapshots : List (List Nat)}

/-- The child counts were taken from a sound batch with the rows that the batch has. -/
def Dates (type : DataType) (batch : RecordBatch) (counts : List Nat) : Prop :=
  ∃ growable before, Sound growable type before ∧ KeepsRows before batch ∧
    batch.size = before.size ∧ counts = before.childCounts

/-- A snapshot still belongs to a batch after something that keeps its rows and adds none. -/
theorem Dates.later {after : RecordBatch} {counts : List Nat} (dates : Dates type batch counts)
    (keeps : KeepsRows batch after) (size_eq : after.size = batch.size) :
    Dates type after counts := by
  obtain ⟨growable, before, sound, kept, same, rfl⟩ := dates
  exact ⟨growable, before, sound, kept.trans keeps, size_eq.trans same, rfl⟩

/-- A batch that is reached is sound, and so were those that its child counts were taken from. -/
theorem Reached.exists_sound (reached : Reached type batch snapshots) :
    (∃ growable, Sound growable type batch) ∧ ∀ counts ∈ snapshots, Dates type batch counts := by
  induction reached with
  | @new capacity batch allocated =>
    obtain ⟨valid, positive, -⟩ := eq_of_allocate allocated
    obtain ⟨fresh, same, sound, -⟩ := exists_allocate_sound valid positive
    cases allocated.symm.trans same
    exact ⟨⟨true, sound⟩, by simp⟩
  | written encoder record _ _ ih =>
    obtain ⟨⟨growable, sound⟩, -⟩ := ih
    exact ⟨⟨growable, (RecordEncoder.sound_write sound encoder record).1⟩, by simp⟩
  | refused encoder record _ failed ih =>
    obtain ⟨⟨growable, sound⟩, dated⟩ := ih
    obtain ⟨sound', keeps⟩ := RecordEncoder.sound_write sound encoder record
    obtain ⟨failure, failed⟩ := Option.ne_none_iff_exists'.mp failed
    have size_eq := RecordEncoder.size_write_of_failure encoder record _ failure failed
    exact ⟨⟨growable, sound'⟩, fun counts among => (dated counts among).later keeps size_eq⟩
  | setGrowable allowed _ ih =>
    obtain ⟨⟨growable, sound⟩, dated⟩ := ih
    exact ⟨⟨allowed, sound.setGrowable allowed⟩,
      fun counts among => (dated counts among).later (keepsRows_setGrowable _ allowed) rfl⟩
  | reset _ ih =>
    obtain ⟨⟨growable, sound⟩, -⟩ := ih
    exact ⟨⟨growable, sound.reset⟩, by simp⟩
  | @snapshot batch snapshots _ ih =>
    obtain ⟨⟨growable, sound⟩, dated⟩ := ih
    refine ⟨⟨growable, sound⟩, fun counts among => ?_⟩
    obtain rfl | among := List.mem_cons.mp among
    · exact ⟨growable, batch, sound, .refl batch, rfl, rfl⟩
    · exact dated counts among
  | @restored batch snapshots counts _ among ih =>
    obtain ⟨⟨growable, sound⟩, dated⟩ := ih
    refine ⟨⟨growable, ?_⟩,
      fun other also => (dated other also).later (keepsRows_restore _ counts) rfl⟩
    -- The rows are anchored by the counts of the batch that the counts were taken from, and since
    -- then they stayed what they were.
    obtain ⟨_, before, earlier, keeps, size_eq, rfl⟩ := dated counts among
    exact earlier.restore sound keeps size_eq

/-- A sound batch is written and read in range. -/
theorem Sound.inRange (sound : Sound growable type batch) : InRange batch := by
  have fits := sound.shaped.fits
  constructor
  · intro encoder record room
    have less := (RecordEncoder.isFull_eq_false sound.shaped).mp room
    rw [RecordEncoder.checkedWrite, RecordEncoder.write, room]
    by_cases sameType : encoder.type = batch.type
    · rw [if_pos sameType, if_pos sameType]
      rw [← sound.shaped.type_eq, ← sameType] at fits
      rw [Column.checkedWriteFields_eq growable encoder.policy encoder.type.fields record batch.size
        batch.capacity batch.columns fits less]
      simp only [bind, Option.bind]
      cases (Column.writeFields encoder.policy encoder.type.fields record batch.size
        batch.columns).failure <;> rfl
    · rw [if_neg sameType, if_neg sameType]
      rfl
  · intro row inside
    rw [checkedRow?, row?, if_pos inside, if_pos inside,
      Column.checkedFieldValues_eq type.fields batch.capacity batch.columns fits sound.anchored
        inside (Nat.lt_of_lt_of_le inside sound.shaped.size_le)]
    rfl

end RecordBatch

end Columnar
