import Columnar.Proofs.Column.FrameWrite
import Columnar.Proofs.RecordBatch.Rows
/-!
# Committed rows stay

The rows of a batch are the live rows of its columns. No write touches them, whether it fails or not,
and neither does putting back the child counts from before a write that failed; they stay what they
are until the batch is reset (`rows_stay_until_reset`).
-/

set_option autoImplicit false

namespace Columnar

open Column (AnchoredFields PreservesFields)

namespace RecordBatch

/-- A batch of the right shape whose rows point to nothing that is not there. -/
structure Sound (growable : Bool) (type : DataType) (batch : RecordBatch) : Prop where
  shaped : Shaped growable type batch
  anchored : AnchoredFields (· < batch.size) batch.columns

/-- A batch has the rows of an earlier one as they were, and maybe others behind them. -/
structure KeepsRows (before after : RecordBatch) : Prop where
  size_le : before.size ≤ after.size
  preserves : PreservesFields (· < before.size) before.columns after.columns

variable {growable allowed : Bool} {type : DataType} {batch before middle after : RecordBatch}

namespace KeepsRows

/-- A batch keeps its own rows. -/
theorem refl (batch : RecordBatch) : KeepsRows batch batch :=
  ⟨Nat.le_refl _, PreservesFields.refl batch.columns _⟩

/-- What is kept of the rows twice in a row is kept. -/
theorem trans (first : KeepsRows before middle) (second : KeepsRows middle after) :
    KeepsRows before after :=
  ⟨Nat.le_trans first.size_le second.size_le,
    PreservesFields.trans _ first.preserves
      (PreservesFields.mono _ (fun _ inside => Nat.lt_of_lt_of_le inside first.size_le)
        second.preserves)⟩

/-- Rows that are kept read as before. -/
theorem row?_eq (keeps : KeepsRows before after) {row : Nat} (inside : row < before.size) :
    after.row? row = before.row? row := by
  rw [row?, row?, if_pos inside, if_pos (Nat.lt_of_lt_of_le inside keeps.size_le),
    PreservesFields.fieldValues_eq _ keeps.preserves inside]

end KeepsRows

/-- A permission to grow changes no row. -/
theorem keepsRows_setGrowable (batch : RecordBatch) (allowed : Bool) :
    KeepsRows batch (batch.setGrowable allowed) :=
  ⟨Nat.le_refl _, Column.preservesFields_setGrowable allowed batch.columns⟩

/-- Child counts that are put back change no row, whatever they are. -/
theorem keepsRows_restore (batch : RecordBatch) (counts : List Nat) :
    KeepsRows batch (batch.restore counts) :=
  ⟨Nat.le_refl _, Column.preservesFields_restore batch.columns counts⟩

/-! ### Batches whose rows are anchored -/

/-- A new batch has no rows. -/
theorem exists_allocate_sound (valid : type.validateRoot = .ok ()) {capacity : Nat}
    (positive : 0 < capacity) :
    ∃ batch, allocate type capacity = .ok batch ∧ Sound true type batch ∧ batch.size = 0 := by
  obtain ⟨batch, allocated, shaped, empty, -, -⟩ := exists_allocate valid positive
  refine ⟨batch, allocated, ⟨shaped, ?_⟩, empty⟩
  obtain ⟨-, -, rfl⟩ := eq_of_allocate allocated
  exact Column.anchoredFields_allocate capacity type.fields fun _ => Nat.not_lt_zero _

/-- After a reset there are no rows to be anchored. -/
theorem Sound.reset (sound : Sound growable type batch) : Sound growable type batch.reset :=
  ⟨sound.shaped.reset, Column.anchoredFields_reset batch.columns fun _ => Nat.not_lt_zero _⟩

/-- A permission to grow leaves the rows anchored. -/
theorem Sound.setGrowable (sound : Sound growable type batch) (allowed : Bool) :
    Sound allowed type (batch.setGrowable allowed) :=
  ⟨sound.shaped.setGrowable allowed, AnchoredFields.setGrowable allowed batch.columns sound.anchored⟩

/-- Child counts from an earlier time may be put back as long as no row was added since. -/
theorem Sound.restore (sound : Sound growable type before) (sound' : Sound allowed type after)
    (keeps : KeepsRows before after) (size_eq : after.size = before.size) :
    Sound allowed type (after.restore before.childCounts) := by
  have anchored := sound'.anchored
  rw [size_eq] at anchored
  have restored := AnchoredFields.restore type.fields _ _ _ _ sound.shaped.fits sound'.shaped.fits
    sound.anchored keeps.preserves anchored []
  rw [List.append_nil, ← size_eq] at restored
  exact ⟨sound'.shaped.restore _, restored⟩

/-- The child counts that were put back are those of the batch from now on. -/
theorem childCounts_restore (shaped : Shaped growable type before)
    (shaped' : Shaped allowed type after) :
    (after.restore before.childCounts).childCounts = before.childCounts := by
  have restored := (Column.childCountsFields_restore shaped.fits shaped'.fits []).2
  rw [List.append_nil] at restored
  exact restored

end RecordBatch

namespace RecordEncoder

open RecordBatch

variable {growable : Bool} {type : DataType} {batch : RecordBatch}

/-- A write, of whatever record by whatever encoder, keeps the rows and leaves them anchored. -/
theorem sound_write (sound : Sound growable type batch) (encoder : RecordEncoder)
    (record : Json.Members) :
    Sound growable type (encoder.write record batch).state ∧
      KeepsRows batch (encoder.write record batch).state := by
  have shaped := shaped_write sound.shaped encoder record
  obtain ⟨room, sameType⟩ | same := writes_or_keeps encoder record batch
  · have less := (isFull_eq_false sound.shaped).mp room
    have fits := sound.shaped.fits
    rw [← sound.shaped.type_eq, ← sameType] at fits
    have frames := Column.frames_writeFields growable encoder.policy encoder.type.fields record
      batch.size batch.capacity batch.columns (· < batch.size) fits less (Nat.lt_irrefl _)
      sound.anchored
    rw [write_of_room record sameType room] at shaped ⊢
    refine ⟨⟨shaped, ?_⟩, ?_, frames.preserves⟩
    · dsimp only
      split
      · next clean =>
        have added := frames.added (Option.isNone_iff_eq_none.mp clean)
        refine AnchoredFields.mono _ (fun row inside => ?_) added
        exact Nat.lt_succ_iff_lt_or_eq.mp inside
      · exact frames.anchored
    · dsimp only
      split <;> omega
  · rw [same]
    exact ⟨sound, .refl batch⟩

end RecordEncoder

namespace RecordBatch

variable {growable : Bool} {type : DataType} {batch : RecordBatch}

/-- A batch stays sound whatever is done to it. -/
theorem exists_sound_performAll (history : List BatchAction) :
    ∀ {growable : Bool} {batch : RecordBatch}, Sound growable type batch →
      ∃ allowed, Sound allowed type (batch.performAll history) := by
  induction history with
  | nil => exact fun {growable batch} sound => ⟨growable, sound⟩
  | cons action rest ih =>
    intro growable batch sound
    cases action with
    | write encoder record => exact ih (RecordEncoder.sound_write sound encoder record).1
    | setGrowable allowed => exact ih (sound.setGrowable allowed)
    | reset => exact ih sound.reset

/-- As long as it is not reset, a batch keeps its rows whatever is done to it. -/
theorem keepsRows_performAll (history : List BatchAction) :
    ∀ {growable : Bool} {batch : RecordBatch}, .reset ∉ history → Sound growable type batch →
      KeepsRows batch (batch.performAll history) := by
  induction history with
  | nil => exact fun {_ batch} _ _ => .refl batch
  | cons action rest ih =>
    intro growable batch never sound
    rw [List.mem_cons, not_or] at never
    cases action with
    | write encoder record =>
      obtain ⟨sound', keeps⟩ := RecordEncoder.sound_write sound encoder record
      exact keeps.trans (ih never.2 sound')
    | setGrowable allowed =>
      exact (keepsRows_setGrowable batch allowed).trans (ih never.2 (sound.setGrowable allowed))
    | reset => exact absurd rfl never.1

end RecordBatch

/-- The rows of a batch stay as they are until it is reset. A batch is reached from a new one by any
writes, failed ones too, by resets and by letting child columns grow or not, and another record is
written into it. That changes no row. If the write fails it counts no row either, and the child counts
from before can be put back: they are those of the batch again, no row changes, and none changes from
then on before the next reset. -/
theorem rows_stay_until_reset {type : DataType} (valid : type.validateRoot = .ok ())
    {capacity : Nat} (positive : 0 < capacity) (history : List BatchAction) (policy : CellPolicy)
    (record : Json.Members) :
    ∃ encoder fresh, RecordEncoder.ofType type policy = .ok encoder ∧
      encoder.allocateBatch capacity = .ok fresh ∧
      let batch := fresh.performAll history
      let tried := encoder.write record batch
      let restored := tried.state.restore batch.childCounts
      (∀ row < batch.size, tried.state.row? row = batch.row? row) ∧
      (tried.failure ≠ none →
        tried.state.size = batch.size ∧ restored.childCounts = batch.childCounts ∧
        (∀ row < batch.size, restored.row? row = batch.row? row) ∧
        ∀ later, .reset ∉ later →
          ∀ row < batch.size, (restored.performAll later).row? row = batch.row? row) := by
  obtain ⟨fresh, allocated, begun, -⟩ := RecordBatch.exists_allocate_sound valid positive
  refine ⟨⟨type, policy⟩, fresh, ?_, allocated, ?_⟩
  · rw [RecordEncoder.ofType, valid]
    rfl
  intro batch tried restored
  obtain ⟨growable, sound⟩ : ∃ growable, RecordBatch.Sound growable type batch :=
    RecordBatch.exists_sound_performAll history begun
  obtain ⟨sound', keeps⟩ := RecordEncoder.sound_write sound ⟨type, policy⟩ record
  refine ⟨fun row inside => keeps.row?_eq inside, fun failed => ?_⟩
  obtain ⟨failure, failed⟩ := Option.ne_none_iff_exists'.mp failed
  have size_eq := RecordEncoder.size_write_of_failure _ record batch failure failed
  have back := keeps.trans (RecordBatch.keepsRows_restore tried.state batch.childCounts)
  have sound'' : RecordBatch.Sound growable type restored := sound.restore sound' keeps size_eq
  refine ⟨size_eq, RecordBatch.childCounts_restore sound.shaped sound'.shaped,
    fun row inside => back.row?_eq inside, fun later never row inside => ?_⟩
  exact (back.trans (RecordBatch.keepsRows_performAll later never sound'')).row?_eq inside

/-- A list of two elements fails at the second one; the list of the row before it stays, also once the
child slots are taken again. -/
theorem rows_stay_until_reset_list :
    let type := DataType.struct .default [("a", .listOf (.ofPrimitive (.integer .regular)))]
    let encoder : RecordEncoder := ⟨type, .abort⟩
    let fresh : RecordBatch := ⟨type, 4, 0, Column.allocateFields 4 type.fields⟩
    let batch := (encoder.write [("a", .array [.int 1])] fresh).state.setGrowable false
    let tried := encoder.write [("a", .array [.int 2, .text "x"])] batch
    let restored := tried.state.restore batch.childCounts
    let next := encoder.write [("a", .array [.int 3])] restored
    tried.failure ≠ none ∧ tried.state.childCounts = [3] ∧ restored.childCounts = [1] ∧
      next.failure = none ∧ next.state.row? 0 = some (.object [("a", .array [.int 1])]) := by
  intro type encoder fresh batch tried restored next
  have valid : type.validateRoot = .ok () := rfl
  have typed : RecordEncoder.ofType type .abort = .ok encoder := rfl
  have allocated : encoder.allocateBatch 4 = .ok fresh := rfl
  have failed : tried.failure ≠ none := by decide +kernel
  have taken : tried.state.childCounts = [3] := by decide +kernel
  have clean : next.failure = none := by decide +kernel
  have first : batch.row? 0 = some (.object [("a", .array [.int 1])]) := rfl
  have applied := rows_stay_until_reset valid (Nat.succ_pos 3)
    [.write encoder [("a", .array [.int 1])], .setGrowable false] .abort
    [("a", .array [.int 2, .text "x"])]
  obtain ⟨_, _, typed', allocated', -, stays⟩ := applied
  cases typed.symm.trans typed'
  cases allocated.symm.trans allocated'
  obtain ⟨-, counts, -, later⟩ := stays failed
  refine ⟨failed, taken, counts, clean, ?_⟩
  rw [← first]
  exact later [.write encoder [("a", .array [.int 3])]] (by simp) 0 Nat.one_pos

end Columnar
