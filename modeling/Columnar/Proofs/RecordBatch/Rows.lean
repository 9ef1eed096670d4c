import Columnar.Proofs.RecordBatch.Layout
/-!
# Rows of a batch that is used again

A batch goes through any history of writes, failed ones too, and of resets. Once it was reset, or as
long as nothing happened to it, records that are written one after the other read back as they were
stored, in order (`rows_writeAll`). Whatever the history left in the columns is out of reach.
-/

set_option autoImplicit false

namespace Columnar

/-- Something done to a batch. -/
inductive BatchAction where
  | write (encoder : RecordEncoder) (record : Json.Members)
  | setGrowable (allowed : Bool)
  | reset

namespace RecordBatch

/-- A batch after an action, whether it went through or not. -/
def perform (batch : RecordBatch) : BatchAction → RecordBatch
  | .write encoder record => (encoder.write record batch).state
  | .setGrowable allowed => batch.setGrowable allowed
  | .reset => batch.reset

/-- A batch after a history of actions. -/
def performAll (batch : RecordBatch) (history : List BatchAction) : RecordBatch :=
  history.foldl perform batch

/-- No action changes the shape of a batch but whether its child columns may grow. -/
theorem exists_shaped_perform {growable : Bool} {type : DataType} {batch : RecordBatch}
    (shaped : Shaped growable type batch) (action : BatchAction) :
    ∃ allowed, Shaped allowed type (batch.perform action) := by
  cases action with
  | write encoder record => exact ⟨growable, RecordEncoder.shaped_write shaped encoder record⟩
  | setGrowable allowed => exact ⟨allowed, shaped.setGrowable allowed⟩
  | reset => exact ⟨growable, shaped.reset⟩

/-- Whatever is done to a batch leaves its shape, for some permission. -/
theorem exists_shaped_performAll {type : DataType} (history : List BatchAction) :
    ∀ {growable : Bool} {batch : RecordBatch}, Shaped growable type batch →
      ∃ allowed, Shaped allowed type (batch.performAll history) := by
  induction history with
  | nil => exact fun {growable batch} shaped => ⟨growable, shaped⟩
  | cons action rest ih =>
    intro growable batch shaped
    obtain ⟨allowed, after⟩ := exists_shaped_perform shaped action
    exact ih after

/-- After a history that ends with a reset a batch stores nothing, as a new one does. -/
theorem exists_stores_nil (policy : CellPolicy) {type : DataType} {fresh : RecordBatch}
    (shaped : Shaped true type fresh) (empty : fresh.size = 0)
    (free : Column.FreeFieldsFrom 0 fresh.columns) {history : List BatchAction}
    (begins : history = [] ∨ history.getLast? = some .reset) (due : List Json.Members) :
    ∃ growable origins, Shaped growable type (fresh.performAll history) ∧
      Stores policy origins [] due (fresh.performAll history) := by
  -- Only the reset matters: what the history left behind becomes the origin of the next plan.
  obtain rfl | last := begins
  · exact ⟨true, _, shaped, stores_nil shaped empty free due⟩
  · obtain ⟨earlier, rfl⟩ := List.getLast?_eq_some_iff.mp last
    obtain ⟨growable, before⟩ := exists_shaped_performAll earlier shaped
    have split : fresh.performAll (earlier ++ [.reset]) = (fresh.performAll earlier).reset := by
      rw [performAll, List.foldl_append]
      rfl
    rw [split]
    exact ⟨growable, _, before.reset, stores_reset before due⟩

end RecordBatch

namespace RecordEncoder

open RecordBatch

/-- Writes records one after the other, up to the first failure. -/
def writeAll (encoder : RecordEncoder) : List Json.Members → RecordBatch → Attempt RecordBatch
  | [], batch => .ok batch
  | record :: rest, batch => (encoder.write record batch).andThen (encoder.writeAll rest)

/-- Records that all were written are stored behind those that were there. -/
theorem stores_writeAll {encoder : RecordEncoder} {growable : Bool}
    {origins : List (String × Column)} (records : List Json.Members) :
    ∀ {batch : RecordBatch} {written : List Json.Members}, Shaped growable encoder.type batch →
      Stores encoder.policy origins written records batch →
        (encoder.writeAll records batch).failure = none →
          Shaped growable encoder.type (encoder.writeAll records batch).state ∧
            Stores encoder.policy origins (written ++ records) []
              (encoder.writeAll records batch).state := by
  induction records with
  | nil =>
    intro batch written shaped stores _
    rw [List.append_nil]
    exact ⟨shaped, stores⟩
  | cons record rest ih =>
    intro batch written shaped stores clean
    rw [writeAll] at clean ⊢
    obtain ⟨first, others⟩ := (Attempt.failure_andThen_eq_none_iff _ _).mp clean
    have shaped' := shaped_write shaped encoder record
    have stores' := stores_write shaped stores first
    have all := ih shaped' stores' others
    rw [List.append_assoc] at all
    rw [Attempt.andThen_of_clean first]
    exact all

end RecordEncoder

/-- Records that are written one after the other into a batch without rows, be it new or reset after
whatever history, read back as what they are stored as, in order. -/
theorem rows_writeAll {type : DataType} (valid : type.validateRoot = .ok ()) {capacity : Nat}
    (positive : 0 < capacity) (policy : CellPolicy) (history : List BatchAction)
    (begins : history = [] ∨ history.getLast? = some .reset) (records : List Json.Members) :
    ∃ encoder fresh, RecordEncoder.ofType type policy = .ok encoder ∧
      encoder.allocateBatch capacity = .ok fresh ∧
      ((encoder.writeAll records (fresh.performAll history)).failure = none →
        (encoder.writeAll records (fresh.performAll history)).state.rows =
          records.map fun record => Column.stored policy type (.object record)) := by
  obtain ⟨fresh, allocated, shaped, empty, -, free⟩ :=
    RecordBatch.exists_allocate valid positive
  refine ⟨⟨type, policy⟩, fresh, ?_, allocated, ?_⟩
  · rw [RecordEncoder.ofType, valid]
    rfl
  · intro clean
    have begun := RecordBatch.exists_stores_nil policy shaped empty free begins records
    obtain ⟨growable, origins, shaped', stores⟩ := begun
    have written := RecordEncoder.stores_writeAll records shaped' stores clean
    exact written.2.rows_eq written.1

/-- Two records in a batch that held others before: a list with a null element, and a null list. -/
theorem rows_writeAll_lists :
    let type := DataType.struct .default [("a", .listOf (.ofPrimitive (.integer .regular)))]
    let encoder : RecordEncoder := ⟨type, .nullCell⟩
    let history : List BatchAction :=
      [.write ⟨type, .abort⟩ [("a", .array [.int 1, .null])],
        .write ⟨type, .abort⟩ [("a", .text "x")], .setGrowable false, .reset]
    let records : List Json.Members := [[("a", .array [.null, .int 2])], [("a", .null)]]
    ∃ fresh, RecordEncoder.ofType type .nullCell = .ok encoder ∧
      encoder.allocateBatch 2 = .ok fresh ∧
      (encoder.writeAll records (fresh.performAll history)).failure = none ∧
      (encoder.writeAll records (fresh.performAll history)).state.rows =
        [.object [("a", .array [.null, .int 2])], .object [("a", .null)]] := by
  intro type encoder history records
  have valid : type.validateRoot = .ok () := rfl
  have applied := rows_writeAll valid Nat.two_pos .nullCell history (.inr rfl) records
  obtain ⟨_, fresh, typed, allocated, rows⟩ := applied
  cases typed
  cases allocated
  have clean : (encoder.writeAll records (RecordBatch.performAll
      ⟨type, 2, 0, Column.allocateFields 2 type.fields⟩ history)).failure = none := by
    decide +kernel
  refine ⟨_, rfl, rfl, clean, ?_⟩
  rw [rows clean]
  rfl

end Columnar
