import Columnar.Proofs.Column.Operations
import Columnar.Proofs.RecordBatch.Policies
/-!
# Snapshots of child counts

A snapshot that was taken of one column can be put back into another one of its type, however the two
were used, and a snapshot of a batch into another batch of its type: the counts are used up exactly,
they are the child counts from then on, and nothing else changes (`snapshots_put_back`).
-/

set_option autoImplicit false

namespace Columnar

namespace RecordBatch

/-- A batch with all child counts of its columns at zero. -/
def uncounted (batch : RecordBatch) : RecordBatch :=
  { batch with columns := Column.uncountedFields batch.columns }

/-- What comes of a batch when the child counts of another one are put back into it. -/
structure PutBack (source batch : RecordBatch) : Prop where
  /-- The snapshot runs through all columns, which use it up and take none of what follows it. -/
  restoreFields_append : ∀ more, Column.restoreFields batch.columns (source.childCounts ++ more) =
    ((batch.restore source.childCounts).columns, more)
  /-- The child counts are those of the snapshot. -/
  childCounts_eq : (batch.restore source.childCounts).childCounts = source.childCounts
  /-- All else is as it was. -/
  uncounted_eq : (batch.restore source.childCounts).uncounted = batch.uncounted
  /-- With its own snapshot from before the batch is what it was. -/
  restore_restore : (batch.restore source.childCounts).restore batch.childCounts = batch

variable {type : DataType} {batch source : RecordBatch}

/-- However a batch was used, it has as many child counts as a new one. -/
theorem Used.length_childCounts (used : Used type batch) :
    batch.childCounts.length =
      (Column.childCountsFields (Column.allocateFields 0 type.fields)).length := by
  obtain ⟨growable, shaped⟩ := used.exists_shaped
  exact Column.length_childCountsFields_of_fits type.fields batch.capacity batch.columns shaped.fits

/-- A batch takes the child counts of any other that has as many. -/
theorem putBack_of_length (same : source.childCounts.length = batch.childCounts.length) :
    PutBack source batch := by
  have counted := (Column.restoreFields_of_length same []).2
  rw [List.append_nil] at counted
  have apart := Column.uncountedFields_restore batch.columns source.childCounts
  refine ⟨fun more => ?_, counted, ?_, ?_⟩
  · have again := Column.restoreFields_eq apart.symm (by rw [counted]; exact same.symm) more
    rw [counted] at again
    exact again
  · exact congrArg (fun columns => { batch with columns }) apart
  · have back := Column.restoreFields_eq apart (by rw [counted]; exact same) []
    rw [List.append_nil] at back
    exact congrArg (fun columns => { batch with columns }) (congrArg Prod.fst back)

end RecordBatch

/-- However two columns of a type were used, and the columns inside them, the child counts of the one
are put back into the other exactly; and so are those of one batch of a type into another. -/
theorem snapshots_put_back {type : DataType} :
    (∀ source column, Column.Used type source → Column.Used type column →
      Column.PutBack source column) ∧
    ∀ source batch, RecordBatch.Used type source → RecordBatch.Used type batch →
      RecordBatch.PutBack source batch := by
  refine ⟨fun source column used used' => used.putBack used', fun source batch used used' => ?_⟩
  exact RecordBatch.putBack_of_length (used.length_childCounts.trans used'.length_childCounts.symm)

/-- The snapshot of a list of lists and a map of lists goes into a column of another size that was
written otherwise, and back; and so with two batches, of which one has a row and the other a row that
failed. -/
theorem snapshots_put_back_nested :
    let type := DataType.struct .default
      [("a", .listOf (.listOf (.ofPrimitive .boolean))),
        ("b", .mapOf (.ofPrimitive (.text .string)) (.listOf (.ofPrimitive .boolean)))]
    let deep : Json.Members := [("a", .array [.array [.null, .bool true], .array [.null]]),
      ("b", .object [("k", .array [.null])])]
    let flat : Json.Members := [("a", .array []), ("b", .object [("x", .null), ("y", .int 1)])]
    let source := (Column.write .abort type (.object deep) 0 (Column.allocate 1 type)).state
    let column := (Column.write .abort type (.object flat) 2 (Column.allocate 3 type)).state
    let new (capacity : Nat) : RecordBatch :=
      ⟨type, capacity, 0, Column.allocateFields capacity type.fields⟩
    let encoder : RecordEncoder := ⟨type, .abort⟩
    let written := (encoder.write deep (new 1)).state
    let failed := (encoder.write flat (new 3)).state
    Column.childCounts source = [2, 3, 1, 1] ∧ Column.childCounts column = [0, 0, 2, 0] ∧
      Column.childCounts (Column.restore column [2, 3, 1, 1]).1 = [2, 3, 1, 1] ∧
      (Column.restore (Column.restore column [2, 3, 1, 1]).1 [0, 0, 2, 0]).1 = column ∧
      written.size = 1 ∧ failed.size = 0 ∧
      (failed.restore [2, 3, 1, 1]).childCounts = [2, 3, 1, 1] ∧
      (failed.restore [2, 3, 1, 1]).restore [0, 0, 2, 0] = failed := by
  intro type deep flat source column new encoder written failed
  have ofSource : Column.childCounts source = [2, 3, 1, 1] := by decide +kernel
  have ofColumn : Column.childCounts column = [0, 0, 2, 0] := by decide +kernel
  have ofWritten : written.childCounts = [2, 3, 1, 1] := by decide +kernel
  have ofFailed : failed.childCounts = [0, 0, 2, 0] := by decide +kernel
  obtain ⟨columns, batches⟩ := @snapshots_put_back type
  have put := columns source column (.next (.new 1) (.write .abort type _ 0 _))
    (.next (.new 3) (.write .abort type _ 2 _))
  have begun : RecordBatch.allocate type 1 = .ok (new 1) := rfl
  have begun' : RecordBatch.allocate type 3 = .ok (new 3) := rfl
  have whole := batches written failed (.write encoder deep (.new begun))
    (.write encoder flat (.new begun'))
  have back := congrArg Prod.fst put.restore_restore
  rw [ofSource, ofColumn] at back
  have backAll := whole.restore_restore
  rw [ofWritten, ofFailed] at backAll
  have counted := put.childCounts_eq
  rw [ofSource] at counted
  have countedAll := whole.childCounts_eq
  rw [ofWritten] at countedAll
  exact ⟨ofSource, ofColumn, counted, back, by decide +kernel, by decide +kernel, countedAll,
    backAll⟩

end Columnar
