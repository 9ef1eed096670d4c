import Columnar.Proofs.Column.Alike
import Columnar.RecordEncoder
/-!
# Records that batches cannot tell apart

A record is written by what is found under the names of the declared fields, all the way down. Two
records that are alike at the record type come to the same batch, cell by cell, and to the same
failure, whatever the batch holds and whichever policy is in force (`write_alike_records`). So does a
record with its structs spelled out: in the order of the declaration, without undeclared members, and
with null for absent ones.
-/

set_option autoImplicit false

namespace Columnar

open Column (spelledFields)

/-- Alike records are written alike, into every batch. -/
theorem RecordEncoder.write_eq_of_alike {encoder : RecordEncoder} {attributes : Attributes}
    {types : List (String × DataType)} (same : encoder.type = .struct attributes types)
    {record record' : Json.Members}
    (alike : Alike encoder.type (.object record) (.object record')) (batch : RecordBatch) :
    encoder.write record batch = encoder.write record' batch := by
  rw [same] at alike
  have fields : Column.writeFields encoder.policy types record batch.size batch.columns =
      Column.writeFields encoder.policy types record' batch.size batch.columns := by
    cases alike with
    | struct each =>
      apply Column.writeFields_congr
      intro name type declared column
      exact Column.write_eq_of_alike (each name type declared) batch.size column
    | refused taken _ => cases taken
  rw [write, write, same, DataType.fields, fields]

/-- Which records an encoder of a type writes to the same effect. -/
structure SeesDeclared (encoder : RecordEncoder) : Prop where
  /-- Alike records come to the same batch and the same failure. -/
  alike : ∀ record record' batch, Alike encoder.type (.object record) (.object record') →
    encoder.write record batch = encoder.write record' batch
  /-- Undeclared members, the order of members and whether a null is spelled out make no difference,
  at any depth of structs in structs, lists and maps. -/
  spelled : ∀ record batch,
    encoder.write (spelledFields encoder.type.fields record) batch = encoder.write record batch

/-- Encoders look at what is declared in their type, and at nothing else. -/
theorem write_alike_records {type : DataType} (valid : type.validateRoot = .ok ())
    (policy : CellPolicy) :
    ∃ encoder, RecordEncoder.ofType type policy = .ok encoder ∧ encoder.type = type ∧
      SeesDeclared encoder := by
  refine ⟨⟨type, policy⟩, by rw [RecordEncoder.ofType, valid]; rfl, rfl, ?_⟩
  obtain ⟨attributes, types, rfl, wellFormed⟩ := (DataType.validateRoot_eq_ok_iff type).mp valid
  constructor
  · intro record record' batch alike
    exact RecordEncoder.write_eq_of_alike rfl alike batch
  · intro record batch
    have alike := Column.alike_spelledOut _ wellFormed (.object record)
    exact (RecordEncoder.write_eq_of_alike rfl alike batch).symm

/-- Two records that differ in an undeclared member, in the order of members and in a null that only
one of them spells out, inside a list as well. The keys of the map are in the same order in both. -/
theorem write_alike_records_nested :
    let type := DataType.struct .default
      [("a", .ofPrimitive (.integer .regular)),
        ("l", .listOf (.struct .default
          [("x", .ofPrimitive .boolean), ("y", .ofPrimitive (.text .string))])),
        ("m", .mapOf (.ofPrimitive (.text .string)) (.ofPrimitive .boolean))]
    let map := Json.object [("q", .bool true), ("p", .null)]
    let record : Json.Members :=
      [("a", .int 1), ("l", .array [.object [("x", .bool true)]]), ("m", map)]
    let record' : Json.Members :=
      [("m", map), ("extra", .int 7),
        ("l", .array [.object [("y", .null), ("z", .null), ("x", .bool true)]]), ("a", .int 1)]
    type.validateRoot = .ok () ∧
      ∃ encoder, RecordEncoder.ofType type .abort = .ok encoder ∧
        ∀ batch, encoder.write record batch = encoder.write record' batch := by
  intro type map record record'
  have valid : type.validateRoot = .ok () := rfl
  obtain ⟨encoder, built, -, sees⟩ := write_alike_records valid .abort
  refine ⟨valid, encoder, built, fun batch => ?_⟩
  have first := sees.spelled record batch
  have second := sees.spelled record' batch
  cases built
  exact first.symm.trans second

end Columnar
