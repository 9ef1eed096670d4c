import Columnar.Proofs.Column.Encoder
import Columnar.Proofs.Column.Policies
import Columnar.Proofs.RecordBatch.Allocation
/-!
# What the policies leave to fail

An encoder and a batch of one record type are always there, their trees agree, and so the policies
say which writes can fail (`failures_bounded`): with room to grow only values that a cell cannot
store, and those only where they stop the write; without it, under the other policy, nothing but a
want of child slots. A record that is written under the stricter policy is written to the same effect
under the other one.
-/

set_option autoImplicit false

namespace Columnar

open Column (Blamed fault faultFields)
open RecordBatch (Shaped)

/-- A write that fails does so for a value that its cell cannot store, where failures stop it, or
for want of child slots, where children must not grow. -/
theorem Column.isCellFailure_of_blamed {growable : Bool} {policy : CellPolicy}
    {types : List (String × DataType)} {members : Json.Members} {failure : Failure}
    (blamed : Blamed growable (faultFields policy types members) (some failure)) :
    (policy = .abort ∧ failure.isCellFailure = true) ∨
      (growable = false ∧ failure.isChildOverflow = true) := by
  obtain faulty | ⟨fixed, overflow, same, isOverflow⟩ := blamed
  · refine .inl ⟨?_, isCellFailure_of_faultFields policy types members failure faulty.symm⟩
    cases policy with
    | abort => rfl
    | nullCell =>
      rw [faultFields_nullCell] at faulty
      cases faulty
  · cases same
    exact .inr ⟨fixed, isOverflow⟩

namespace RecordBatch

/-- Batches of a type that come of a new one, whatever is done to them. The child counts that are put
back need not have been taken from the batch. -/
inductive Used (type : DataType) : RecordBatch → Prop where
  | new {capacity : Nat} {batch : RecordBatch} (allocated : allocate type capacity = .ok batch) :
      Used type batch
  | write {batch : RecordBatch} (encoder : RecordEncoder) (record : Json.Members)
      (used : Used type batch) : Used type (encoder.write record batch).state
  | setGrowable {batch : RecordBatch} (allowed : Bool) (used : Used type batch) :
      Used type (batch.setGrowable allowed)
  | reset {batch : RecordBatch} (used : Used type batch) : Used type batch.reset
  | restore {batch : RecordBatch} (counts : List Nat) (used : Used type batch) :
      Used type (batch.restore counts)

/-- However a batch was used, it has the shape of its type. -/
theorem Used.exists_shaped {type : DataType} {batch : RecordBatch} (used : Used type batch) :
    ∃ growable, Shaped growable type batch := by
  induction used with
  | @new capacity batch allocated =>
    obtain ⟨valid, positive, -⟩ := eq_of_allocate allocated
    obtain ⟨fresh, same, shaped, -⟩ := exists_allocate valid positive
    cases allocated.symm.trans same
    exact ⟨true, shaped⟩
  | write encoder record _ ih =>
    obtain ⟨growable, shaped⟩ := ih
    exact ⟨growable, RecordEncoder.shaped_write shaped encoder record⟩
  | setGrowable allowed _ ih =>
    obtain ⟨growable, shaped⟩ := ih
    exact ⟨allowed, shaped.setGrowable allowed⟩
  | reset _ ih =>
    obtain ⟨growable, shaped⟩ := ih
    exact ⟨growable, shaped.reset⟩
  | restore counts _ ih =>
    obtain ⟨growable, shaped⟩ := ih
    exact ⟨growable, shaped.restore counts⟩

end RecordBatch

namespace RecordEncoder

/-- How a record can fail to be written, under each policy for values that their cells cannot
store. -/
structure BoundedFailures (batch : RecordBatch) (attempt : CellPolicy → Attempt RecordBatch) :
    Prop where
  /-- No column is of the wrong kind, at any depth. -/
  matching : ∀ policy failure kind, (attempt policy).failure = some failure →
    failure.cause ≠ .columnMismatch kind
  /-- With room to grow, only values that their cells cannot store are left to fail. -/
  growing : (∀ flag ∈ batch.growables, flag = true) → ∀ policy failure,
    (attempt policy).failure = some failure → policy = .abort ∧ failure.isCellFailure = true
  /-- With room to grow and null for such values, every record is written. -/
  total : (∀ flag ∈ batch.growables, flag = true) → (attempt .nullCell).failure = none
  /-- Without room to grow and with null for such values, only child slots can be wanting. -/
  fixed : (∀ flag ∈ batch.growables, flag = false) → ∀ failure,
    (attempt .nullCell).failure = some failure → failure.isChildOverflow = true
  /-- What goes through where failures stop it comes to the same where they turn cells null. -/
  lenient : (attempt .abort).failure = none → attempt .nullCell = attempt .abort

variable {growable : Bool} {type : DataType} {batch : RecordBatch}

/-- A record that goes through where failures stop it comes to the same batch where they turn cells
null. -/
theorem follows_write (type : DataType) (record : Json.Members) (batch : RecordBatch) :
    ((mk type .nullCell).write record batch).Follows ((mk type .abort).write record batch) := by
  intro clean
  have room := isFull_of_write record clean
  by_cases sameType : type = batch.type
  · rw [write_of_room record sameType room] at clean ⊢
    rw [write_of_room record sameType room]
    simp only [Column.follows_writeFields type.fields record batch.size batch.columns clean]
  · obtain ⟨failure, same⟩ := write_of_no_room ⟨type, .abort⟩ record (.inr sameType)
    rw [same] at clean
    cases clean

/-- What a record that is refused by a batch with room is refused for. -/
theorem failure_write_cases (shaped : Shaped growable type batch) (room : batch.isFull = false)
    {policy : CellPolicy} {record : Json.Members} {failure : Failure}
    (failed : ((mk type policy).write record batch).failure = some failure) :
    (policy = .abort ∧ failure.isCellFailure = true) ∨
      (growable = false ∧ failure.isChildOverflow = true) := by
  have fits : Shaped growable (mk type policy).type batch := shaped
  have blamed := blamed_write fits room record
  rw [failed] at blamed
  exact Column.isCellFailure_of_blamed blamed

/-- The outcomes of a record under both policies are bounded in a batch of the right shape that has
room. -/
theorem boundedFailures_write (shaped : Shaped growable type batch) (room : batch.isFull = false)
    (record : Json.Members) :
    BoundedFailures batch fun policy => (mk type policy).write record batch := by
  refine ⟨?_, ?_, ?_, ?_, follows_write type record batch⟩
  · intro policy failure kind failed
    apply Failure.cause_ne_columnMismatch
    exact (failure_write_cases shaped room failed).imp And.right And.right
  · intro grows policy failure failed
    obtain ofCell | ⟨fixed, -⟩ := failure_write_cases (shaped.of_growables grows) room failed
    · exact ofCell
    · cases fixed
  · intro grows
    show ((mk type .nullCell).write record batch).failure = none
    cases failed : ((mk type .nullCell).write record batch).failure with
    | none => rfl
    | some failure =>
      obtain ⟨strict, -⟩ | ⟨fixed, -⟩ :=
        failure_write_cases (shaped.of_growables grows) room failed
      · cases strict
      · cases fixed
  · intro fixed failure failed
    obtain ⟨strict, -⟩ | ⟨-, overflow⟩ :=
      failure_write_cases (shaped.of_growables fixed) room failed
    · cases strict
    · exact overflow

end RecordEncoder

/-- For every record type the encoder is built, with one tree for both policies, and a batch of
whatever capacity but zero is allocated. However a batch of the type was used, its columns have the
tree of the encoder, and as long as it has room the policies bound what can fail. -/
theorem failures_bounded {type : DataType} (valid : type.validateRoot = .ok ()) :
    (∀ capacity, 0 < capacity → ∃ batch, RecordBatch.allocate type capacity = .ok batch) ∧
    ∃ encoders, (∀ policy, RecordEncoder.build type policy = .ok (⟨type, policy⟩, encoders)) ∧
      ∀ batch, RecordBatch.Used type batch →
        Encoder.MatchesFields encoders batch.columns ∧
        (batch.isFull = false → ∀ record : Json.Members,
          RecordEncoder.BoundedFailures batch fun policy =>
            (RecordEncoder.mk type policy).writeBy encoders record batch) := by
  refine ⟨?_, Encoder.plainFields type.fields, RecordEncoder.build_eq valid, ?_⟩
  · intro capacity positive
    obtain ⟨batch, allocated, -⟩ := RecordBatch.exists_allocate valid positive
    exact ⟨batch, allocated⟩
  · intro batch used
    obtain ⟨growable, shaped⟩ := used.exists_shaped
    refine ⟨Encoder.matchesFields_plain type.fields batch.capacity batch.columns shaped.fits, ?_⟩
    intro room record
    have written := RecordEncoder.boundedFailures_write shaped room record
    have byTree : (fun policy => (RecordEncoder.mk type policy).writeBy
        (Encoder.plainFields type.fields) record batch) =
          fun policy => (RecordEncoder.mk type policy).write record batch := by
      funext policy
      exact congrFun (congrFun (RecordEncoder.writeBy_plain ⟨type, policy⟩) record) batch
    rw [byTree]
    exact written

/-- A record with a text for an integer and a list that is too long: where nothing grows the list
fails, where it does only the text, and with null for it nothing does. -/
theorem failures_bounded_mixed :
    let type := DataType.struct .default
      [("a", .ofPrimitive (.integer .regular)), ("b", .listOf (.ofPrimitive .boolean))]
    let grown : RecordBatch := ⟨type, 1, 0, Column.allocateFields 1 type.fields⟩
    let fixed := grown.setGrowable false
    let record : Json.Members := [("a", .text "x"), ("b", .array [.bool true, .null])]
    ∃ encoders, RecordEncoder.build type .nullCell = .ok (⟨type, .nullCell⟩, encoders) ∧
      ((RecordEncoder.mk type .nullCell).writeBy encoders record grown).failure = none ∧
      (∀ failure, ((RecordEncoder.mk type .abort).writeBy encoders record grown).failure =
        some failure → failure.isCellFailure = true) ∧
      ((RecordEncoder.mk type .abort).writeBy encoders record grown).failure =
        some (.inField "a" (.typeMismatch (.primitive (.integer .regular)) .string)) ∧
      ((RecordEncoder.mk type .nullCell).writeBy encoders record fixed).failure =
        some (.inField "b" (.childOverflow 2 1)) := by
  intro type grown fixed record
  have valid : type.validateRoot = .ok () := rfl
  obtain ⟨-, encoders, built, bounded⟩ := failures_bounded valid
  have allocated : RecordBatch.allocate type 1 = .ok grown := rfl
  have begun : RecordBatch.Used type grown := .new allocated
  obtain ⟨-, outcomes⟩ := bounded grown begun
  have grows : ∀ flag ∈ grown.growables, flag = true := by decide
  have outcome := outcomes rfl record
  refine ⟨encoders, built .nullCell, outcome.total grows, ?_, ?_, ?_⟩
  · intro failure failed
    exact (outcome.growing grows .abort failure failed).2
  all_goals
    cases (RecordEncoder.build_eq valid .nullCell).symm.trans (built .nullCell)
    decide +kernel

end Columnar
