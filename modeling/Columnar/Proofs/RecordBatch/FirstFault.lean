import Columnar.Proofs.Column.Visits
import Columnar.Proofs.RecordBatch.Policies
/-!
# The first fault of a record

Where failures stop a write and child columns may grow, a record is refused exactly if a write of it
comes to a cell that cannot store its value. What is reported is the refusal of the first such cell,
with the names of the fields and keys that lead to it (`fails_at_first`). The batch takes no part in
it: neither the rows that it holds nor how it was used before change what is reported.
-/

set_option autoImplicit false

namespace Columnar

open Column (Reaches visits)

/-- Whatever a cell refuses, it is one of the failures that the other policy turns into null. -/
theorem Visit.isCellFailure_of_refusal {visit : Visit} {cause : Failure}
    (refused : visit.refusal = some cause) : cause.isCellFailure = true := by
  obtain ⟨path, type, value⟩ := visit
  unfold refusal at refused
  split at refused
  · cases refused
  · split at refused
    · next kind attributes extra same =>
      cases encoded : LeafCell.encode kind attributes value with
      | ok cell => simp [failureOf, encoded] at refused
      | error failure =>
        simp only [failureOf, encoded, Option.some.injEq] at refused
        subst refused
        exact LeafCell.isCellFailure_of_encode encoded
    · dsimp only [Category.check] at refused
      split at refused
      · cases refused
      · cases refused
        rfl

/-- How a write of a value fails at the first cell that cannot store its part. -/
structure FailsAtFirst (type : DataType) (value : Json) (failure : Option Failure) : Prop where
  /-- It fails exactly if it comes to such a cell. -/
  fails_iff : failure ≠ none ↔ ∃ visit, Reaches type value visit ∧ visit.refusal ≠ none
  /-- What is reported is why the first such cell refuses, with the names on the path to it. -/
  first : ∀ reported, failure = some reported → ∃ before visit after cause,
    visits type value = before ++ visit :: after ∧
    (∀ earlier ∈ before, earlier.refusal = none) ∧
    visit.refusal = some cause ∧ reported = cause.under visit.names
  /-- The names hide neither its class nor that it is the failure of a cell. -/
  conversion : ∀ reported, failure = some reported →
    reported.classOf = .conversion ∧ reported.isCellFailure = true

/-- The first refusal among the cells that a write comes to is what it is reported to be, with the
cells before it named that do not refuse. -/
theorem failsAtFirst_findSome? (type : DataType) (value : Json) :
    FailsAtFirst type value ((visits type value).findSome? Visit.failure) := by
  have first : ∀ reported, (visits type value).findSome? Visit.failure = some reported →
      ∃ before visit after cause, visits type value = before ++ visit :: after ∧
        (∀ earlier ∈ before, earlier.refusal = none) ∧
        visit.refusal = some cause ∧ reported = cause.under visit.names := by
    intro reported found
    obtain ⟨before, visit, after, split, failed, passed⟩ := List.findSome?_eq_some_iff.mp found
    obtain ⟨cause, refused, rfl⟩ := Option.map_eq_some_iff.mp failed
    exact ⟨before, visit, after, cause, split,
      fun earlier among => Option.map_eq_none_iff.mp (passed earlier among), refused, rfl⟩
  refine ⟨?_, first, ?_⟩
  · simp only [ne_eq, List.findSome?_eq_none_iff, Visit.failure, Option.map_eq_none_iff,
      Column.mem_visits_iff, Classical.not_forall, exists_prop]
  · intro reported found
    obtain ⟨before, visit, after, cause, -, -, refused, rfl⟩ := first reported found
    have ofCell := Visit.isCellFailure_of_refusal refused
    rw [Failure.classOf_under, Failure.isCellFailure_under]
    exact ⟨Failure.classOf_of_isCellFailure ofCell, ofCell⟩

/-- What a record is refused for by a batch that has room for it, where failures stop the write and
child columns may grow. -/
theorem fails_at_first {type : DataType} (valid : type.validateRoot = .ok ()) {batch : RecordBatch}
    (used : RecordBatch.Used type batch) (room : batch.isFull = false)
    (grows : ∀ flag ∈ batch.growables, flag = true) (record : Json.Members) :
    ∃ encoder, RecordEncoder.ofType type .abort = .ok encoder ∧
      FailsAtFirst type (.object record) (encoder.write record batch).failure := by
  let encoder : RecordEncoder := ⟨type, .abort⟩
  refine ⟨encoder, by rw [RecordEncoder.ofType, valid]; rfl, ?_⟩
  obtain ⟨_, shaped⟩ := used.exists_shaped
  have growing : RecordBatch.Shaped true encoder.type batch := shaped.of_growables grows
  have blamed := RecordEncoder.blamed_write growing room record
  obtain ⟨attributes, same⟩ := shaped.exists_struct
  have whole : Column.faultFields .abort type.fields record =
      Column.fault .abort type (.object record) := by
    rw [same]
    rfl
  rw [blamed.of_growable]
  show FailsAtFirst type _ (Column.faultFields .abort type.fields record)
  rw [whole, Column.fault_abort]
  exact failsAtFirst_findSome? type (.object record)

/-- A decimal beyond its precision is no fault; the text for an integer in a list under a key is, and
it is reported before the boolean that follows. -/
theorem fails_at_first_nested :
    let type := DataType.struct .default
      [("a", .leaf .decimal ⟨3, 0, 0⟩ []),
        ("m", .mapOf (.ofPrimitive (.text .string)) (.listOf (.ofPrimitive (.integer .regular)))),
        ("b", .ofPrimitive .boolean)]
    let batch : RecordBatch := ⟨type, 1, 0, Column.allocateFields 1 type.fields⟩
    let record : Json.Members :=
      [("b", .int 1), ("m", .object [("k", .array [.int 7, .text "x"])]), ("a", .text "99999")]
    let reported := Failure.inField "m"
      (.inField "k" (.typeMismatch (.primitive (.integer .regular)) .string))
    type.validateRoot = .ok () ∧ batch.isFull = false ∧
      (∀ flag ∈ batch.growables, flag = true) ∧
      ∃ encoder, RecordEncoder.ofType type .abort = .ok encoder ∧
        (encoder.write record batch).failure = some reported ∧
        ∃ visit ∈ visits type (.object record),
          visit.path = [.field "m", .entry "k", .item 1] ∧
          reported = Failure.under visit.names (.typeMismatch (.primitive (.integer .regular))
            .string) ∧
          reported.isCellFailure = true := by
  intro type batch record reported
  have valid : type.validateRoot = .ok () := rfl
  have allocated : RecordBatch.allocate type 1 = .ok batch := rfl
  have grows : ∀ flag ∈ batch.growables, flag = true := by decide
  obtain ⟨encoder, built, fails⟩ := fails_at_first valid (.new allocated) rfl grows record
  refine ⟨valid, rfl, grows, encoder, built, ?_⟩
  cases built
  have failed : ((RecordEncoder.mk type .abort).write record batch).failure = some reported := by
    decide +kernel
  let refusing : Visit := ⟨[], .ofPrimitive (.integer .regular), .text "x"⟩
  have item : Reaches (.listOf refusing.type) (.array [.int 7, .text "x"])
      (refusing.below (.item 1)) := .item rfl (.here _ _)
  have entry : Reaches (.mapOf (.ofPrimitive (.text .string)) (.listOf refusing.type))
      (.object [("k", .array [.int 7, .text "x"])]) ((refusing.below (.item 1)).below (.entry "k")) :=
    .entry List.mem_cons_self item
  have reached : Reaches type (.object record)
      (((refusing.below (.item 1)).below (.entry "k")).below (.field "m")) :=
    .field (List.mem_cons_of_mem _ List.mem_cons_self) entry
  exact ⟨failed, _, Column.mem_visits_iff.mpr reached, rfl, rfl, (fails.conversion _ failed).2⟩

end Columnar
