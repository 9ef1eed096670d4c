import Columnar.Proofs.Column.Stored
/-!
# What the policies make of a write

Whatever is wrong with a value is a failure of a cell (`isCellFailure_of_fault`), under however many
names, so a write fails with a failure of a cell or for want of child slots and never because a column
is of the wrong kind. The policies differ in nothing else: a write that goes through where failures
stop it goes through with the same column where they turn cells null (`follows_write`).
-/

set_option autoImplicit false

namespace Columnar

/-! ### What went wrong -/

/-- What went wrong, without the names on the way to it. -/
def Failure.cause : Failure → Failure
  | inField _ cause => cause.cause
  | failure => failure

/-- A column of the wrong kind is neither a failure of a cell nor a want of child slots. -/
theorem Failure.cause_ne_columnMismatch {failure : Failure}
    (known : failure.isCellFailure = true ∨ failure.isChildOverflow = true) (kind : ColumnKind) :
    failure.cause ≠ .columnMismatch kind := by
  induction failure with
  | inField name cause ih => exact ih known
  | columnMismatch expected => simp [isCellFailure, isChildOverflow] at known
  | _ => simp [cause]

/-! ### Attempts that follow others -/

/-- An attempt comes to what a stricter one comes to, if that one goes through. -/
def Attempt.Follows {σ : Type} (lenient strict : Attempt σ) : Prop :=
  strict.failure = none → lenient = strict

namespace Attempt.Follows

variable {σ τ : Type} {lenient strict : Attempt σ}

/-- An attempt follows itself. -/
theorem refl (attempt : Attempt σ) : attempt.Follows attempt := fun _ => rfl

/-- What follows in a part follows in the whole. -/
theorem map (follows : lenient.Follows strict) (f : σ → τ) :
    (lenient.map f).Follows (strict.map f) := by
  intro clean
  rw [follows clean]

/-- A name on the way to a failure does not matter for what follows, since there is none. -/
theorem within (follows : lenient.Follows strict) (name : String) :
    (lenient.within name).Follows (strict.within name) := by
  intro clean
  rw [follows ((failure_within_eq_none_iff name strict).mp clean)]

/-- Two operations in a row follow two others if each of them follows its own. -/
theorem andThen (follows : lenient.Follows strict) {next next' : σ → Attempt σ}
    (others : ∀ state, (next' state).Follows (next state)) :
    (lenient.andThen next').Follows (strict.andThen next) := by
  intro clean
  obtain ⟨first, second⟩ := (failure_andThen_eq_none_iff strict next).mp clean
  rw [follows first, andThen_of_clean first, andThen_of_clean first]
  exact others strict.state second

end Attempt.Follows

namespace Column

open Attempt (Follows)

/-! ### What is wrong with a value -/

/-- A value that is of the wrong kind fails as a cell. -/
theorem isCellFailure_of_kindFault {policy : CellPolicy} {category : Category} {value : Json}
    {failure : Failure} (faulty : kindFault policy category value = some failure) :
    failure.isCellFailure = true := by
  unfold kindFault at faulty
  split at faulty
  · cases faulty
  · cases faulty
    rfl

mutual

/-- What is wrong with a value is wrong with one of its cells. -/
theorem isCellFailure_of_fault (policy : CellPolicy) : (type : DataType) → (value : Json) →
    (failure : Failure) → fault policy type value = some failure → failure.isCellFailure = true
  | .leaf kind attributes extra, value, failure, faulty => by
    rw [fault] at faulty
    split at faulty
    · cases faulty
    · next refused =>
      cases faulty
      exact (LeafCell.outcome_eq_error refused).2
  | .struct _ types, value, failure, faulty => by
    cases value with
    | object members => exact isCellFailure_of_faultFields policy types members failure faulty
    | null | bool | int | real | text | array => exact isCellFailure_of_kindFault faulty
  | .list _ element _, value, failure, faulty => by
    cases value with
    | array items =>
      obtain ⟨item, -, faulty⟩ := List.exists_of_findSome?_eq_some faulty
      exact isCellFailure_of_fault policy element item failure faulty
    | null | bool | int | real | text | object => exact isCellFailure_of_kindFault faulty
  | .map _ _ entry _, value, failure, faulty => by
    cases value with
    | object members =>
      obtain ⟨member, -, faulty⟩ := List.exists_of_findSome?_eq_some faulty
      obtain ⟨cause, below, rfl⟩ := Option.map_eq_some_iff.mp faulty
      exact isCellFailure_of_fault policy entry member.2 cause below
    | null | bool | int | real | text | array => exact isCellFailure_of_kindFault faulty
termination_by structural type => type

/-- What is wrong with a member of an object is a failure of a cell, under the name of the member.
-/
theorem isCellFailure_of_faultFields (policy : CellPolicy) : (types : List (String × DataType)) →
    (members : Json.Members) → (failure : Failure) →
      faultFields policy types members = some failure → failure.isCellFailure = true
  | [], _, _, faulty => by cases faulty
  | (name, type) :: types, members, failure, faulty => by
    rw [faultFields] at faulty
    obtain first | ⟨-, rest⟩ := Option.or_eq_some_iff.mp faulty
    · obtain ⟨cause, below, rfl⟩ := Option.map_eq_some_iff.mp first
      exact isCellFailure_of_fault policy type _ cause below
    · exact isCellFailure_of_faultFields policy types members failure rest
termination_by structural types => types

end

/-! ### Writes under both policies -/

/-- A guarded write that fails for nothing is the same whatever becomes of failures. -/
theorem follows_guard {value : Json} {row : Nat} {lenient strict : Column → Attempt Column}
    {column : Column} (follows : (lenient column).Follows (strict column)) :
    (guard .nullCell value row lenient column).Follows
      (guard .abort value row strict column) := by
  intro clean
  unfold guard at clean ⊢
  by_cases null : value.isNull = true
  · rw [if_pos null, if_pos null]
  · rw [if_neg null] at clean
    rw [if_neg null, if_neg null]
    have inside : (strict column).failure = none := by
      cases failed : (strict column).failure with
      | none => rfl
      | some failure =>
        simp only [failed, reduceCtorEq, false_and, if_false] at clean
    rw [follows inside]
    simp only [inside]

variable {lenient strict : Json → Nat → Column → Attempt Column}

/-- A run of elements follows another if the write of each element does. -/
theorem follows_writeElements
    (step : ∀ element slot child, (lenient element slot child).Follows (strict element slot child)) :
    ∀ (items : List Json) (slot : Nat) (child : Column),
      (writeElements lenient items slot child).Follows (writeElements strict items slot child) := by
  intro items
  induction items with
  | nil => exact fun slot child => .refl _
  | cons element rest ih =>
    intro slot child
    rw [writeElements, writeElements]
    apply Follows.andThen (step element slot child)
    exact ih (slot + 1)

/-- A run of entries follows another if the write of each value does; the keys are the same. -/
theorem follows_writeEntries
    (step : ∀ value slot values, (lenient value slot values).Follows (strict value slot values)) :
    ∀ (members : Json.Members) (slot : Nat) (entries : Entries),
      (writeEntries lenient members slot entries).Follows
        (writeEntries strict members slot entries) := by
  intro members
  induction members with
  | nil => exact fun slot entries => .refl _
  | cons member rest ih =>
    intro slot entries
    rw [writeEntries, writeEntries]
    apply Follows.andThen
    · exact ((step member.2 slot entries.values).within member.1).map _
    · exact ih (slot + 1)

/-- A struct follows another if the write of its members does; whatever is no object is refused by
both. -/
theorem follows_writeStruct
    {lenient strict : Json.Members → List (String × Column) → Attempt (List (String × Column))}
    (step : ∀ members fields, (lenient members fields).Follows (strict members fields))
    (value : Json) (column : Column) :
    (writeStruct lenient value column).Follows (writeStruct strict value column) := by
  unfold writeStruct
  split
  · exact (step _ _).map _
  · exact .refl _
  · exact .refl _

/-- A list follows another if the write of its elements does; taking child slots has no part in it.
-/
theorem follows_writeList
    (step : ∀ element slot child, (lenient element slot child).Follows (strict element slot child))
    (value : Json) (row : Nat) (column : Column) :
    (writeList lenient value row column).Follows (writeList strict value row column) := by
  unfold writeList
  split
  · split
    · exact (follows_writeElements step _ _ _).map _
    · exact .refl _
  · exact .refl _
  · exact .refl _

/-- A map follows another if the write of its values does; taking child slots has no part in it. -/
theorem follows_writeMap
    (step : ∀ value slot values, (lenient value slot values).Follows (strict value slot values))
    (value : Json) (row : Nat) (column : Column) :
    (writeMap lenient value row column).Follows (writeMap strict value row column) := by
  unfold writeMap
  split
  · split
    · exact (follows_writeEntries step _ _ _).map _
    · exact .refl _
  · exact .refl _
  · exact .refl _

mutual

/-- A write that goes through where failures stop it leaves the same column where they turn cells
null, whatever the column is like. -/
theorem follows_write : (type : DataType) → (value : Json) → (row : Nat) → (column : Column) →
    (write .nullCell type value row column).Follows (write .abort type value row column)
  | .leaf _ _ _, _, _, _ => follows_guard (.refl _)
  | .struct _ types, value, row, column =>
    follows_guard (follows_writeStruct
      (fun members fields => follows_writeFields types members row fields) value column)
  | .list _ element _, value, row, column =>
    follows_guard (follows_writeList (follows_write element) value row column)
  | .map _ _ entry _, value, row, column =>
    follows_guard (follows_writeMap (follows_write entry) value row column)
termination_by structural type => type

/-- The fields of a struct go through with the same columns under both policies if they go through
where failures stop them. -/
theorem follows_writeFields : (types : List (String × DataType)) → (members : Json.Members) →
    (row : Nat) → (columns : List (String × Column)) →
      (writeFields .nullCell types members row columns).Follows
        (writeFields .abort types members row columns)
  | [], _, _, _ => .refl _
  | _ :: _, _, _, [] => .refl _
  | (name, type) :: types, members, row, (columnName, column) :: columns => by
    have first : (writeMember (write .nullCell type) name (members.get? name) row column).Follows
        (writeMember (write .abort type) name (members.get? name) row column) := by
      cases members.get? name with
      | none => exact .refl _
      | some value => exact (follows_write type value row column).within name
    have rest := follows_writeFields types members row columns
    intro clean
    rw [writeFields] at clean ⊢
    rw [writeFields]
    cases failed : (writeMember (write .abort type) name (members.get? name) row column).failure with
    | some failure =>
      simp only [failed] at clean
      cases clean
    | none =>
      simp only [failed] at clean
      rw [first failed]
      simp only [failed]
      exact rest.map _ clean
termination_by structural types => types

end

end Column

end Columnar
