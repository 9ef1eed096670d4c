import Columnar.Proofs.Column.FreeWrite
import Columnar.Proofs.Column.LayoutWrite
import Columnar.Proofs.DataType.WellFormed
import Columnar.Proofs.Json.Members
import Columnar.Proofs.Json.Veil
/-!
# Flags that a write finds and leaves

A null flag stays until the column is reset: a value that is written into a flagged cell is there, but
the cell still reads as null. So what a row reads as after a write is what the value is stored as, with
the cells hidden that were flagged before (`valueAt_write`), and the flags after a write are those
before and those of the cells that it makes null up to where it fails (`flagged_write`).
-/

set_option autoImplicit false

namespace Columnar.Column

mutual

/-- Whether the cell at a path below a row of a column is flagged. Paths lead through structs. -/
def flagged : Column → Nat → List String → Bool
  | column, row, [] => column.isNull row
  | struct _ fields, row, name :: path => flaggedFields fields row name path
  | _, _, _ :: _ => false
termination_by structural column => column

/-- Whether the cell at a path below a row is flagged in the column of a field. -/
def flaggedFields : List (String × Column) → Nat → String → List String → Bool
  | [], _, _, _ => false
  | (other, column) :: rest, row, name, path =>
    (other == name && flagged column row path) || flaggedFields rest row name path
termination_by structural fields => fields

end

mutual

/-- The cells that a write of a value flags, up to where it fails. -/
def nulled (policy : CellPolicy) : DataType → Json → List (List String)
  | .struct _ types, .object members => nulledFields policy types members
  | type, value =>
    if leavesNull policy type value && (fault policy type value).isNone then [[]] else []
termination_by structural type => type

/-- The cells that a write of the members of an object flags, up to where it fails. -/
def nulledFields (policy : CellPolicy) :
    List (String × DataType) → Json.Members → List (List String)
  | [], _ => []
  | (name, type) :: types, members =>
    let value := (members.get? name).getD .null
    (nulled policy type value).map (name :: ·) ++
      if (fault policy type value).isNone then nulledFields policy types members else []
termination_by structural types => types

end

variable {growable : Bool} {policy : CellPolicy} {row : Nat}

/-! ### Flags -/

@[simp] theorem flagged_nil (column : Column) (row : Nat) :
    flagged column row [] = column.isNull row := by
  cases column <;> rfl

/-- Only structs have cells below them. -/
theorem flagged_leaf {kind : Primitive} {attributes : Attributes} {column : Column}
    (fits : FitsPrimitive kind attributes column) (row : Nat) (name : String)
    (path : List String) : flagged column row (name :: path) = false := by
  cases column <;> first | rfl | exact fits.elim

/-- Below a name that no field has there is no flag. -/
theorem flaggedFields_of_not_mem {name : String} {columns : List (String × Column)}
    (absent : name ∉ columns.map Prod.fst) (row : Nat) (path : List String) :
    flaggedFields columns row name path = false := by
  induction columns with
  | nil => rfl
  | cons column rest ih =>
    rw [List.map_cons, List.mem_cons, not_or] at absent
    have other : (column.1 == name) = false := beq_false_of_ne (Ne.symm absent.1)
    rw [flaggedFields, other, ih absent.2]
    rfl

/-- A flag is set beside those that are there. -/
theorem flagged_setNull {type : DataType} {column : Column} (fits : Fits growable type column)
    (inside : row < column.slots) (path : List String) :
    flagged (setNull row column) row path = (flagged column row path || [[]].contains path) := by
  cases path with
  | nil =>
    have here := fits.isNull_setNull_self inside
    simp [here]
  | cons name path =>
    have apart : [[]].contains (name :: path) = false := by simp
    rw [apart, Bool.or_false]
    cases column <;> rfl

/-- A cell that is stored does not touch a flag, and so stays null if it was. -/
theorem flagged_putCell (cell : LeafCell) (column : Column) (path : List String) :
    flagged (putCell row cell column) row path = flagged column row path := by
  cases path with
  | nil => rw [flagged_nil, flagged_nil, isNull, nulls_putCell, isNull]
  | cons name path => cases column <;> cases cell <;> rfl

/-- A value of the wrong kind has the fault that it is of the wrong kind. -/
theorem fault_of_leavesNull {type : DataType} (composite : ∀ kind, type.category ≠ .primitive kind)
    {value : Json} (null : leavesNull policy type value = true) :
    fault policy type value = kindFault policy type.category value := by
  cases type with
  | leaf kind attributes extra => exact absurd rfl (composite kind)
  | struct attributes types => cases value <;> first | rfl | cases null
  | list attributes element extra => cases value <;> first | rfl | cases null
  | map attributes key entry extra => cases value <;> first | rfl | cases null

/-- A value that leaves its cell null and is not refused nulls this cell and none below it. -/
theorem nulled_of_leavesNull {type : DataType} {value : Json}
    (null : leavesNull policy type value = true) :
    nulled policy type value = if (fault policy type value).isNone then [[]] else [] := by
  cases type with
  | leaf | list | map =>
    rw [nulled, null, Bool.true_and]
    nofun
  | struct attributes types =>
    cases value with
    | object members => cases null
    | null | bool | int | real | text | array =>
      rw [nulled, null, Bool.true_and]
      nofun

/-- The path of a member goes through its name. -/
theorem contains_map_cons (paths : List (List String)) (name other : String) (path : List String) :
    (paths.map (name :: ·)).contains (other :: path) = (name == other && paths.contains path) := by
  induction paths with
  | nil => simp
  | cons first rest ih =>
    rw [List.map_cons, List.contains_cons, List.contains_cons, ih]
    by_cases same : name = other
    · subst same
      simp
    · have apart : (name == other) = false := beq_false_of_ne same
      simp [apart, Ne.symm same]

/-- Writing the members of an object nulls fields, never the struct itself. -/
theorem contains_nil_nulledFields (types : List (String × DataType)) (members : Json.Members) :
    (nulledFields policy types members).contains [] = false := by
  induction types with
  | nil => rfl
  | cons field types ih =>
    obtain ⟨name, type⟩ := field
    rw [nulledFields]
    cases (fault policy type ((Json.Members.get? members name).getD .null)).isNone <;>
      simp_all

/-! ### Flags after a write -/

/-- A leaf cell is flagged after a write if it was before or if the value makes it null. -/
theorem flagged_write_leaf {kind : Primitive} {attributes : Attributes}
    {extra : List (String × DataType)} {column : Column}
    (fits : Fits growable (.leaf kind attributes extra) column) (inside : row < column.slots)
    (value : Json) (path : List String) :
    flagged (write policy (.leaf kind attributes extra) value row column).state row path =
      (flagged column row path ||
        (nulled policy (.leaf kind attributes extra) value).contains path) := by
  rw [write_leaf fits, nulled, leavesNull, fault]
  · cases LeafCell.outcome policy kind attributes value with
    | error failure => exact (Bool.or_false _).symm
    | ok cell =>
      cases cell with
      | none => exact flagged_setNull fits inside path
      | some cell => exact (flagged_putCell cell column path).trans (Bool.or_false _).symm
  · intro _ _ _ same _
    cases same

/-- A value of the wrong kind flags its own cell or none. -/
theorem flagged_write_of_leavesNull {type : DataType} {column : Column}
    (fits : Fits growable type column) (composite : ∀ kind, type.category ≠ .primitive kind)
    (inside : row < column.slots) {value : Json} (null : leavesNull policy type value = true)
    (path : List String) :
    flagged (write policy type value row column).state row path =
      (flagged column row path || (nulled policy type value).contains path) := by
  rw [write_of_leavesNull fits composite null, nulled_of_leavesNull null,
    fault_of_leavesNull composite null]
  unfold refuse
  cases kindFault policy type.category value with
  | none => exact flagged_setNull fits inside path
  | some failure => exact (Bool.or_false _).symm

/-- A list that is written sets no flag of its own; those of its items lie in the child column. -/
theorem flagged_writeList (writer : Json → Nat → Column → Attempt Column) (nulls : NullMask)
    (index : ChildIndex) (child : Column) (items : List Json) (path : List String) :
    flagged (writeList writer (.array items) row (list nulls index child)).state row path =
      flagged (list nulls index child) row path := by
  rw [writeList]
  cases startList row items.length index child with
  | error failure => rfl
  | ok begun => cases path <;> rfl

/-- A map that is written sets no flag of its own; those of its values lie in the column of values.
-/
theorem flagged_writeMap (writer : Json → Nat → Column → Attempt Column) (nulls : NullMask)
    (index : ChildIndex) (keys : ByteCells) (values : Column) (members : Json.Members)
    (path : List String) :
    flagged (writeMap writer (.object members) row (map nulls index keys values)).state row path =
      flagged (map nulls index keys values) row path := by
  rw [writeMap]
  cases startMap row members.length index ⟨keys, values⟩ with
  | error failure => rfl
  | ok begun => cases path <;> rfl

mutual

/-- The flags after a write are those before and those that the write sets. -/
theorem flagged_write (policy : CellPolicy) : (type : DataType) → (value : Json) → (row : Nat) →
    (column : Column) → Fits true type column → row < column.slots → (path : List String) →
      flagged (write policy type value row column).state row path =
        (flagged column row path || (nulled policy type value).contains path)
  | .leaf _ _ _, value, _, _, fits, inside, path => flagged_write_leaf fits inside value path
  | .struct attributes types, value, row, column, fits, inside, path => by
    cases value with
    | object members =>
      obtain ⟨nulls, fields, rfl, -⟩ := fits.exists_struct
      rw [write_struct fits, nulled]
      rw [Fits] at fits
      cases path with
      | nil =>
        rw [contains_nil_nulledFields, Bool.or_false]
        rfl
      | cons name path =>
        exact flaggedFields_writeFields policy types members row nulls.size fields fits.2 inside name
          path
    | null | bool | int | real | text | array =>
      exact flagged_write_of_leavesNull fits nofun inside rfl path
  | .list attributes element extra, value, row, column, fits, inside, path => by
    cases value with
    | array items =>
      obtain ⟨nulls, index, child, rfl, -⟩ := fits.exists_list
      rw [write_list fits, flagged_writeList]
      exact (Bool.or_false _).symm
    | null | bool | int | real | text | object =>
      exact flagged_write_of_leavesNull fits nofun inside rfl path
  | .map attributes key entry extra, value, row, column, fits, inside, path => by
    cases value with
    | object members =>
      obtain ⟨nulls, index, keys, values, rfl, -⟩ := fits.exists_map
      rw [write_map fits, flagged_writeMap]
      exact (Bool.or_false _).symm
    | null | bool | int | real | text | array =>
      exact flagged_write_of_leavesNull fits nofun inside rfl path
termination_by structural type => type

/-- Writing an object flags the cells that its members make null, up to the first field that fails,
and no others. -/
theorem flaggedFields_writeFields (policy : CellPolicy) : (types : List (String × DataType)) →
    (members : Json.Members) → (row size : Nat) → (columns : List (String × Column)) →
      FitsFields true size types columns → row < size → (name : String) → (path : List String) →
        flaggedFields (writeFields policy types members row columns).state row name path =
          (flaggedFields columns row name path ||
            (nulledFields policy types members).contains (name :: path))
  | [], _, _, _, columns, _, _, _, _ => (Bool.or_false _).symm
  | _ :: _, _, _, _, [], fits, _, _, _ => fits.elim
  | (other, type) :: types, members, row, size, (columnName, column) :: columns, fits, inside, name,
      path => by
    obtain ⟨rfl, enough, columnFits, restFit⟩ := fits
    have here := flagged_write policy type ((Json.Members.get? members columnName).getD .null) row
      column columnFits (by omega) path
    have others := flaggedFields_writeFields policy types members row size columns restFit inside
      name path
    have blamed := (blamed_write true policy type
      ((Json.Members.get? members columnName).getD .null) row column columnFits).of_growable
    rw [writeFields, writeMember_eq, nulledFields, List.contains_append, contains_map_cons]
    dsimp only [Attempt.within]
    rw [blamed]
    cases fault policy type ((Json.Members.get? members columnName).getD .null) with
    | some failure =>
      simp only [Option.map_some, Attempt.state_failed, flaggedFields, here, Option.isNone_some]
      simp [Bool.and_or_distrib_left, Bool.or_right_comm]
    | none =>
      simp only [Option.map_none, Attempt.state_map, flaggedFields, here, others, Option.isNone_none]
      simp [Bool.and_or_distrib_left, Bool.or_assoc, Bool.or_left_comm]
termination_by structural types => types

end

/-! ### Reading what was written -/

/-- A value that is written into a free row reads as what it is stored as. -/
theorem valueAt_write_of_freeFrom {type : DataType} {value : Json} {column : Column}
    (fits : Fits growable type column) (inside : row < column.slots) (free : FreeFrom row column)
    (clean : (write policy type value row column).failure = none) :
    valueAt (write policy type value row column).state row = stored policy type value := by
  have after := (reshaped_write growable policy type value row column fits).1
  have begun := holds_of_freeFrom policy type column fits row free (Nat.le_of_lt inside) [some value]
  have landed := lands_write growable policy type column column row [] [] value fits inside begun
    (taken_self type column fits)
  exact Holds.valueAt_eq type column _ after _ (landed.holds clean) 0 value rfl

/-- A list that is written reads as it would in a column without flags, unless its row was flagged
before. -/
theorem valueAt_writeList (writer : Json → Nat → Column → Attempt Column) (nulls : NullMask)
    (index : ChildIndex) (child : Column) (items : List Json) :
    valueAt (writeList writer (.array items) row (list nulls index child)).state row =
      if nulls.isNull row then .null
      else valueAt (writeList writer (.array items) row
        (list (.ofSize nulls.size) index child)).state row := by
  rw [writeList, writeList]
  cases startList row items.length index child with
  | error failure => simp [valueAt]
  | ok begun => simp [valueAt, Attempt.map]

/-- A map that is written reads as it would in a column without flags, unless its row was flagged
before. -/
theorem valueAt_writeMap (writer : Json → Nat → Column → Attempt Column) (nulls : NullMask)
    (index : ChildIndex) (keys : ByteCells) (values : Column) (members : Json.Members) :
    valueAt (writeMap writer (.object members) row (map nulls index keys values)).state row =
      if nulls.isNull row then .null
      else valueAt (writeMap writer (.object members) row
        (map (.ofSize nulls.size) index keys values)).state row := by
  rw [writeMap, writeMap]
  cases startMap row members.length index ⟨keys, values⟩ with
  | error failure => simp [valueAt]
  | ok begun => simp [valueAt, Attempt.map]

/-- A leaf reads as what it is stored as, unless it was flagged before. -/
theorem valueAt_write_leaf {kind : Primitive} {attributes : Attributes}
    {extra : List (String × DataType)} {column : Column}
    (fits : Fits growable (.leaf kind attributes extra) column) (inside : row < column.slots)
    {value : Json} (sound : fault policy (.leaf kind attributes extra) value = none) :
    valueAt (write policy (.leaf kind attributes extra) value row column).state row =
      (stored policy (.leaf kind attributes extra) value).veil (flagged column row) := by
  rw [Json.veil_of_shallow _ (flagged_leaf fits row), flagged_nil, write_leaf fits]
  rw [fault] at sound
  cases written : LeafCell.outcome policy kind attributes value with
  | error failure =>
    rw [written] at sound
    cases sound
  | ok cell =>
    rw [stored_leaf written]
    cases cell with
    | none =>
      have null := valueAt_of_isNull (fits.isNull_setNull_self inside)
      exact null.trans (ite_self _).symm
    | some cell => exact valueAt_putCell_self fits inside (LeafCell.kind_of_outcome written)

/-- A value of the wrong kind reads as null. -/
theorem valueAt_write_of_leavesNull {type : DataType} {column : Column}
    (fits : Fits growable type column) (composite : ∀ kind, type.category ≠ .primitive kind)
    (inside : row < column.slots) {value : Json} (null : leavesNull policy type value = true)
    (sound : fault policy type value = none) :
    valueAt (write policy type value row column).state row =
      (stored policy type value).veil (flagged column row) := by
  rw [fault_of_leavesNull composite null] at sound
  rw [write_of_leavesNull fits composite null, refuse, sound, stored_of_leavesNull null,
    Json.veil_null]
  exact valueAt_of_isNull (fits.isNull_setNull_self inside)

/-- A list that is written reads as stored if its row was not flagged, and as null if it was. -/
theorem valueAt_write_array {attributes : Attributes} {element : DataType}
    {extra : List (String × DataType)} {column : Column}
    (fits : Fits true (.list attributes element extra) column) (inside : row < column.slots)
    (free : FreeFrom (row + 1) column) {items : List Json}
    (sound : fault policy (.list attributes element extra) (.array items) = none) :
    valueAt (write policy (.list attributes element extra) (.array items) row column).state row =
      (stored policy (.list attributes element extra) (.array items)).veil (flagged column row) := by
  obtain ⟨nulls, index, child, rfl, consistent, rest⟩ := fits.exists_list
  -- The list is written as it would be if its row was not flagged.
  have clear : Fits true (.list attributes element extra) (list (.ofSize nulls.size) index child) :=
    ⟨NullMask.consistent_ofSize _, by rw [NullMask.size_ofSize]; exact rest.1, rest.2⟩
  have unflagged : FreeFrom row (list (.ofSize nulls.size) index child) :=
    ⟨fun other _ => NullMask.isNull_ofSize _ other, free.2⟩
  have clean : (write policy (.list attributes element extra) (.array items) row
      (list (.ofSize nulls.size) index child)).failure = none :=
    (blamed_write true policy _ _ row _ clear).of_growable.trans sound
  have reads := valueAt_write_of_freeFrom clear inside unflagged clean
  rw [write_list clear] at reads
  rw [write_list fits, valueAt_writeList, reads, Json.veil_of_shallow _ fun _ _ => rfl]
  rfl

/-- A map that is written reads as stored if its row was not flagged, and as null if it was. -/
theorem valueAt_write_entries {attributes : Attributes} {key entry : DataType}
    {extra : List (String × DataType)} {column : Column}
    (fits : Fits true (.map attributes key entry extra) column) (inside : row < column.slots)
    (free : FreeFrom (row + 1) column) {members : Json.Members}
    (sound : fault policy (.map attributes key entry extra) (.object members) = none) :
    valueAt (write policy (.map attributes key entry extra) (.object members) row column).state row =
      (stored policy (.map attributes key entry extra) (.object members)).veil
        (flagged column row) := by
  obtain ⟨nulls, index, keys, values, rfl, consistent, rest⟩ := fits.exists_map
  -- The map is written as it would be if its row was not flagged.
  have clear : Fits true (.map attributes key entry extra)
      (map (.ofSize nulls.size) index keys values) :=
    ⟨NullMask.consistent_ofSize _, by rw [NullMask.size_ofSize]; exact rest.1, rest.2⟩
  have unflagged : FreeFrom row (map (.ofSize nulls.size) index keys values) :=
    ⟨fun other _ => NullMask.isNull_ofSize _ other, free.2⟩
  have clean : (write policy (.map attributes key entry extra) (.object members) row
      (map (.ofSize nulls.size) index keys values)).failure = none :=
    (blamed_write true policy _ _ row _ clear).of_growable.trans sound
  have reads := valueAt_write_of_freeFrom clear inside unflagged clean
  rw [write_map clear] at reads
  rw [write_map fits, valueAt_writeMap, reads, Json.veil_of_shallow _ fun _ _ => rfl]
  rfl

/-! The names of fields differ, so that each field has its own flags. -/

/-- Columns of fields have the names of the fields. -/
theorem names_of_fitsFields {size : Nat} : (types : List (String × DataType)) →
    (columns : List (String × Column)) → FitsFields growable size types columns →
      columns.map Prod.fst = types.map Prod.fst
  | [], [], _ => rfl
  | [], _ :: _, fits => fits.elim
  | _ :: _, [], fits => fits.elim
  | (_, _) :: types, (_, _) :: columns, fits => by
    rw [List.map_cons, List.map_cons, fits.1, names_of_fitsFields types columns fits.2.2.2]

/-- An object is stored with the names of the fields, in their order. -/
theorem names_storedFields (types : List (String × DataType)) (members : Json.Members) :
    (storedFields policy types members).map Prod.fst = types.map Prod.fst := by
  rw [storedFields_eq_map, List.map_map]
  rfl

mutual

/-- What a row reads as after a write is what the value is stored as, but for the cells that were
flagged before. -/
theorem valueAt_write (policy : CellPolicy) : (type : DataType) → type.WellFormed →
    (value : Json) → (row : Nat) → (column : Column) → Fits true type column →
      row < column.slots → FreeFrom (row + 1) column → fault policy type value = none →
        valueAt (write policy type value row column).state row =
          (stored policy type value).veil (flagged column row)
  | .leaf _ _ _, _, _, _, _, fits, inside, _, sound => valueAt_write_leaf fits inside sound
  | .struct attributes types, wellFormed, value, row, column, fits, inside, free, sound => by
    cases value with
    | object members =>
      obtain ⟨nulls, fields, rfl, -⟩ := fits.exists_struct
      obtain ⟨distinct, fieldsWellFormed⟩ := wellFormed
      have fieldsFit := fits
      rw [Fits] at fieldsFit
      have reads := fieldValues_writeFields policy types fieldsWellFormed members row nulls.size
        fields fieldsFit.2 inside free.2 sound (flagged (struct nulls fields) row)
        (fun name _ path => rfl) distinct
      have names : ((storedFields policy types members).map Prod.fst).Nodup := by
        rw [names_storedFields]
        exact distinct
      rw [write_struct fits, stored, Json.objectOf_of_nodup names, Json.veil, Attempt.state_map,
        valueAt, reads, Json.objectOf_of_nodup]
      · rfl
      · rw [Json.names_veilMembers]
        exact names
    | null | bool | int | real | text | array =>
      exact valueAt_write_of_leavesNull fits nofun inside rfl sound
  | .list _ _ _, _, value, _, _, fits, inside, free, sound => by
    cases value with
    | array items => exact valueAt_write_array fits inside free sound
    | null | bool | int | real | text | object =>
      exact valueAt_write_of_leavesNull fits nofun inside rfl sound
  | .map _ _ _ _, _, value, _, _, fits, inside, free, sound => by
    cases value with
    | object members => exact valueAt_write_entries fits inside free sound
    | null | bool | int | real | text | array =>
      exact valueAt_write_of_leavesNull fits nofun inside rfl sound
termination_by structural type => type

/-- An object that is written reads as stored, field by field, with the cells hidden that were
flagged before. The names differ, so a flag of one field hides nothing of another. -/
theorem fieldValues_writeFields (policy : CellPolicy) : (types : List (String × DataType)) →
    DataType.FieldsWellFormed types → (members : Json.Members) → (row size : Nat) →
      (columns : List (String × Column)) → FitsFields true size types columns → row < size →
        FreeFieldsFrom (row + 1) columns → faultFields policy types members = none →
          (hidden : List String → Bool) →
            (∀ name ∈ types.map Prod.fst, ∀ path,
              hidden (name :: path) = flaggedFields columns row name path) →
              (types.map Prod.fst).Nodup →
                fieldValues (writeFields policy types members row columns).state row =
                  Json.veilMembers (storedFields policy types members) hidden
  | [], _, _, _, _, [], _, _, _, _, _, _, _ => rfl
  | [], _, _, _, _, _ :: _, fits, _, _, _, _, _, _ => fits.elim
  | _ :: _, _, _, _, _, [], fits, _, _, _, _, _, _ => fits.elim
  | (_, type) :: types, wellFormed, members, row, size, (columnName, column) :: columns, fits,
      inside, free, sound, hidden, covers, distinct => by
    obtain ⟨rfl, enough, columnFits, restFit⟩ := fits
    rw [List.map_cons, List.nodup_cons] at distinct
    obtain ⟨once, distinct⟩ := distinct
    rw [faultFields, Option.or_eq_none_iff, Option.map_eq_none_iff] at sound
    obtain ⟨soundHere, soundRest⟩ := sound
    have first := valueAt_write policy type wellFormed.1
      ((Json.Members.get? members columnName).getD .null) row column columnFits (by omega) free.1
      soundHere
    -- No later field has the name of the first, so the flags under it are its own.
    have own : ∀ path, hidden (columnName :: path) = flagged column row path := by
      intro path
      have absent : columnName ∉ columns.map Prod.fst := by
        rw [names_of_fitsFields types columns restFit]
        exact once
      rw [covers columnName List.mem_cons_self, flaggedFields, flaggedFields_of_not_mem absent]
      simp
    have others := fieldValues_writeFields policy types wellFormed.2 members row size columns restFit
      inside free.2 soundRest hidden
      (by
        intro name among path
        have apart : (columnName == name) = false :=
          beq_false_of_ne fun same => once (same ▸ among)
        rw [covers name (List.mem_cons_of_mem _ among), flaggedFields, apart]
        rfl)
      distinct
    have blamed := (blamed_write true policy type
      ((Json.Members.get? members columnName).getD .null) row column columnFits).of_growable
    rw [soundHere] at blamed
    rw [writeFields, writeMember_eq, storedFields_cons, Json.veilMembers, funext own]
    dsimp only [Attempt.within]
    rw [blamed, Option.map_none]
    dsimp only
    rw [Attempt.state_map, fieldValues, others, first]
termination_by structural types => types

end

end Columnar.Column
