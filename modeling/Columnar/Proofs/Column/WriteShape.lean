import Columnar.Proofs.Column.Shape
/-!
# Writes keep the shape of a column

A write, whether it fails or not, leaves a column that fits its type and has as many slots as before,
even if the value is written as one of another type (`reshaped_write_any`). The steps that every
statement about writing shares come first: what a guarded write, a run of elements and a run of
entries keep when each of their parts keeps it.
-/

set_option autoImplicit false

namespace Columnar

namespace Column

variable {writer : Json → Nat → Column → Attempt Column}

/-! ### What runs keep -/

/-- A guarded write keeps what the write and a flag keep. -/
theorem state_guard {P : Column → Prop} (policy : CellPolicy) (value : Json) (row : Nat)
    {unguarded : Column → Attempt Column} {column : Column} (before : P column)
    (flagged : ∀ other, P other → P (setNull row other)) (written : P (unguarded column).state) :
    P (guard policy value row unguarded column).state := by
  unfold guard
  split
  · exact flagged column before
  · dsimp only
    split
    · split
      · exact flagged _ written
      · exact written
    · exact written

/-- A run of elements keeps what each element keeps in the slots up to a bound. -/
theorem state_writeElements {P : Column → Prop} {bound : Nat}
    (step : ∀ element slot child, slot < bound → P child → P (writer element slot child).state) :
    ∀ (items : List Json) (slot : Nat) (child : Column), slot + items.length ≤ bound → P child →
      P (writeElements writer items slot child).state := by
  intro items
  induction items with
  | nil => exact fun _ _ _ before => before
  | cons element rest ih =>
    intro slot child inside before
    rw [List.length_cons] at inside
    have here : slot < bound := by omega
    have others : slot + 1 + rest.length ≤ bound := by omega
    rw [writeElements]
    exact Attempt.state_andThen (step element slot child here before) (ih (slot + 1) _ others)

/-- A run of entries keeps what each entry keeps in the slots up to a bound. -/
theorem state_writeEntries {P : Entries → Prop} {bound : Nat}
    (step : ∀ key value slot entries, slot < bound → P entries →
      P (writeEntry writer key value slot entries).state) :
    ∀ (members : Json.Members) (slot : Nat) (entries : Entries), slot + members.length ≤ bound →
      P entries → P (writeEntries writer members slot entries).state := by
  intro members
  induction members with
  | nil => exact fun _ _ _ before => before
  | cons member rest ih =>
    intro slot entries inside before
    rw [List.length_cons] at inside
    have here : slot < bound := by omega
    have others : slot + 1 + rest.length ≤ bound := by omega
    rw [writeEntries]
    exact Attempt.state_andThen (step member.1 member.2 slot entries here before)
      (ih (slot + 1) _ others)

/-! ### Taking child slots -/

/-- What a list column is like once a row has taken child slots: the slots are those behind the ones
taken, and the child column, grown if need be, has them. -/
theorem startList_eq_ok {row count offset : Nat} {index index' : ChildIndex} {child child' : Column}
    (started : startList row count index child = .ok (offset, index', child')) :
    offset = index.childCount ∧
      index'.spans = index.spans.setIfInBounds row ⟨index.childCount, count⟩ ∧
      index'.childCount = index.childCount + count ∧ index'.growable = index.growable ∧
      index.childCount + count ≤ child'.slots ∧ ∃ growth, child' = growIf growth child := by
  unfold startList at started
  cases taken : index.take row count (slots child) with
  | error failure =>
    rw [taken] at started
    cases started
  | ok taking =>
    rw [taken] at started
    cases started
    obtain ⟨sameOffset, spans, counts, allowed, stays, grows⟩ := ChildIndex.take_eq_ok taken
    refine ⟨sameOffset, spans, counts, allowed, ?_, taking.growth, rfl⟩
    cases growth : taking.growth with
    | none => exact stays growth
    | some size =>
      rw [growIf, slots_grow]
      have room := grows size growth
      omega

/-- A list is refused child slots only if its child must not grow, and for that reason. -/
theorem startList_eq_error {row count : Nat} {index : ChildIndex} {child : Column}
    {failure : Failure} (refused : startList row count index child = .error failure) :
    index.growable = false ∧ failure.isChildOverflow = true := by
  unfold startList at refused
  cases taken : index.take row count (slots child) with
  | error cause =>
    rw [taken] at refused
    cases refused
    obtain ⟨fixed, rfl⟩ := ChildIndex.take_eq_error taken
    exact ⟨fixed, rfl⟩
  | ok taking =>
    rw [taken] at refused
    cases refused

/-- What a map column is like once a row has taken child slots: the slots are those behind the ones
taken, and keys and values, grown if need be, have them. -/
theorem startMap_eq_ok {row count offset : Nat} {index index' : ChildIndex} {entries entries' : Entries}
    (started : startMap row count index entries = .ok (offset, index', entries')) :
    offset = index.childCount ∧
      index'.spans = index.spans.setIfInBounds row ⟨index.childCount, count⟩ ∧
      index'.childCount = index.childCount + count ∧ index'.growable = index.growable ∧
      index.childCount + count ≤ entries'.keys.spans.size ∧
      index.childCount + count ≤ entries'.values.slots ∧
      (∃ growth, entries'.values = growIf growth entries.values) ∧
      (entries'.keys = entries.keys ∨ ∃ size, entries'.keys = entries.keys.grow size) := by
  unfold startMap at started
  cases taken : index.take row count (min entries.keys.spans.size (slots entries.values)) with
  | error failure =>
    rw [taken] at started
    cases started
  | ok taking =>
    rw [taken] at started
    cases started
    obtain ⟨sameOffset, spans, counts, allowed, stays, grows⟩ := ChildIndex.take_eq_ok taken
    cases growth : taking.growth with
    | none =>
      have room := stays growth
      exact ⟨sameOffset, spans, counts, allowed, by dsimp only; omega,
        by simp only [growIf]; omega, ⟨none, rfl⟩, .inl rfl⟩
    | some size =>
      have room := grows size growth
      exact ⟨sameOffset, spans, counts, allowed, by simp [ByteCells.grow]; omega,
        by simp only [growIf, slots_grow]; omega, ⟨some size, rfl⟩, .inr ⟨size, rfl⟩⟩

/-- A map is refused child slots only if its entries must not grow, and for that reason. -/
theorem startMap_eq_error {row count : Nat} {index : ChildIndex} {entries : Entries}
    {failure : Failure} (refused : startMap row count index entries = .error failure) :
    index.growable = false ∧ failure.isChildOverflow = true := by
  unfold startMap at refused
  cases taken : index.take row count (min entries.keys.spans.size (slots entries.values)) with
  | error cause =>
    rw [taken] at refused
    cases refused
    obtain ⟨fixed, rfl⟩ := ChildIndex.take_eq_error taken
    exact ⟨fixed, rfl⟩
  | ok taking =>
    rw [taken] at refused
    cases refused

/-- A child column that may have had to grow fits its type. -/
theorem Fits.growIf {growable : Bool} {type : DataType} {column : Column}
    (fits : Fits growable type column) (growth : Option Nat) :
    Fits growable type (growIf growth column) := by
  cases growth with
  | none => exact fits
  | some size => exact Fits.grow size type column fits

/-! ### Writes -/

/-- A column fits its type and has a number of slots. -/
def Reshaped (growable : Bool) (type : DataType) (size : Nat) (column : Column) : Prop :=
  Fits growable type column ∧ column.slots = size

section

variable {growable : Bool} {size : Nat}

/-- Flagging a row leaves the shape and the number of slots. -/
theorem Reshaped.setNull {type : DataType} {column : Column}
    (kept : Reshaped growable type size column) (row : Nat) :
    Reshaped growable type size (Column.setNull row column) :=
  ⟨kept.1.setNull row, by rw [slots_setNull, kept.2]⟩

/-- What a leaf is written as, whatever the column is, is a cell put into it or a null flag. -/
theorem exists_place_of_writeLeaf {kind : Primitive} {value : Json} {row : Nat}
    {column written : Column} (stored : writeLeaf kind value row column = .ok written) :
    ∃ cell, written = place row cell column := by
  unfold writeLeaf at stored
  split at stored
  · obtain ⟨b, -, same⟩ := LeafCell.eq_ok_of_bind stored
    cases same
    exact ⟨some (.long _), rfl⟩
  · obtain ⟨n, -, same⟩ := LeafCell.eq_ok_of_bind stored
    cases same
    exact ⟨some (.long n), rfl⟩
  · obtain ⟨x, -, same⟩ := LeafCell.eq_ok_of_bind stored
    cases same
    exact ⟨some (.double x), rfl⟩
  · obtain ⟨text, -, same⟩ := LeafCell.eq_ok_of_bind stored
    cases same
    exact ⟨some (.bytes text.toUTF8), rfl⟩
  · obtain ⟨text, -, same⟩ := LeafCell.eq_ok_of_bind stored
    split at same <;> cases same
    exact ⟨some (.bytes _), rfl⟩
  · obtain ⟨text, -, same⟩ := LeafCell.eq_ok_of_bind stored
    split at same <;> cases same
    · exact ⟨some (.decimal _), rfl⟩
    · exact ⟨none, rfl⟩
  · obtain ⟨text, -, same⟩ := LeafCell.eq_ok_of_bind stored
    split at same <;> cases same
    exact ⟨some (.timestamp _), rfl⟩
  · cases stored

/-- Structs, lists and maps have no cells of their own, so nothing is put there. -/
theorem Fits.place {growable : Bool} {type : DataType} {column : Column}
    (fits : Fits growable type column) (row : Nat) (cell : Option LeafCell) :
    Fits growable type (place row cell column) := by
  cases cell with
  | none => exact fits.setNull row
  | some cell =>
    cases type with
    | leaf kind attributes extra => exact FitsPrimitive.putCell fits row cell
    | struct attributes types =>
      obtain ⟨nulls, fields, rfl, -⟩ := fits.exists_struct
      cases cell <;> exact fits
    | list attributes element extra =>
      obtain ⟨nulls, index, child, rfl, -⟩ := fits.exists_list
      cases cell <;> exact fits
    | map attributes key entry extra =>
      obtain ⟨nulls, index, keys, values, rfl, -⟩ := fits.exists_map
      cases cell <;> exact fits

/-- Writing a leaf, of whatever type the column is, leaves the shape and the number of slots. -/
theorem reshaped_writeLeaf {type : DataType} {column : Column} (fits : Fits growable type column)
    (kind : Primitive) (value : Json) (row : Nat) :
    Reshaped growable type column.slots
      (Attempt.ofExcept column (writeLeaf kind value row column)).state := by
  cases stored : writeLeaf kind value row column with
  | error failure => exact ⟨fits, rfl⟩
  | ok written =>
    obtain ⟨cell, rfl⟩ := exists_place_of_writeLeaf stored
    exact ⟨fits.place row cell, slots_place row cell column⟩

/-- A struct column fits struct types only. -/
theorem Fits.exists_type_struct {type : DataType} {nulls : NullMask} {fields : List (String × Column)}
    (fits : Fits growable type (struct nulls fields)) :
    ∃ attributes types, type = .struct attributes types := by
  cases type with
  | struct attributes types => exact ⟨attributes, types, rfl⟩
  | leaf => exact fits.elim
  | list | map => simp [Fits] at fits

/-- A list column fits list types only. -/
theorem Fits.exists_type_list {type : DataType} {nulls : NullMask} {index : ChildIndex}
    {child : Column} (fits : Fits growable type (list nulls index child)) :
    ∃ attributes element extra, type = .list attributes element extra := by
  cases type with
  | list attributes element extra => exact ⟨attributes, element, extra, rfl⟩
  | leaf => exact fits.elim
  | struct | map => simp [Fits] at fits

/-- A map column fits map types only. -/
theorem Fits.exists_type_map {type : DataType} {nulls : NullMask} {index : ChildIndex}
    {keys : ByteCells} {values : Column} (fits : Fits growable type (map nulls index keys values)) :
    ∃ attributes key entry extra, type = .map attributes key entry extra := by
  cases type with
  | map attributes key entry extra => exact ⟨attributes, key, entry, extra, rfl⟩
  | leaf => exact fits.elim
  | struct | list => simp [Fits] at fits

/-- Writing an object leaves the shape of a struct column if writing its members does. -/
theorem reshaped_writeStruct {attributes : Attributes} {types : List (String × DataType)}
    {writeMembers : Json.Members → List (String × Column) → Attempt (List (String × Column))}
    (step : ∀ members size fields, FitsFields growable size types fields →
      FitsFields growable size types (writeMembers members fields).state)
    {column : Column} (fits : Fits growable (.struct attributes types) column) (value : Json) :
    Reshaped growable (.struct attributes types) column.slots
      (writeStruct writeMembers value column).state := by
  obtain ⟨nulls, fields, rfl, consistent, fieldsFit⟩ := fits.exists_struct
  cases value with
  | object members =>
    refine ⟨?_, rfl⟩
    rw [writeStruct, Attempt.state_map, Fits]
    exact ⟨consistent, step members nulls.size fields fieldsFit⟩
  | null | bool | int | real | text | array => exact ⟨fits, rfl⟩

/-- Writing a list leaves the shape of a list column if writing an element does. -/
theorem reshaped_writeList {attributes : Attributes} {element : DataType}
    {extra : List (String × DataType)}
    (step : ∀ value slot child, Fits growable element child →
      Fits growable element (writer value slot child).state)
    {column : Column} (fits : Fits growable (.list attributes element extra) column)
    (value : Json) (row : Nat) :
    Reshaped growable (.list attributes element extra) column.slots
      (writeList writer value row column).state := by
  obtain ⟨nulls, index, child, rfl, consistent, sizes, allowed, childFits⟩ := fits.exists_list
  cases value with
  | array items =>
    rw [writeList]
    cases started : startList row items.length index child with
    | error failure => exact ⟨fits, rfl⟩
    | ok start =>
      obtain ⟨offset, index', child'⟩ := start
      obtain ⟨-, spans, -, sameAllowed, -, growth, rfl⟩ := startList_eq_ok started
      refine ⟨?_, by simp [Attempt.map, slots, spans]⟩
      rw [Attempt.state_map, Fits, spans, Array.size_setIfInBounds, sameAllowed]
      exact ⟨consistent, sizes, allowed,
        state_writeElements (fun value slot child _ => step value slot child) items offset _
          (Nat.le_refl _) (childFits.growIf growth)⟩
  | null | bool | int | real | text | object => exact ⟨fits, rfl⟩

/-- Writing a map leaves the shape of a map column if writing a value does. -/
theorem reshaped_writeMap {attributes : Attributes} {key entry : DataType}
    {extra : List (String × DataType)}
    (step : ∀ value slot values, Fits growable entry values →
      Fits growable entry (writer value slot values).state)
    {column : Column} (fits : Fits growable (.map attributes key entry extra) column)
    (value : Json) (row : Nat) :
    Reshaped growable (.map attributes key entry extra) column.slots
      (writeMap writer value row column).state := by
  obtain ⟨nulls, index, keys, values, rfl, consistent, sizes, allowed, keysFit, valuesFit⟩ :=
    fits.exists_map
  cases value with
  | object members =>
    rw [writeMap]
    cases started : startMap row members.length index ⟨keys, values⟩ with
    | error failure => exact ⟨fits, rfl⟩
    | ok start =>
      obtain ⟨offset, index', entries'⟩ := start
      obtain ⟨-, spans, -, sameAllowed, -, -, ⟨growth, sameValues⟩, sameKeys⟩ :=
        startMap_eq_ok started
      have before : entries'.keys.HoldKeys ∧ Fits growable entry entries'.values := by
        refine ⟨?_, sameValues ▸ valuesFit.growIf growth⟩
        obtain same | ⟨more, same⟩ := sameKeys
        · exact same ▸ keysFit
        · exact same ▸ keysFit.grow more
      have after := state_writeEntries
        (P := fun entries => entries.keys.HoldKeys ∧ Fits growable entry entries.values)
        (fun key value slot entries _ kept =>
          ⟨kept.1.set slot key.toUTF8, step value slot entries.values kept.2⟩)
        members offset entries' (Nat.le_refl _) before
      refine ⟨?_, by simp [Attempt.map, slots, spans]⟩
      rw [Attempt.state_map, Fits, spans, Array.size_setIfInBounds, sameAllowed]
      exact ⟨consistent, sizes, allowed, after.1, after.2⟩
  | null | bool | int | real | text | array => exact ⟨fits, rfl⟩

end

mutual

/-- A write, of a value of whatever type, leaves a column that fits its own type and has as many slots
as before, whether the write fails or not. -/
theorem reshaped_write_any (growable : Bool) (policy : CellPolicy) :
    (other : DataType) → (type : DataType) → (value : Json) → (row : Nat) → (column : Column) →
      Fits growable type column →
        Reshaped growable type column.slots (write policy other value row column).state
  | .leaf kind attributes extra, type, value, row, column, fits => by
    rw [write]
    exact state_guard policy value row ⟨fits, rfl⟩ (fun _ kept => kept.setNull row)
      (reshaped_writeLeaf fits kind value row)
  | .struct attributes types, type, value, row, column, fits => by
    rw [write]
    apply state_guard policy value row ⟨fits, rfl⟩ (fun _ kept => kept.setNull row)
    -- A writer that does not match the column leaves it alone; one that does meets children that
    -- may be of another type again.
    cases column with
    | struct nulls fields =>
      obtain ⟨attributes, own, rfl⟩ := fits.exists_type_struct
      exact reshaped_writeStruct
        (fun members size fields => fitsFields_writeFields_any growable policy types own size members
          row fields) fits value
    | _ => exact ⟨fits, rfl⟩
  | .list attributes element extra, type, value, row, column, fits => by
    rw [write]
    apply state_guard policy value row ⟨fits, rfl⟩ (fun _ kept => kept.setNull row)
    cases column with
    | list nulls index child =>
      obtain ⟨attributes, own, extra, rfl⟩ := fits.exists_type_list
      exact reshaped_writeList
        (fun value slot child childFits =>
          (reshaped_write_any growable policy element own value slot child childFits).1) fits value
        row
    | _ => exact ⟨fits, rfl⟩
  | .map attributes key entry extra, type, value, row, column, fits => by
    rw [write]
    apply state_guard policy value row ⟨fits, rfl⟩ (fun _ kept => kept.setNull row)
    cases column with
    | map nulls index keys values =>
      obtain ⟨attributes, ownKey, own, extra, rfl⟩ := fits.exists_type_map
      exact reshaped_writeMap
        (fun value slot values valuesFit =>
          (reshaped_write_any growable policy entry own value slot values valuesFit).1) fits value
        row
    | _ => exact ⟨fits, rfl⟩
termination_by structural other => other

/-- Writing the members of an object leaves the shape of the fields, even if they are written as
other types. -/
theorem fitsFields_writeFields_any (growable : Bool) (policy : CellPolicy) :
    (others types : List (String × DataType)) → (size : Nat) → (members : Json.Members) →
      (row : Nat) → (columns : List (String × Column)) → FitsFields growable size types columns →
        FitsFields growable size types (writeFields policy others members row columns).state
  | [], _, _, _, _, _, fits => fits
  | _ :: _, _, _, _, _, [], fits => fits
  | _ :: _, [], _, _, _, _ :: _, fits => by simp [FitsFields] at fits
  | (name, other) :: others, (typeName, type) :: types, size, members, row,
      (columnName, column) :: columns, fits => by
    rw [FitsFields] at fits
    obtain ⟨sameName, enough, first, rest⟩ := fits
    have kept : Reshaped growable type column.slots
        (writeMember (write policy other) name (members.get? name) row column).state := by
      cases members.get? name with
      | none => exact Reshaped.setNull ⟨first, rfl⟩ row
      | some value => exact reshaped_write_any growable policy other type value row column first
    rw [writeFields]
    split
    · rw [Attempt.state_failed, FitsFields]
      exact ⟨sameName, by rw [kept.2]; exact enough, kept.1, rest⟩
    · rw [Attempt.state_map, FitsFields]
      exact ⟨sameName, by rw [kept.2]; exact enough, kept.1,
        fitsFields_writeFields_any growable policy others types size members row columns rest⟩
termination_by structural others => others

end

/-- A write of a value of the type of the column, which is what encoders do. -/
theorem reshaped_write (growable : Bool) (policy : CellPolicy) (type : DataType) (value : Json)
    (row : Nat) (column : Column) (fits : Fits growable type column) :
    Reshaped growable type column.slots (write policy type value row column).state :=
  reshaped_write_any growable policy type type value row column fits

/-- Writing the members of an object leaves the shape of the fields. -/
theorem fitsFields_writeFields (growable : Bool) (policy : CellPolicy)
    (types : List (String × DataType)) (size : Nat) (members : Json.Members) (row : Nat)
    (columns : List (String × Column)) (fits : FitsFields growable size types columns) :
    FitsFields growable size types (writeFields policy types members row columns).state :=
  fitsFields_writeFields_any growable policy types types size members row columns fits

end Column

end Columnar
