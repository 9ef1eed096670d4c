import Columnar.Proofs.Column.Free
/-!
# Writes into a column that is free behind its row

A write flags rows at or before its own only, and child slots only among those it takes. So whatever
becomes of it, a column that was free from a later row on stays free from there on
(`freeFrom_write`).
-/

set_option autoImplicit false

namespace Columnar.Column

variable {growable : Bool} {policy : CellPolicy} {first : Nat}

/-- A column fits its type, has a number of slots, and is free from a row on. -/
def Spare (growable : Bool) (type : DataType) (size first : Nat) (column : Column) : Prop :=
  Reshaped growable type size column ∧ FreeFrom first column

/-- A flag before the free rows leaves them free, and the column in its shape. -/
theorem Spare.setNull {type : DataType} {size row : Nat} {column : Column}
    (spare : Spare growable type size first column) (before : row < first) :
    Spare growable type size first (Column.setNull row column) :=
  ⟨spare.1.setNull row, spare.2.setNull spare.1.1 before⟩

/-- Writing a leaf cell before the free rows leaves them free. -/
theorem freeFrom_write_leaf {kind : Primitive} {attributes : Attributes}
    {extra : List (String × DataType)} {column : Column}
    (fits : Fits growable (.leaf kind attributes extra) column) {row : Nat} (before : row < first)
    (free : FreeFrom first column) (value : Json) :
    FreeFrom first (write policy (.leaf kind attributes extra) value row column).state := by
  rw [write_leaf fits]
  cases LeafCell.outcome policy kind attributes value with
  | error failure => exact free
  | ok cell =>
    cases cell with
    | none => exact free.setNull fits before
    | some cell => exact free.putCell fits cell

/-- The child slots of a list behind those that a row takes stay free. -/
theorem spare_writeList {attributes : Attributes} {element : DataType}
    {extra : List (String × DataType)}
    (step : ∀ value slot child bound, Fits growable element child → slot < bound →
      FreeFrom bound child → FreeFrom bound (write policy element value slot child).state)
    {column : Column} {size : Nat}
    (spare : Spare growable (.list attributes element extra) size first column) (value : Json)
    (row : Nat) :
    Spare growable (.list attributes element extra) size first
      (writeList (write policy element) value row column).state := by
  obtain ⟨⟨fits, sameSize⟩, free⟩ := spare
  have reshaped := reshaped_writeList
    (fun value slot child fits => (reshaped_write growable policy element value slot child fits).1)
    fits value row
  rw [sameSize] at reshaped
  refine ⟨reshaped, ?_⟩
  obtain ⟨nulls, index, child, rfl, -, -, -, childFits⟩ := fits.exists_list
  cases value with
  | array items =>
    rw [writeList]
    cases started : startList row items.length index child with
    | error failure => exact free
    | ok begun =>
      obtain ⟨offset, index', child'⟩ := begun
      obtain ⟨rfl, -, counts, -, enough, growth, rfl⟩ := startList_eq_ok started
      obtain ⟨flags, -, below⟩ := free
      -- The row takes the slots up to the new child count, so the bound does not move with its elements.
      have begins : Spare growable element (growIf growth child).slots
          (index.childCount + items.length) (growIf growth child) :=
        ⟨⟨childFits.growIf growth, rfl⟩,
          FreeFrom.mono (Nat.le_add_right _ _) _ (below.growIf growth)⟩
      have ends := state_writeElements
        (P := Spare growable element (growIf growth child).slots (index.childCount + items.length))
        (fun value slot child inside kept => by
          obtain ⟨⟨kept, slots⟩, free⟩ := kept
          have after := reshaped_write growable policy element value slot child kept
          rw [slots] at after
          exact ⟨after, step value slot child _ kept inside free⟩)
        items index.childCount (growIf growth child) (Nat.le_refl _) begins
      refine ⟨flags, ?_, ?_⟩
      · rw [counts, ends.1.2]
        exact enough
      · rw [counts]
        exact ends.2
  | null | bool | int | real | text | object => exact free

/-- The child slots of a map behind those that a row takes stay free. -/
theorem spare_writeMap {attributes : Attributes} {key entry : DataType}
    {extra : List (String × DataType)}
    (step : ∀ value slot values bound, Fits growable entry values → slot < bound →
      FreeFrom bound values → FreeFrom bound (write policy entry value slot values).state)
    {column : Column} {size : Nat}
    (spare : Spare growable (.map attributes key entry extra) size first column) (value : Json)
    (row : Nat) :
    Spare growable (.map attributes key entry extra) size first
      (writeMap (write policy entry) value row column).state := by
  obtain ⟨⟨fits, sameSize⟩, free⟩ := spare
  have reshaped := reshaped_writeMap
    (fun value slot values fits => (reshaped_write growable policy entry value slot values fits).1)
    fits value row
  rw [sameSize] at reshaped
  refine ⟨reshaped, ?_⟩
  obtain ⟨nulls, index, keys, values, rfl, -, -, -, -, valuesFit⟩ := fits.exists_map
  cases value with
  | object members =>
    rw [writeMap]
    cases started : startMap row members.length index ⟨keys, values⟩ with
    | error failure => exact free
    | ok begun =>
      obtain ⟨offset, index', entries'⟩ := begun
      obtain ⟨rfl, -, counts, -, keyRoom, enough, ⟨growth, sameValues⟩, -⟩ := startMap_eq_ok started
      obtain ⟨flags, -, -, below⟩ := free
      have begins : index.childCount + members.length ≤ entries'.keys.spans.size ∧
          Spare growable entry entries'.values.slots (index.childCount + members.length)
            entries'.values := by
        refine ⟨keyRoom, ⟨?_, rfl⟩, ?_⟩
        · rw [sameValues]
          exact valuesFit.growIf growth
        · rw [sameValues]
          exact FreeFrom.mono (Nat.le_add_right _ _) _ (below.growIf growth)
      -- Every entry is written below the bound, which leaves the slots from there on free.
      have ends := state_writeEntries
        (P := fun entries => index.childCount + members.length ≤ entries.keys.spans.size ∧
          Spare growable entry entries'.values.slots (index.childCount + members.length)
            entries.values)
        (fun key value slot entries inside kept => by
          obtain ⟨keyRoom, ⟨kept, slots⟩, free⟩ := kept
          have after := reshaped_write growable policy entry value slot entries.values kept
          rw [slots] at after
          refine ⟨?_, after, step value slot entries.values _ kept inside free⟩
          simp only [writeEntry, Attempt.state_map, ByteCells.set, Array.size_setIfInBounds]
          exact keyRoom)
        members index.childCount entries' (Nat.le_refl _) begins
      obtain ⟨keyRoom', ⟨-, sameSlots⟩, below'⟩ := ends
      refine ⟨flags, ?_, ?_, ?_⟩
      · rw [counts]
        exact keyRoom'
      · rw [counts, sameSlots]
        exact enough
      · rw [counts]
        exact below'
  | null | bool | int | real | text | array => exact free

mutual

/-- A write into an earlier row leaves a column free from a row on, whether it fails or not. -/
theorem freeFrom_write (growable : Bool) (policy : CellPolicy) : (type : DataType) →
    (value : Json) → (row : Nat) → (column : Column) → (first : Nat) → Fits growable type column →
      row < first → FreeFrom first column →
        FreeFrom first (write policy type value row column).state
  | .leaf _ _ _, value, _, _, _, fits, before, free => freeFrom_write_leaf fits before free value
  | .struct attributes types, value, row, column, first, fits, before, free => by
    have spare : Spare growable (.struct attributes types) column.slots first column :=
      ⟨⟨fits, rfl⟩, free⟩
    rw [write]
    refine (state_guard policy value row spare (fun _ kept => kept.setNull before) ?_).2
    have reshaped := reshaped_writeStruct
      (fun members size fields => fitsFields_writeFields growable policy types size members row
        fields) fits value
    refine ⟨reshaped, ?_⟩
    obtain ⟨nulls, fields, rfl, -, fieldsFit⟩ := fits.exists_struct
    cases value with
    | object members =>
      exact ⟨free.1, freeFieldsFrom_writeFields growable policy types members row nulls.size fields
        first fieldsFit before free.2⟩
    | null | bool | int | real | text | array => exact free
  | .list attributes element extra, value, row, column, first, fits, before, free => by
    have spare : Spare growable (.list attributes element extra) column.slots first column :=
      ⟨⟨fits, rfl⟩, free⟩
    rw [write]
    exact (state_guard policy value row spare (fun _ kept => kept.setNull before)
      (spare_writeList (freeFrom_write growable policy element) spare value row)).2
  | .map attributes key entry extra, value, row, column, first, fits, before, free => by
    have spare : Spare growable (.map attributes key entry extra) column.slots first column :=
      ⟨⟨fits, rfl⟩, free⟩
    rw [write]
    exact (state_guard policy value row spare (fun _ kept => kept.setNull before)
      (spare_writeMap (freeFrom_write growable policy entry) spare value row)).2
termination_by structural type => type

/-- Writing an object before the free rows leaves them free in every field. -/
theorem freeFieldsFrom_writeFields (growable : Bool) (policy : CellPolicy) :
    (types : List (String × DataType)) → (members : Json.Members) → (row size : Nat) →
      (columns : List (String × Column)) → (first : Nat) → FitsFields growable size types columns →
        row < first → FreeFieldsFrom first columns →
          FreeFieldsFrom first (writeFields policy types members row columns).state
  | [], _, _, _, _, _, _, _, free => free
  | _ :: _, _, _, _, [], _, _, _, free => free
  | (name, type) :: types, members, row, size, (columnName, column) :: columns, first, fits, before,
      free => by
    rw [FitsFields] at fits
    obtain ⟨-, -, columnFits, restFit⟩ := fits
    have here := freeFrom_write growable policy type ((Json.Members.get? members name).getD .null)
      row column first columnFits before free.1
    have others := freeFieldsFrom_writeFields growable policy types members row size columns first
      restFit before free.2
    rw [writeFields, writeMember_eq]
    dsimp only [Attempt.within]
    split
    · exact ⟨here, free.2⟩
    · exact ⟨here, others⟩
termination_by structural types => types

end

end Columnar.Column
