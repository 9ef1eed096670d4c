import Columnar.Proofs.Column.ChildSlots
/-!
# Where a column is free

A column is free from a row on when no row from there on is flagged, and its child columns are free
behind the slots that are taken. A new column is free everywhere, and so is one that was reset. Where
a column is free it holds every plan of which nothing is written yet (`holds_of_freeFrom`), whatever
stale spans, values and bytes it still has.
-/

set_option autoImplicit false

namespace Columnar.Column

mutual

/-- No row from a first one on is flagged, and no child slot behind those taken is. -/
def FreeFrom (first : Nat) : Column → Prop
  | struct nulls fields =>
    (∀ row, first ≤ row → nulls.isNull row = false) ∧ FreeFieldsFrom first fields
  | list nulls index child =>
    (∀ row, first ≤ row → nulls.isNull row = false) ∧ index.childCount ≤ child.slots ∧
      FreeFrom index.childCount child
  | map nulls index keys values =>
    (∀ row, first ≤ row → nulls.isNull row = false) ∧ index.childCount ≤ keys.spans.size ∧
      index.childCount ≤ values.slots ∧ FreeFrom index.childCount values
  | leaf => ∀ row, first ≤ row → leaf.isNull row = false
termination_by structural column => column

/-- No row from a first one on is flagged in the columns of fields. -/
def FreeFieldsFrom (first : Nat) : List (String × Column) → Prop
  | [] => True
  | (_, column) :: rest => FreeFrom first column ∧ FreeFieldsFrom first rest
termination_by structural fields => fields

end

/-- Rows from there on are not flagged. -/
theorem FreeFrom.isNull {first : Nat} {column : Column} (free : FreeFrom first column) {row : Nat}
    (behind : first ≤ row) : column.isNull row = false := by
  cases column with
  | struct nulls fields => exact free.1 row behind
  | list nulls index child => exact free.1 row behind
  | map nulls index keys values => exact free.1 row behind
  | long | double | bytes | decimal | timestamp => exact free row behind

mutual

/-- A new column is free everywhere. -/
theorem freeFrom_allocate (size : Nat) : (type : DataType) → FreeFrom 0 (allocate size type)
  | .leaf kind attributes extra => by
    rw [allocate]
    cases kind <;> exact fun row _ => NullMask.isNull_ofSize size row
  | .struct _ types =>
    ⟨fun row _ => NullMask.isNull_ofSize size row, freeFieldsFrom_allocate size types⟩
  | .list _ element _ =>
    ⟨fun row _ => NullMask.isNull_ofSize size row, Nat.zero_le _, freeFrom_allocate size element⟩
  | .map _ _ entry _ =>
    ⟨fun row _ => NullMask.isNull_ofSize size row, Nat.zero_le _, Nat.zero_le _,
      freeFrom_allocate size entry⟩
termination_by structural type => type

/-- New columns of fields are free everywhere. -/
theorem freeFieldsFrom_allocate (size : Nat) :
    (types : List (String × DataType)) → FreeFieldsFrom 0 (allocateFields size types)
  | [] => by trivial
  | (_, type) :: types => ⟨freeFrom_allocate size type, freeFieldsFrom_allocate size types⟩
termination_by structural types => types

end

mutual

/-- A column that was reset is free everywhere. -/
theorem freeFrom_reset : (column : Column) → FreeFrom 0 (reset column)
  | long _ cells => fun row _ => NullMask.isNull_reset cells.nulls row
  | double cells => fun row _ => NullMask.isNull_reset cells.nulls row
  | bytes cells => fun row _ => NullMask.isNull_reset cells.nulls row
  | decimal _ _ cells => fun row _ => NullMask.isNull_reset cells.nulls row
  | timestamp cells => fun row _ => NullMask.isNull_reset cells.nulls row
  | struct nulls fields =>
    ⟨fun row _ => NullMask.isNull_reset nulls row, freeFieldsFrom_reset fields⟩
  | list nulls _ child =>
    ⟨fun row _ => NullMask.isNull_reset nulls row, Nat.zero_le _, freeFrom_reset child⟩
  | map nulls _ _ values =>
    ⟨fun row _ => NullMask.isNull_reset nulls row, Nat.zero_le _, Nat.zero_le _,
      freeFrom_reset values⟩
termination_by structural column => column

/-- After a reset the columns of fields are free everywhere. -/
theorem freeFieldsFrom_reset :
    (columns : List (String × Column)) → FreeFieldsFrom 0 (resetFields columns)
  | [] => by trivial
  | (_, column) :: columns => ⟨freeFrom_reset column, freeFieldsFrom_reset columns⟩
termination_by structural columns => columns

end

/-! ### What does not disturb free rows -/

mutual

/-- A column that is free from a row on is free from any later row on. -/
theorem FreeFrom.mono {first later : Nat} (behind : first ≤ later) :
    (column : Column) → FreeFrom first column → FreeFrom later column
  | struct _ fields, free =>
    ⟨fun row inside => free.1 row (Nat.le_trans behind inside),
      FreeFieldsFrom.mono behind fields free.2⟩
  | list _ _ _, free => ⟨fun row inside => free.1 row (Nat.le_trans behind inside), free.2⟩
  | map _ _ _ _, free => ⟨fun row inside => free.1 row (Nat.le_trans behind inside), free.2⟩
  | long _ _, free | double _, free | bytes _, free | decimal _ _ _, free | timestamp _, free =>
    fun row inside => free row (Nat.le_trans behind inside)
termination_by structural column => column

/-- Fields that are free from a row on are free from any later one on. -/
theorem FreeFieldsFrom.mono {first later : Nat} (behind : first ≤ later) :
    (columns : List (String × Column)) → FreeFieldsFrom first columns → FreeFieldsFrom later columns
  | [], _ => by trivial
  | (_, column) :: columns, free =>
    ⟨FreeFrom.mono behind column free.1, FreeFieldsFrom.mono behind columns free.2⟩
termination_by structural columns => columns

end

mutual

/-- The slots that a column grows by are free. -/
theorem FreeFrom.grow {first : Nat} (size : Nat) :
    (column : Column) → FreeFrom first column → FreeFrom first (Column.grow size column)
  | struct nulls fields, free =>
    ⟨fun row inside => (NullMask.isNull_grow nulls size row).trans (free.1 row inside),
      FreeFieldsFrom.grow size fields free.2⟩
  | list nulls _ _, free =>
    ⟨fun row inside => (NullMask.isNull_grow nulls size row).trans (free.1 row inside), free.2⟩
  | map nulls _ _ _, free =>
    ⟨fun row inside => (NullMask.isNull_grow nulls size row).trans (free.1 row inside), free.2⟩
  | long _ _, free | double _, free | bytes _, free | decimal _ _ _, free | timestamp _, free =>
    fun row inside => (isNull_grow size _ row).trans (free row inside)
termination_by structural column => column

/-- New rows of the fields are not flagged, so they are as free as before. -/
theorem FreeFieldsFrom.grow {first : Nat} (size : Nat) :
    (columns : List (String × Column)) → FreeFieldsFrom first columns →
      FreeFieldsFrom first (growFields size columns)
  | [], _ => by trivial
  | (_, column) :: columns, free =>
    ⟨FreeFrom.grow size column free.1, FreeFieldsFrom.grow size columns free.2⟩
termination_by structural columns => columns

end

/-- A child column that may have had to grow is as free as before. -/
theorem FreeFrom.growIf {first : Nat} {column : Column} (free : FreeFrom first column)
    (growth : Option Nat) : FreeFrom first (Column.growIf growth column) := by
  cases growth with
  | none => exact free
  | some size => exact FreeFrom.grow size column free

/-- Flagging an earlier row leaves a column free. -/
theorem FreeFrom.setNull {growable : Bool} {type : DataType} {column : Column}
    (fits : Fits growable type column) {first row : Nat} (before : row < first)
    (free : FreeFrom first column) : FreeFrom first (Column.setNull row column) := by
  have same : ∀ other, first ≤ other → (Column.setNull row column).isNull other = false := by
    intro other behind
    have apart : other ≠ row := by omega
    rw [isNull_setNull_of_ne fits.consistent apart]
    exact free.isNull behind
  cases column with
  | struct nulls fields => exact ⟨same, free.2⟩
  | list nulls index child => exact ⟨same, free.2⟩
  | map nulls index keys values => exact ⟨same, free.2⟩
  | long | double | bytes | decimal | timestamp => exact same

/-- A cell that is stored sets no flag, wherever it goes. -/
theorem FreeFrom.putCell {kind : Primitive} {attributes : Attributes} {column : Column}
    (fits : FitsPrimitive kind attributes column) {first row : Nat} (free : FreeFrom first column)
    (cell : LeafCell) : FreeFrom first (Column.putCell row cell column) := by
  have same : ∀ other, first ≤ other → (Column.putCell row cell column).isNull other = false := by
    intro other behind
    rw [Column.isNull, nulls_putCell]
    exact free.isNull behind
  cases column <;> try exact fits.elim
  all_goals cases cell <;> exact same

/-! ### Plans of which nothing is written -/

/-- Where no row is flagged, the flags are those of every plan of which nothing is written. -/
theorem marked_of_freeFrom {first : Nat} {column : Column} (free : FreeFrom first column)
    (inside : first ≤ column.slots) (null : Json → Bool) (due : List (Option Json)) :
    Marked null ⟨first, [], due⟩ column := by
  refine ⟨inside, ?_, ?_⟩
  · intro i value written
    simp at written
  · intro i flag
    rw [free.isNull (Nat.le_add_right first i)] at flag
    cases flag

mutual

/-- A free column holds every plan of which nothing is written. -/
theorem holds_of_freeFrom {growable : Bool} (policy : CellPolicy) : (type : DataType) →
    (column : Column) → Fits growable type column → (first : Nat) → FreeFrom first column →
      first ≤ column.slots → (due : List (Option Json)) →
        Holds policy type column ⟨first, [], due⟩ column
  | .leaf _ _ _, column, _, first, free, inside, due => by
    refine ⟨marked_of_freeFrom free inside _ due, ?_⟩
    intro i value written
    simp at written
  | .struct _ types, _, fits, first, free, inside, due => by
    obtain ⟨nulls, fields, rfl, -, fieldsFit⟩ := fits.exists_struct
    exact ⟨marked_of_freeFrom free inside _ due,
      holdsFields_of_freeFieldsFrom policy types nulls.size fields fieldsFit first free.2 inside due⟩
  | .list _ element _, _, fits, first, free, inside, due => by
    obtain ⟨nulls, index, child, rfl, -, -, -, childFits⟩ := fits.exists_list
    refine ⟨marked_of_freeFrom free inside _ due, ?_, ?_⟩
    · intro i value written
      simp at written
    · exact holds_of_freeFrom policy element child childFits index.childCount free.2.2 free.2.1 _
  | .map _ _ entry _, _, fits, first, free, inside, due => by
    obtain ⟨nulls, index, keys, values, rfl, -, -, -, -, valuesFit⟩ := fits.exists_map
    refine ⟨marked_of_freeFrom free inside _ due, ?_, ?_, ?_⟩
    · intro i value written
      simp at written
    · refine ⟨free.2.1, ?_⟩
      intro i name written
      simp at written
    · exact holds_of_freeFrom policy entry values valuesFit index.childCount free.2.2.2 free.2.2.1 _
termination_by structural type => type

/-- Fields that are free hold every plan of which nothing is written yet. -/
theorem holdsFields_of_freeFieldsFrom {growable : Bool} (policy : CellPolicy) :
    (types : List (String × DataType)) → (size : Nat) → (columns : List (String × Column)) →
      FitsFields growable size types columns → (first : Nat) → FreeFieldsFrom first columns →
        first ≤ size → (due : List (Option Json)) →
          HoldsFields policy types columns ⟨first, [], due⟩ columns
  | [], _, _, _, _, _, _, _ => by trivial
  | _ :: _, _, [], fits, _, _, _, _ => fits.elim
  | (name, type) :: types, size, (_, column) :: columns, fits, first, free, inside, due => by
    obtain ⟨-, enough, columnFits, restFit⟩ := fits
    exact ⟨holds_of_freeFrom policy type column columnFits first free.1
        (Nat.le_trans inside enough) _,
      holdsFields_of_freeFieldsFrom policy types size columns restFit first free.2 inside due⟩
termination_by structural types => types

end

end Columnar.Column
