import Columnar.Column.ChildCounts
import Columnar.Proofs.Column.Leaf
/-!
# The shape of a column

A column fits a type when its tree is the tree of the type, with sound flags at every node and one
answer everywhere to the question whether child columns may grow. Whatever is done to a column that
fits its type leaves one that does: flagging, growing, resetting, restoring child counts, and above
all writing, also where the write fails (`reshaped_write`). So no write ever meets a column of the
wrong kind.
-/

set_option autoImplicit false

namespace Columnar.Column

mutual

/-- A column has the tree of its type, sound flags, and lists and maps that all may or may not grow
their children. Keys of maps are text and never null. -/
def Fits (growable : Bool) : DataType → Column → Prop
  | .leaf kind attributes _, column => FitsPrimitive kind attributes column
  | .struct _ types, struct nulls fields =>
    nulls.Consistent ∧ FitsFields growable nulls.size types fields
  | .list _ element _, list nulls index child =>
    nulls.Consistent ∧ nulls.size = index.spans.size ∧ index.growable = growable ∧
      Fits growable element child
  | .map _ _ entry _, map nulls index keys values =>
    nulls.Consistent ∧ nulls.size = index.spans.size ∧ index.growable = growable ∧
      keys.HoldKeys ∧ Fits growable entry values
  | _, _ => False
termination_by structural type => type

/-- Columns fit the types of fields one by one, under the same names and with enough slots. -/
def FitsFields (growable : Bool) (size : Nat) :
    List (String × DataType) → List (String × Column) → Prop
  | [], [] => True
  | (name, type) :: types, (columnName, column) :: columns =>
    columnName = name ∧ size ≤ column.slots ∧ Fits growable type column ∧
      FitsFields growable size types columns
  | _, _ => False
termination_by structural types => types

end

variable {growable : Bool}

/-! ### What a column that fits is made of -/

/-- A column that fits a struct type is a struct column, whose fields have at least its rows. -/
theorem Fits.exists_struct {attributes : Attributes} {types : List (String × DataType)}
    {column : Column} (fits : Fits growable (.struct attributes types) column) :
    ∃ nulls fields, column = struct nulls fields ∧ nulls.Consistent ∧
      FitsFields growable nulls.size types fields := by
  cases column <;> simp only [Fits] at fits
  case struct nulls fields => exact ⟨nulls, fields, rfl, fits⟩

/-- A column that fits a list type is a list column, with a flag for each span. -/
theorem Fits.exists_list {attributes : Attributes} {element : DataType}
    {extra : List (String × DataType)} {column : Column}
    (fits : Fits growable (.list attributes element extra) column) :
    ∃ nulls index child, column = list nulls index child ∧ nulls.Consistent ∧
      nulls.size = index.spans.size ∧ index.growable = growable ∧ Fits growable element child := by
  cases column <;> simp only [Fits] at fits
  case list nulls index child => exact ⟨nulls, index, child, rfl, fits⟩

/-- A column that fits a map type is a map column, with a flag for each span and keys without flags.
-/
theorem Fits.exists_map {attributes : Attributes} {key entry : DataType}
    {extra : List (String × DataType)} {column : Column}
    (fits : Fits growable (.map attributes key entry extra) column) :
    ∃ nulls index keys values, column = map nulls index keys values ∧ nulls.Consistent ∧
      nulls.size = index.spans.size ∧ index.growable = growable ∧ keys.HoldKeys ∧
      Fits growable entry values := by
  cases column <;> simp only [Fits] at fits
  case map nulls index keys values => exact ⟨nulls, index, keys, values, rfl, fits⟩

/-- In a column that fits a type the fast path of the flags is right. -/
theorem Fits.consistent {type : DataType} {column : Column} (fits : Fits growable type column) :
    column.nulls.Consistent := by
  cases type with
  | leaf kind attributes extra => exact FitsPrimitive.consistent fits
  | struct attributes types =>
    obtain ⟨nulls, fields, rfl, consistent, -⟩ := fits.exists_struct
    exact consistent
  | list attributes element extra =>
    obtain ⟨nulls, index, child, rfl, consistent, -⟩ := fits.exists_list
    exact consistent
  | map attributes key entry extra =>
    obtain ⟨nulls, index, keys, values, rfl, consistent, -⟩ := fits.exists_map
    exact consistent

/-- A column that fits a type has a flag for each of its slots. -/
theorem Fits.size_nulls {type : DataType} {column : Column} (fits : Fits growable type column) :
    column.nulls.size = column.slots := by
  cases type with
  | leaf kind attributes extra => exact FitsPrimitive.size_nulls fits
  | struct attributes types =>
    obtain ⟨nulls, fields, rfl, -⟩ := fits.exists_struct
    rfl
  | list attributes element extra =>
    obtain ⟨nulls, index, child, rfl, -, sizes, -⟩ := fits.exists_list
    exact sizes
  | map attributes key entry extra =>
    obtain ⟨nulls, index, keys, values, rfl, -, sizes, -⟩ := fits.exists_map
    exact sizes

/-- A row that is flagged is null, and no other row is touched. -/
theorem Fits.isNull_setNull_self {type : DataType} {column : Column}
    (fits : Fits growable type column) {row : Nat} (inside : row < column.slots) :
    (Column.setNull row column).isNull row = true := by
  rw [isNull, nulls_setNull]
  exact NullMask.isNull_setNull_self _ (by rw [fits.size_nulls]; exact inside)

/-! ### Operations that keep the shape -/

/-- Growing makes room for so many rows, and never for fewer than there are. -/
theorem slots_grow (size : Nat) (column : Column) :
    (grow size column).slots = max column.slots size := by
  cases column <;> simp [grow, slots, Cells.grow, ByteCells.grow, ChildIndex.grow]

/-- Growing changes no answer about null: new rows are not null. -/
@[simp] theorem isNull_grow (size : Nat) (column : Column) (row : Nat) :
    (grow size column).isNull row = column.isNull row := by
  cases column <;> simp [grow, isNull, nulls, Cells.grow, ByteCells.grow]

/-- A new column has the slots that it is made with. -/
@[simp] theorem slots_allocate (size : Nat) (type : DataType) : (allocate size type).slots = size := by
  cases type with
  | leaf kind attributes extra =>
    cases kind <;> simp [allocate, ofPrimitive, slots, Cells.ofSize, ByteCells.ofSize]
  | struct attributes types => simp [allocate, slots]
  | list attributes element extra => simp [allocate, slots, ChildIndex.ofSize]
  | map attributes key entry extra => simp [allocate, slots, ChildIndex.ofSize]

mutual

/-- A new column fits its type, and its children may grow. -/
theorem fits_allocate (size : Nat) : (type : DataType) → Fits true type (allocate size type)
  | .leaf kind attributes _ => by
    rw [allocate, Fits]
    exact fitsPrimitive_ofPrimitive kind attributes size
  | .struct _ types => by
    rw [allocate, Fits, NullMask.size_ofSize]
    exact ⟨NullMask.consistent_ofSize size, fitsFields_allocate size types⟩
  | .list _ element _ => by
    rw [allocate, Fits]
    exact ⟨NullMask.consistent_ofSize size, by simp [ChildIndex.ofSize], rfl,
      fits_allocate size element⟩
  | .map _ _ entry _ => by
    rw [allocate, Fits]
    exact ⟨NullMask.consistent_ofSize size, by simp [ChildIndex.ofSize], rfl,
      ByteCells.HoldKeys.ofSize size, fits_allocate size entry⟩
termination_by structural type => type

/-- New columns of fields fit their types. -/
theorem fitsFields_allocate (size : Nat) : (types : List (String × DataType)) →
    FitsFields true size types (allocateFields size types)
  | [] => by rw [allocateFields, FitsFields]; trivial
  | (name, type) :: types => by
    rw [allocateFields, FitsFields, slots_allocate]
    exact ⟨rfl, Nat.le_refl size, fits_allocate size type, fitsFields_allocate size types⟩
termination_by structural types => types

end

/-- Flagging a row leaves the shape. -/
theorem Fits.setNull {type : DataType} {column : Column} (fits : Fits growable type column)
    (row : Nat) : Fits growable type (setNull row column) := by
  cases type with
  | leaf kind attributes extra => exact FitsPrimitive.setNull fits row
  | struct attributes types =>
    obtain ⟨nulls, fields, rfl, -, fieldsFit⟩ := fits.exists_struct
    rw [Column.setNull, Fits, NullMask.size_setNull]
    exact ⟨NullMask.consistent_setNull nulls row, fieldsFit⟩
  | list attributes element extra =>
    obtain ⟨nulls, index, child, rfl, -, sizes, rest⟩ := fits.exists_list
    rw [Column.setNull, Fits, NullMask.size_setNull]
    exact ⟨NullMask.consistent_setNull nulls row, sizes, rest⟩
  | map attributes key entry extra =>
    obtain ⟨nulls, index, keys, values, rfl, -, sizes, rest⟩ := fits.exists_map
    rw [Column.setNull, Fits, NullMask.size_setNull]
    exact ⟨NullMask.consistent_setNull nulls row, sizes, rest⟩

mutual

/-- Growing leaves the shape. -/
theorem Fits.grow (more : Nat) : (type : DataType) → (column : Column) →
    Fits growable type column → Fits growable type (Column.grow more column)
  | .leaf _ _ _, _, fits => FitsPrimitive.grow fits more
  | .struct _ types, _, fits => by
    obtain ⟨nulls, fields, rfl, consistent, fieldsFit⟩ := fits.exists_struct
    rw [Column.grow, Fits, NullMask.size_grow]
    exact ⟨NullMask.consistent_grow consistent more, FitsFields.grow more types _ fields fieldsFit⟩
  | .list _ _ _, _, fits => by
    obtain ⟨nulls, index, child, rfl, consistent, sizes, rest⟩ := fits.exists_list
    rw [Column.grow, Fits, NullMask.size_grow, sizes]
    exact ⟨NullMask.consistent_grow consistent more, by simp [ChildIndex.grow], rest⟩
  | .map _ _ _ _, _, fits => by
    obtain ⟨nulls, index, keys, values, rfl, consistent, sizes, rest⟩ := fits.exists_map
    rw [Column.grow, Fits, NullMask.size_grow, sizes]
    exact ⟨NullMask.consistent_grow consistent more, by simp [ChildIndex.grow], rest⟩
termination_by structural type => type

/-- Growing leaves the shape of the fields, and they have at least the rows that the struct has
then. -/
theorem FitsFields.grow (more : Nat) : (types : List (String × DataType)) → (size : Nat) →
    (columns : List (String × Column)) → FitsFields growable size types columns →
      FitsFields growable (max size more) types (growFields more columns)
  | [], _, [], fits => by rw [growFields]; exact fits
  | [], _, _ :: _, fits => by simp [FitsFields] at fits
  | _ :: _, _, [], fits => by simp [FitsFields] at fits
  | (_, type) :: types, size, (_, column) :: columns, fits => by
    rw [FitsFields] at fits
    obtain ⟨sameName, enough, first, rest⟩ := fits
    rw [growFields, FitsFields, slots_grow]
    exact ⟨sameName, by omega, Fits.grow more type column first,
      FitsFields.grow more types size columns rest⟩
termination_by structural types => types

end

@[simp] theorem slots_reset (column : Column) : (reset column).slots = column.slots := by
  cases column <;> simp [reset, slots, Cells.reset, ByteCells.reset, ChildIndex.reset]

@[simp] theorem slots_setGrowable (allowed : Bool) (column : Column) :
    (setGrowable allowed column).slots = column.slots := by
  cases column <;> rfl

@[simp] theorem slots_restore (column : Column) (counts : List Nat) :
    (restore column counts).1.slots = column.slots := by
  cases column <;> cases counts <;> rfl

mutual

/-- A reset leaves the shape. -/
theorem Fits.reset : (type : DataType) → (column : Column) → Fits growable type column →
    Fits growable type (Column.reset column)
  | .leaf _ _ _, _, fits => FitsPrimitive.reset fits
  | .struct _ types, _, fits => by
    obtain ⟨nulls, fields, rfl, consistent, fieldsFit⟩ := fits.exists_struct
    rw [Column.reset, Fits, NullMask.size_reset]
    exact ⟨NullMask.consistent_reset consistent, FitsFields.reset types _ fields fieldsFit⟩
  | .list _ element _, _, fits => by
    obtain ⟨nulls, index, child, rfl, consistent, sizes, allowed, childFits⟩ := fits.exists_list
    rw [Column.reset, Fits, NullMask.size_reset]
    exact ⟨NullMask.consistent_reset consistent, sizes, allowed, Fits.reset element child childFits⟩
  | .map _ _ entry _, _, fits => by
    obtain ⟨nulls, index, keys, values, rfl, consistent, sizes, allowed, keysFit, valuesFit⟩ :=
      fits.exists_map
    rw [Column.reset, Fits, NullMask.size_reset]
    exact ⟨NullMask.consistent_reset consistent, sizes, allowed, keysFit.reset,
      Fits.reset entry values valuesFit⟩
termination_by structural type => type

/-- A reset leaves the shape of the fields. -/
theorem FitsFields.reset : (types : List (String × DataType)) → (size : Nat) →
    (columns : List (String × Column)) → FitsFields growable size types columns →
      FitsFields growable size types (resetFields columns)
  | [], _, [], fits => fits
  | [], _, _ :: _, fits => by simp [FitsFields] at fits
  | _ :: _, _, [], fits => by simp [FitsFields] at fits
  | (_, type) :: types, size, (_, column) :: columns, fits => by
    rw [FitsFields] at fits
    obtain ⟨sameName, enough, first, rest⟩ := fits
    rw [resetFields, FitsFields, slots_reset]
    exact ⟨sameName, enough, Fits.reset type column first, FitsFields.reset types size columns rest⟩
termination_by structural types => types

end

mutual

/-- Whether child columns may grow is said once for a whole column tree. -/
theorem Fits.setGrowable (allowed : Bool) : (type : DataType) → (column : Column) →
    Fits growable type column → Fits allowed type (Column.setGrowable allowed column)
  | .leaf _ _ _, column, fits => by
    cases column <;> simp only [Fits, FitsPrimitive] at fits <;> exact fits
  | .struct _ types, _, fits => by
    obtain ⟨nulls, fields, rfl, consistent, fieldsFit⟩ := fits.exists_struct
    rw [Column.setGrowable, Fits]
    exact ⟨consistent, FitsFields.setGrowable allowed types _ fields fieldsFit⟩
  | .list _ element _, _, fits => by
    obtain ⟨nulls, index, child, rfl, consistent, sizes, -, childFits⟩ := fits.exists_list
    rw [Column.setGrowable, Fits]
    exact ⟨consistent, sizes, rfl, Fits.setGrowable allowed element child childFits⟩
  | .map _ _ entry _, _, fits => by
    obtain ⟨nulls, index, keys, values, rfl, consistent, sizes, -, keysFit, valuesFit⟩ :=
      fits.exists_map
    rw [Column.setGrowable, Fits]
    exact ⟨consistent, sizes, rfl, keysFit, Fits.setGrowable allowed entry values valuesFit⟩
termination_by structural type => type

/-- The permission of all fields can be changed together. -/
theorem FitsFields.setGrowable (allowed : Bool) : (types : List (String × DataType)) →
    (size : Nat) → (columns : List (String × Column)) → FitsFields growable size types columns →
      FitsFields allowed size types (setGrowableFields allowed columns)
  | [], _, [], _ => by rw [setGrowableFields, FitsFields]; trivial
  | [], _, _ :: _, fits => by simp [FitsFields] at fits
  | _ :: _, _, [], fits => by simp [FitsFields] at fits
  | (_, type) :: types, size, (_, column) :: columns, fits => by
    rw [FitsFields] at fits
    obtain ⟨sameName, enough, first, rest⟩ := fits
    rw [setGrowableFields, FitsFields, slots_setGrowable]
    exact ⟨sameName, enough, Fits.setGrowable allowed type column first,
      FitsFields.setGrowable allowed types size columns rest⟩
termination_by structural types => types

end

mutual

/-- Child counts have no part in the shape of a column. -/
theorem Fits.restore : (type : DataType) → (column : Column) → (counts : List Nat) →
    Fits growable type column → Fits growable type (Column.restore column counts).1
  | .leaf _ _ _, column, counts, fits => by
    cases column <;> simp only [Fits, FitsPrimitive] at fits <;> exact fits
  | .struct _ types, _, counts, fits => by
    obtain ⟨nulls, fields, rfl, consistent, fieldsFit⟩ := fits.exists_struct
    rw [Column.restore, Fits]
    exact ⟨consistent, FitsFields.restore types _ fields counts fieldsFit⟩
  | .list _ element _, _, counts, fits => by
    obtain ⟨nulls, index, child, rfl, consistent, sizes, allowed, childFits⟩ := fits.exists_list
    cases counts with
    | nil =>
      rw [Column.restore, restoreIndex, Fits]
      exact ⟨consistent, sizes, allowed, Fits.restore element child [] childFits⟩
    | cons count rest =>
      rw [Column.restore, restoreIndex, Fits]
      exact ⟨consistent, sizes, allowed, Fits.restore element child rest childFits⟩
  | .map _ _ entry _, _, counts, fits => by
    obtain ⟨nulls, index, keys, values, rfl, consistent, sizes, allowed, keysFit, valuesFit⟩ :=
      fits.exists_map
    cases counts with
    | nil =>
      rw [Column.restore, restoreIndex, Fits]
      exact ⟨consistent, sizes, allowed, keysFit, Fits.restore entry values [] valuesFit⟩
    | cons count rest =>
      rw [Column.restore, restoreIndex, Fits]
      exact ⟨consistent, sizes, allowed, keysFit, Fits.restore entry values rest valuesFit⟩
termination_by structural type => type

/-- Child counts that are put back leave the shape of the fields. -/
theorem FitsFields.restore : (types : List (String × DataType)) → (size : Nat) →
    (columns : List (String × Column)) → (counts : List Nat) →
      FitsFields growable size types columns →
        FitsFields growable size types (restoreFields columns counts).1
  | [], _, [], _, fits => fits
  | [], _, _ :: _, _, fits => by simp [FitsFields] at fits
  | _ :: _, _, [], _, fits => by simp [FitsFields] at fits
  | (_, type) :: types, size, (_, column) :: columns, counts, fits => by
    rw [FitsFields] at fits
    obtain ⟨sameName, enough, first, rest⟩ := fits
    rw [restoreFields, FitsFields, slots_restore]
    exact ⟨sameName, enough, Fits.restore type column counts first,
      FitsFields.restore types size columns _ rest⟩
termination_by structural types => types

end

/-! ### Leaves have no child columns -/

/-- A leaf column has no children that might grow. -/
theorem setGrowable_of_fitsPrimitive {kind : Primitive} {attributes : Attributes} {column : Column}
    (fits : FitsPrimitive kind attributes column) (allowed : Bool) :
    setGrowable allowed column = column := by
  cases column <;> first | rfl | exact fits.elim

/-- A leaf column takes none of the counts that are put back. -/
theorem restore_of_fitsPrimitive {kind : Primitive} {attributes : Attributes} {column : Column}
    (fits : FitsPrimitive kind attributes column) (counts : List Nat) :
    restore column counts = (column, counts) := by
  cases column <;> first | rfl | exact fits.elim

/-- A leaf column has no child counts. -/
theorem childCounts_of_fitsPrimitive {kind : Primitive} {attributes : Attributes} {column : Column}
    (fits : FitsPrimitive kind attributes column) : childCounts column = [] := by
  cases column <;> first | rfl | exact fits.elim

@[simp] theorem spans_restoreIndex (index : ChildIndex) (counts : List Nat) :
    (restoreIndex index counts).1.spans = index.spans := by
  cases counts <;> rfl

end Columnar.Column
