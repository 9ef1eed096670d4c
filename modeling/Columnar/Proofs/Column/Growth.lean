import Mathlib.Data.List.Forall2
import Columnar.Proofs.Column.Allocation
import Columnar.Proofs.Column.Readable
import Columnar.Proofs.DataType.WellFormed
/-!
# Growing keeps what is there

Growing adds slots at the end of a column and of the fields of structs in it, and nothing else. Lists
and maps get spans for more rows; their children stay as they are until a row claims their slots. Old
rows are null or not as before, the readable ones read as before, and new rows are not null
(`growth_keeps`). This holds of every column that comes of a new one by writing values, of its own
type or of another, flagging, growing and resetting.
-/

set_option autoImplicit false

namespace Columnar.Column

/-! ### The whole tree -/

mutual

/-- For each column of a tree whether no row of it was flagged since the last reset. -/
def noNulls : Column → List Bool
  | struct nulls fields => nulls.noNulls :: noNullsFields fields
  | list nulls _ child => nulls.noNulls :: noNulls child
  | map nulls _ keys values => nulls.noNulls :: keys.nulls.noNulls :: noNulls values
  | leaf => [leaf.nulls.noNulls]
termination_by structural column => column

/-- The same for the trees of columns, one tree after the other. -/
def noNullsFields : List (String × Column) → List Bool
  | [] => []
  | (_, column) :: rest => noNulls column ++ noNullsFields rest
termination_by structural fields => fields

end

/-- The columns of a tree: the column itself, and those of its fields or children. -/
inductive PartOf : Column → Column → Prop where
  | root (column : Column) : PartOf column column
  | field {nulls : NullMask} {fields : List (String × Column)} {name : String}
      {column part : Column} (among : (name, column) ∈ fields) (inside : PartOf part column) :
      PartOf part (struct nulls fields)
  | child {nulls : NullMask} {index : ChildIndex} {child part : Column}
      (inside : PartOf part child) : PartOf part (list nulls index child)
  | value {nulls : NullMask} {index : ChildIndex} {keys : ByteCells} {values part : Column}
      (inside : PartOf part values) : PartOf part (map nulls index keys values)

mutual

/-- Flags that were set or not, children taken and permissions to grow are as before, in the whole
tree. -/
theorem marks_grow (size : Nat) : (column : Column) →
    noNulls (grow size column) = noNulls column ∧
      childCounts (grow size column) = childCounts column ∧
      growables (grow size column) = growables column
  | struct nulls fields => by
    obtain ⟨flags, counts, permissions⟩ := marksFields_grow size fields
    rw [grow, noNulls, flags, childCounts, counts, growables, permissions]
    exact ⟨rfl, rfl, rfl⟩
  | long _ _ | double _ | bytes _ | decimal _ _ _ | timestamp _ | list _ _ _ | map _ _ _ _ =>
    ⟨rfl, rfl, rfl⟩
termination_by structural column => column

/-- Growing the fields of a struct flags no row in any of them, takes no child slots and gives no
permission. -/
theorem marksFields_grow (size : Nat) : (fields : List (String × Column)) →
    noNullsFields (growFields size fields) = noNullsFields fields ∧
      childCountsFields (growFields size fields) = childCountsFields fields ∧
      growablesFields (growFields size fields) = growablesFields fields
  | [] => ⟨rfl, rfl, rfl⟩
  | (name, column) :: rest => by
    obtain ⟨flags, counts, permissions⟩ := marks_grow size column
    obtain ⟨laterFlags, laterCounts, laterPermissions⟩ := marksFields_grow size rest
    rw [growFields, noNullsFields, childCountsFields, growablesFields, flags, counts, permissions,
      laterFlags, laterCounts, laterPermissions]
    exact ⟨rfl, rfl, rfl⟩
termination_by structural fields => fields

end

/-- Growing takes no slots away. -/
theorem slots_le_grow (size : Nat) (column : Column) : column.slots ≤ (grow size column).slots := by
  rw [slots_grow]
  exact Nat.le_max_left _ _

mutual

/-- No column of a tree loses slots. -/
theorem allocation_le_grow (size : Nat) : (column : Column) →
    List.Forall₂ (· ≤ ·) (allocation column) (allocation (grow size column))
  | struct nulls fields => by
    rw [grow, allocation, allocation, NullMask.size_grow]
    exact .cons (Nat.le_max_left _ _) (allocationFields_le_grow size fields)
  | list nulls index child => by
    rw [grow, allocation, allocation, ChildIndex.grow, size_growTo]
    exact .cons (Nat.le_max_left _ _) (List.forall₂_refl _)
  | map nulls index keys values => by
    rw [grow, allocation, allocation, ChildIndex.grow, size_growTo]
    exact .cons (Nat.le_max_left _ _) (List.forall₂_refl _)
  | long kind cells => .cons (slots_le_grow size (long kind cells)) .nil
  | double cells => .cons (slots_le_grow size (double cells)) .nil
  | bytes cells => .cons (slots_le_grow size (bytes cells)) .nil
  | decimal precision scale cells => .cons (slots_le_grow size (decimal precision scale cells)) .nil
  | timestamp cells => .cons (slots_le_grow size (timestamp cells)) .nil
termination_by structural column => column

/-- Growing the fields of a struct takes slots away from none of them, at any depth. -/
theorem allocationFields_le_grow (size : Nat) : (fields : List (String × Column)) →
    List.Forall₂ (· ≤ ·) (allocationFields fields) (allocationFields (growFields size fields))
  | [] => .nil
  | (name, column) :: rest => by
    rw [growFields, allocationFields, allocationFields]
    exact List.rel_append (allocation_le_grow size column) (allocationFields_le_grow size rest)
termination_by structural fields => fields

end

/-! ### Columns in use -/

/-- Fields of structs have at least as many slots as the struct. -/
theorem FitsFields.slots_le {growable : Bool} {size : Nat} {types : List (String × DataType)}
    {columns : List (String × Column)} (fits : FitsFields growable size types columns)
    {name : String} {column : Column} (among : (name, column) ∈ columns) :
    size ≤ column.slots ∧ ∃ type, Fits growable type column := by
  induction columns generalizing types with
  | nil => cases among
  | cons first rest ih =>
    cases types with
    | nil => simp [FitsFields] at fits
    | cons field types =>
      rw [FitsFields] at fits
      obtain ⟨-, enough, fitsFirst, others⟩ := fits
      obtain rfl | later := List.mem_cons.mp among
      · exact ⟨enough, field.2, fitsFirst⟩
      · exact ih others later

/-- Every column inside a column of a type is itself of some type, for the same permission. -/
theorem Fits.exists_of_partOf {growable : Bool} {part column : Column} (within : PartOf part column) :
    ∀ {type : DataType}, Fits growable type column → ∃ own, Fits growable own part := by
  induction within with
  | root column => exact fun fits => ⟨_, fits⟩
  | field among _ ih =>
    intro type fits
    obtain ⟨attributes, types, rfl⟩ := fits.exists_type_struct
    rw [Fits] at fits
    obtain ⟨-, own, fitsField⟩ := fits.2.slots_le among
    exact ih fitsField
  | child _ ih =>
    intro type fits
    obtain ⟨attributes, element, extra, rfl⟩ := fits.exists_type_list
    rw [Fits] at fits
    exact ih fits.2.2.2
  | value _ ih =>
    intro type fits
    obtain ⟨attributes, key, entry, extra, rfl⟩ := fits.exists_type_map
    rw [Fits] at fits
    exact ih fits.2.2.2.2

/-- Columns that come of a new one of a well-formed type, whatever is done to them. The values that are
written may be of another type, and the child counts that are put back those of another column. -/
inductive Changed : Column → Prop where
  | new (size : Nat) {type : DataType} (wellFormed : type.WellFormed) : Changed (allocate size type)
  | write {column : Column} (policy : CellPolicy) (type : DataType) (value : Json) (row : Nat)
      (changed : Changed column) : Changed (write policy type value row column).state
  | setNull {column : Column} (row : Nat) (changed : Changed column) : Changed (setNull row column)
  | grow {column : Column} (size : Nat) (changed : Changed column) : Changed (grow size column)
  | reset {column : Column} (changed : Changed column) : Changed (reset column)
  | setGrowable {column : Column} (allowed : Bool) (changed : Changed column) :
      Changed (setGrowable allowed column)
  | restore {column : Column} (counts : List Nat) (changed : Changed column) :
      Changed (restore column counts).1

/-- However a column was used, it fits the type that it was made for. -/
theorem Changed.exists_fits {column : Column} (changed : Changed column) :
    ∃ growable type, Fits growable type column := by
  induction changed with
  | new size wellFormed => exact ⟨true, _, fits_allocate size _⟩
  | write policy other value row _ ih =>
    obtain ⟨growable, type, fits⟩ := ih
    exact ⟨growable, type, (reshaped_write_any growable policy other type value row _ fits).1⟩
  | setNull row _ ih =>
    obtain ⟨growable, type, fits⟩ := ih
    exact ⟨growable, type, fits.setNull row⟩
  | grow size _ ih =>
    obtain ⟨growable, type, fits⟩ := ih
    exact ⟨growable, type, Fits.grow size type _ fits⟩
  | reset _ ih =>
    obtain ⟨growable, type, fits⟩ := ih
    exact ⟨growable, type, Fits.reset type _ fits⟩
  | setGrowable allowed _ ih =>
    obtain ⟨growable, type, fits⟩ := ih
    exact ⟨allowed, type, Fits.setGrowable allowed type _ fits⟩
  | restore counts _ ih =>
    obtain ⟨growable, type, fits⟩ := ih
    exact ⟨growable, type, Fits.restore type _ counts fits⟩

/-- What growing a column to a size makes of it. -/
structure Grown (size : Nat) (column grown : Column) : Prop where
  /-- It has so many slots, unless it had more. -/
  slots_eq : grown.slots = max column.slots size
  /-- No column of the tree loses slots. -/
  allocation_le : List.Forall₂ (· ≤ ·) (allocation column) (allocation grown)
  /-- Old rows have a flag, and it is as before. -/
  isNull_eq : ∀ row < column.slots, ∃ null, column.nulls.checkedIsNull row = some null ∧
    grown.nulls.checkedIsNull row = some null
  /-- What could be read is read as before. -/
  valueAt_eq : ∀ row < column.slots, Readable column row →
    Readable grown row ∧ valueAt grown row = valueAt column row
  /-- New rows have a flag, and are not null. -/
  fresh : ∀ row, column.slots ≤ row → row < grown.slots →
    grown.nulls.checkedIsNull row = some false
  /-- Nowhere in the tree is it forgotten or made up that a row was flagged. -/
  noNulls_eq : noNulls grown = noNulls column
  /-- No list or map takes or gives back children. -/
  childCounts_eq : childCounts grown = childCounts column
  /-- No list or map gains or loses the permission to grow its children. -/
  growables_eq : growables grown = growables column
  /-- The fields of each struct of the tree have the slots that the struct has. -/
  fields_le : ∀ nulls fields, PartOf (struct nulls fields) grown →
    ∀ field ∈ fields, nulls.size ≤ field.2.slots

/-- Growing a column, however it was used, keeps its contents. So does growing a column inside it, as
writes do that run out of child slots. -/
theorem growth_keeps {whole column : Column} (changed : Changed whole) (part : PartOf column whole)
    (size : Nat) : Grown size column (grow size column) := by
  obtain ⟨growable, _, fitsWhole⟩ := changed.exists_fits
  obtain ⟨type, fits⟩ := fitsWhole.exists_of_partOf part
  have fitsGrown := Fits.grow size type column fits
  obtain ⟨flags, counts, permissions⟩ := marks_grow size column
  have mask : (grow size column).nulls = column.nulls.grow size := by cases column <;> rfl
  refine ⟨slots_grow size column, allocation_le_grow size column, ?_, ?_, ?_, flags, counts,
    permissions, ?_⟩
  · intro row inside
    have flagged := NullMask.checkedIsNull_eq (fits.size_nulls.symm ▸ inside)
    refine ⟨_, flagged, ?_⟩
    rw [mask]
    exact NullMask.checkedIsNull_grow size flagged
  · intro row _ readable
    exact readable.grow size
  · intro row new inside
    rw [mask]
    apply NullMask.checkedIsNull_grow_of_le
    · rw [fits.size_nulls]
      exact new
    · rw [← mask, fitsGrown.size_nulls]
      exact inside
  · rintro nulls fields inside ⟨name, field⟩ among
    obtain ⟨own, fitsPart⟩ := fitsGrown.exists_of_partOf inside
    obtain ⟨attributes, types, rfl⟩ := fitsPart.exists_type_struct
    rw [Fits] at fitsPart
    exact (fitsPart.2.slots_le among).1

/-- A struct with a list, written once and then grown: the struct and its fields have more slots, the
elements of the list have those that the row claimed. -/
theorem growth_keeps_list :
    let type := DataType.struct .default
      [("x", .listOf (.ofPrimitive (.integer .regular))), ("y", .ofPrimitive .boolean)]
    let value := Json.object [("x", .array [.int 1, .int 2, .null])]
    let column := (write .abort type value 0 (allocate 1 type)).state
    Changed column ∧ PartOf column column ∧ Readable column 0 ∧
      valueAt (grow 4 column) 0 = valueAt column 0 ∧ (grow 4 column).slots = 4 ∧
      (grow 4 column).nulls.checkedIsNull 3 = some false ∧
      allocation column = [1, 1, 3, 1] ∧ allocation (grow 4 column) = [4, 4, 3, 4] ∧
      childCounts (grow 4 column) = [3] := by
  intro type value column
  have wellFormed : type.WellFormed := (DataType.validate_eq_ok_iff type).mp rfl
  have changed : Changed column := .write .abort type value 0 (.new 1 wellFormed)
  have kept := growth_keeps changed (.root column) 4
  have one : column.slots = 1 := rfl
  have readable : Readable column 0 := by decide +kernel
  refine ⟨changed, .root column, readable, ?_, ?_, ?_, by decide +kernel, by decide +kernel, ?_⟩
  · exact (kept.valueAt_eq 0 (by rw [one]; exact Nat.one_pos) readable).2
  · rw [kept.slots_eq, one]
    rfl
  · apply kept.fresh
    · rw [one]
      decide
    · rw [kept.slots_eq, one]
      decide
  · rw [kept.childCounts_eq]
    decide +kernel

end Columnar.Column
