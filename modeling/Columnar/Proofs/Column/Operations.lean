import Columnar.Proofs.Column.Growth
import Columnar.Proofs.Column.Snapshots
/-!
# Whatever is done to a column

What can be done to a column, or to a column somewhere inside it, changes flags, cells, spans, slots,
child counts and permissions, but never the tree: it has the lists and maps that it had
(`Operation.keepsIndexes`). So columns of one type, however they were used, take each other's child
counts (`Used.putBack`).
-/

set_option autoImplicit false

namespace Columnar.Column

/-- A column tree has as many child indexes as another one. -/
def KeepsIndexes (before after : Column) : Prop :=
  (childCounts after).length = (childCounts before).length

/-- The trees of columns together have as many child indexes as others. -/
def KeepsFieldIndexes (before after : List (String × Column)) : Prop :=
  (childCountsFields after).length = (childCountsFields before).length

variable {column middle after : Column}

/-- What is kept twice in a row is kept. -/
theorem KeepsIndexes.trans (first : KeepsIndexes column middle) (second : KeepsIndexes middle after) :
    KeepsIndexes column after :=
  Eq.trans second first

/-! ### Walks through the whole tree -/

/-- Fields keep their lists and maps if the first of them does and the others do. -/
theorem keepsFieldIndexes_cons {fields fields' : List (String × Column)}
    (first : KeepsIndexes column after) (rest : KeepsFieldIndexes fields fields') (name : String) :
    KeepsFieldIndexes ((name, column) :: fields) ((name, after) :: fields') := by
  rw [KeepsIndexes] at first
  rw [KeepsFieldIndexes] at rest
  rw [KeepsFieldIndexes, childCountsFields, childCountsFields, List.length_append,
    List.length_append, first, rest]

mutual

/-- A reset takes no list or map away. -/
theorem keepsIndexes_reset : (column : Column) → KeepsIndexes column (reset column)
  | struct _ fields => keepsFieldIndexes_reset fields
  | list _ _ child => congrArg (· + 1) (keepsIndexes_reset child)
  | map _ _ _ values => congrArg (· + 1) (keepsIndexes_reset values)
  | long _ _ | double _ | bytes _ | decimal _ _ _ | timestamp _ => rfl
termination_by structural column => column

/-- A reset takes no list or map of the fields away. -/
theorem keepsFieldIndexes_reset : (fields : List (String × Column)) →
    KeepsFieldIndexes fields (resetFields fields)
  | [] => rfl
  | (name, column) :: rest =>
    keepsFieldIndexes_cons (keepsIndexes_reset column) (keepsFieldIndexes_reset rest) name
termination_by structural fields => fields

end

mutual

/-- A permission changes in lists and maps, not their number. -/
theorem keepsIndexes_setGrowable (allowed : Bool) : (column : Column) →
    KeepsIndexes column (setGrowable allowed column)
  | struct _ fields => keepsFieldIndexes_setGrowable allowed fields
  | list _ _ child => congrArg (· + 1) (keepsIndexes_setGrowable allowed child)
  | map _ _ _ values => congrArg (· + 1) (keepsIndexes_setGrowable allowed values)
  | long _ _ | double _ | bytes _ | decimal _ _ _ | timestamp _ => rfl
termination_by structural column => column

/-- A permission changes in lists and maps of the fields, not their number. -/
theorem keepsFieldIndexes_setGrowable (allowed : Bool) : (fields : List (String × Column)) →
    KeepsFieldIndexes fields (setGrowableFields allowed fields)
  | [] => rfl
  | (name, column) :: rest =>
    keepsFieldIndexes_cons (keepsIndexes_setGrowable allowed column)
      (keepsFieldIndexes_setGrowable allowed rest) name
termination_by structural fields => fields

end

mutual

/-- However many counts are put back, there are as many lists and maps. -/
theorem keepsIndexes_restore : (column : Column) → (counts : List Nat) →
    KeepsIndexes column (restore column counts).1
  | struct _ fields, counts => keepsFieldIndexes_restore fields counts
  | list _ _ child, _ => congrArg (· + 1) (keepsIndexes_restore child _)
  | map _ _ _ values, _ => congrArg (· + 1) (keepsIndexes_restore values _)
  | long _ _, _ | double _, _ | bytes _, _ | decimal _ _ _, _ | timestamp _, _ => rfl
termination_by structural column => column

/-- However many counts are put back, there are as many lists and maps in the fields. -/
theorem keepsFieldIndexes_restore : (fields : List (String × Column)) → (counts : List Nat) →
    KeepsFieldIndexes fields (restoreFields fields counts).1
  | [], _ => rfl
  | (name, column) :: rest, counts =>
    keepsFieldIndexes_cons (keepsIndexes_restore column counts) (keepsFieldIndexes_restore rest _)
      name
termination_by structural fields => fields

end

/-! ### Parts of a write -/

/-- A flag is no list or map. -/
theorem keepsIndexes_setNull (row : Nat) (column : Column) :
    KeepsIndexes column (setNull row column) := by
  cases column <;> rfl

/-- A cell is no list or map. -/
theorem keepsIndexes_place (row : Nat) (cell : Option LeafCell) (column : Column) :
    KeepsIndexes column (place row cell column) := by
  cases cell with
  | none => exact keepsIndexes_setNull row column
  | some cell => cases cell <;> cases column <;> rfl

/-- Growing keeps all child counts, and so their number. -/
theorem keepsIndexes_grow (size : Nat) (column : Column) : KeepsIndexes column (grow size column) :=
  congrArg List.length (marks_grow size column).2.1

/-- A child column that may have had to grow has its lists and maps. -/
theorem keepsIndexes_growIf (growth : Option Nat) (column : Column) :
    KeepsIndexes column (growIf growth column) := by
  cases growth with
  | none => rfl
  | some size => exact keepsIndexes_grow size column

/-- Writing a leaf places a cell or does nothing. -/
theorem keepsIndexes_writeLeaf (kind : Primitive) (value : Json) (row : Nat) (column : Column) :
    KeepsIndexes column (Attempt.ofExcept column (writeLeaf kind value row column)).state := by
  cases stored : writeLeaf kind value row column with
  | error failure => rfl
  | ok written =>
    obtain ⟨cell, rfl⟩ := exists_place_of_writeLeaf stored
    exact keepsIndexes_place row cell column

/-- Writing an object keeps the lists and maps of a struct if writing its members does. -/
theorem keepsIndexes_writeStruct
    {writeMembers : Json.Members → List (String × Column) → Attempt (List (String × Column))}
    (step : ∀ members fields, KeepsFieldIndexes fields (writeMembers members fields).state)
    (value : Json) (column : Column) :
    KeepsIndexes column (writeStruct writeMembers value column).state := by
  cases column with
  | struct nulls fields =>
    cases value with
    | object members => exact step members fields
    | null | bool | int | real | text | array => rfl
  | _ => rfl

/-- Taking child slots for a list leaves the tree of its child. -/
theorem keepsIndexes_startList {row count offset : Nat} {index taken : ChildIndex}
    {child grown : Column} (nulls : NullMask)
    (started : startList row count index child = .ok (offset, taken, grown)) :
    KeepsIndexes (list nulls index child) (list nulls taken grown) := by
  obtain ⟨-, -, -, -, -, growth, rfl⟩ := startList_eq_ok started
  exact congrArg (· + 1) (keepsIndexes_growIf growth child)

/-- Taking child slots for a map leaves the tree of its values. -/
theorem keepsIndexes_startMap {row count offset : Nat} {index taken : ChildIndex}
    {entries grown : Entries} (nulls : NullMask)
    (started : startMap row count index entries = .ok (offset, taken, grown)) :
    KeepsIndexes (map nulls index entries.keys entries.values)
      (map nulls taken grown.keys grown.values) := by
  obtain ⟨-, -, -, -, -, -, ⟨growth, same⟩, -⟩ := startMap_eq_ok started
  rw [same]
  exact congrArg (· + 1) (keepsIndexes_growIf growth entries.values)

section

variable {writer : Json → Nat → Column → Attempt Column}
  (step : ∀ value slot child, KeepsIndexes child (writer value slot child).state)

include step

/-- Writing a list keeps the lists and maps below it if writing an element does, however many
elements there are. -/
theorem keepsIndexes_writeList (value : Json) (row : Nat) (column : Column) :
    KeepsIndexes column (writeList writer value row column).state := by
  cases column with
  | list nulls index child =>
    cases value with
    | array items =>
      rw [writeList]
      cases started : startList row items.length index child with
      | error failure => rfl
      | ok begun =>
        obtain ⟨offset, taken, grown⟩ := begun
        have elements := state_writeElements (P := KeepsIndexes grown)
          (fun value slot child _ kept => kept.trans (step value slot child)) items offset grown
          (Nat.le_refl _) rfl
        exact (keepsIndexes_startList nulls started).trans (congrArg (· + 1) elements)
    | null | bool | int | real | text | object => rfl
  | _ => rfl

/-- Writing a map keeps the lists and maps below it if writing a value does, however many entries
there are. -/
theorem keepsIndexes_writeMap (value : Json) (row : Nat) (column : Column) :
    KeepsIndexes column (writeMap writer value row column).state := by
  cases column with
  | map nulls index keys values =>
    cases value with
    | object members =>
      rw [writeMap]
      cases started : startMap row members.length index ⟨keys, values⟩ with
      | error failure => rfl
      | ok begun =>
        obtain ⟨offset, taken, grown⟩ := begun
        have entries := state_writeEntries
          (P := fun entries => KeepsIndexes grown.values entries.values)
          (fun key value slot entries _ kept => kept.trans (step value slot entries.values))
          members offset grown (Nat.le_refl _) rfl
        exact (keepsIndexes_startMap nulls started).trans (congrArg (· + 1) entries)
    | null | bool | int | real | text | array => rfl
  | _ => rfl

end

/-- A cell that is null instead of failed is flagged and no more. -/
theorem keepsIndexes_guard (policy : CellPolicy) (value : Json) (row : Nat)
    {unguarded : Column → Attempt Column} (written : KeepsIndexes column (unguarded column).state) :
    KeepsIndexes column (guard policy value row unguarded column).state :=
  state_guard policy value row rfl (fun other kept => kept.trans (keepsIndexes_setNull row other))
    written

mutual

/-- A write, of a value of whatever type, leaves the tree of the column, whether it fails or not. -/
theorem keepsIndexes_write (policy : CellPolicy) : (type : DataType) → (value : Json) →
    (row : Nat) → (column : Column) →
      KeepsIndexes column (write policy type value row column).state
  | .leaf kind _ _, value, row, column => by
    rw [write]
    exact keepsIndexes_guard policy value row
      (keepsIndexes_writeLeaf kind value row column)
  | .struct _ types, value, row, column => by
    rw [write]
    exact keepsIndexes_guard policy value row
      (keepsIndexes_writeStruct
        (fun members fields => keepsFieldIndexes_writeFields policy types members row fields) value
        column)
  | .list _ element _, value, row, column => by
    rw [write]
    exact keepsIndexes_guard policy value row
      (keepsIndexes_writeList (keepsIndexes_write policy element) value row column)
  | .map _ _ entry _, value, row, column => by
    rw [write]
    exact keepsIndexes_guard policy value row
      (keepsIndexes_writeMap (keepsIndexes_write policy entry) value row column)
termination_by structural type => type

/-- Writing the members of an object leaves the trees of all fields, up to the one that fails and
behind it. -/
theorem keepsFieldIndexes_writeFields (policy : CellPolicy) :
    (types : List (String × DataType)) → (members : Json.Members) → (row : Nat) →
      (columns : List (String × Column)) →
        KeepsFieldIndexes columns (writeFields policy types members row columns).state
  | [], _, _, _ => rfl
  | _ :: _, _, _, [] => rfl
  | (name, type) :: types, members, row, (columnName, column) :: columns => by
    have first : KeepsIndexes column
        (writeMember (write policy type) name (members.get? name) row column).state := by
      cases members.get? name with
      | none => exact keepsIndexes_setNull row column
      | some value => exact keepsIndexes_write policy type value row column
    have others := keepsFieldIndexes_writeFields policy types members row columns
    rw [writeFields]
    split
    · exact keepsFieldIndexes_cons first rfl columnName
    · exact keepsFieldIndexes_cons first others columnName
termination_by structural types => types

end

/-! ### Anything at all -/

/-- The child counts of fields follow each other in the order of the fields. -/
theorem childCountsFields_append (fields others : List (String × Column)) :
    childCountsFields (fields ++ others) = childCountsFields fields ++ childCountsFields others := by
  induction fields with
  | nil => rfl
  | cons field rest ih =>
    rw [List.cons_append, childCountsFields, childCountsFields, ih, List.append_assoc]

/-- One thing that is done to a column, or to a column somewhere inside it: the column before and after
it. -/
inductive Operation : Column → Column → Prop where
  | write (policy : CellPolicy) (type : DataType) (value : Json) (row : Nat) (column : Column) :
      Operation column (write policy type value row column).state
  | place (row : Nat) (cell : Option LeafCell) (column : Column) :
      Operation column (place row cell column)
  | grow (size : Nat) (column : Column) : Operation column (grow size column)
  | reset (column : Column) : Operation column (reset column)
  | setGrowable (allowed : Bool) (column : Column) : Operation column (setGrowable allowed column)
  | restore (counts : List Nat) (column : Column) : Operation column (restore column counts).1
  | startList {row count offset : Nat} {index taken : ChildIndex} {child grown : Column}
      (nulls : NullMask) (started : startList row count index child = .ok (offset, taken, grown)) :
      Operation (list nulls index child) (list nulls taken grown)
  | startMap {row count offset : Nat} {index taken : ChildIndex} {entries grown : Entries}
      (nulls : NullMask) (started : startMap row count index entries = .ok (offset, taken, grown)) :
      Operation (map nulls index entries.keys entries.values)
        (map nulls taken grown.keys grown.values)
  | keys (nulls : NullMask) (index : ChildIndex) (keys others : ByteCells) (values : Column) :
      Operation (map nulls index keys values) (map nulls index others values)
  | field {column after : Column} (nulls : NullMask) (earlier later : List (String × Column))
      (name : String) (inside : Operation column after) :
      Operation (struct nulls (earlier ++ (name, column) :: later))
        (struct nulls (earlier ++ (name, after) :: later))
  | child {column after : Column} (nulls : NullMask) (index : ChildIndex)
      (inside : Operation column after) : Operation (list nulls index column) (list nulls index after)
  | value {column after : Column} (nulls : NullMask) (index : ChildIndex) (keys : ByteCells)
      (inside : Operation column after) :
      Operation (map nulls index keys column) (map nulls index keys after)

/-- Whatever is done to a column, or inside it, it has the lists and maps that it had. -/
theorem Operation.keepsIndexes (operation : Operation column after) : KeepsIndexes column after := by
  induction operation with
  | write policy type value row column => exact keepsIndexes_write policy type value row column
  | place row cell column => exact keepsIndexes_place row cell column
  | grow size column => exact keepsIndexes_grow size column
  | reset column => exact keepsIndexes_reset column
  | setGrowable allowed column => exact keepsIndexes_setGrowable allowed column
  | restore counts column => exact keepsIndexes_restore column counts
  | startList nulls started => exact keepsIndexes_startList nulls started
  | startMap nulls started => exact keepsIndexes_startMap nulls started
  | keys => rfl
  | field nulls earlier later name _ ih =>
    rw [KeepsIndexes] at ih
    rw [KeepsIndexes, childCounts, childCounts, childCountsFields_append, childCountsFields_append,
      childCountsFields, childCountsFields, List.length_append, List.length_append,
      List.length_append, List.length_append, ih]
  | child nulls index _ ih => exact congrArg (· + 1) ih
  | value nulls index keys _ ih => exact congrArg (· + 1) ih

/-- Columns of a type that come of a new one, whatever is done to them and to the columns inside
them. -/
inductive Used (type : DataType) : Column → Prop where
  | new (size : Nat) : Used type (allocate size type)
  | next {column after : Column} (used : Used type column) (operation : Operation column after) :
      Used type after

/-- However a column was used, it has as many child counts as a new one. -/
theorem Used.length_childCounts {type : DataType} (used : Used type column) :
    (childCounts column).length = (childCounts (allocate 0 type)).length := by
  induction used with
  | new size => exact length_childCounts_of_fits type _ (fits_allocate size type)
  | next _ operation ih => exact Eq.trans operation.keepsIndexes ih

/-- However two columns of a type were used, one takes the child counts of the other. -/
theorem Used.putBack {type : DataType} {source : Column} (used : Used type source)
    (used' : Used type column) : PutBack source column :=
  putBack_of_length (used.length_childCounts.trans used'.length_childCounts.symm)

end Columnar.Column
