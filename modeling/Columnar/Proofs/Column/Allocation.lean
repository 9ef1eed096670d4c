import Columnar.Proofs.Column.WriteShape
/-!
# Slots and growth of a column tree

How many slots each column of a tree has, and which lists and maps may grow their children. Null
flags, resets and child counts that are put back leave the slots of the whole tree as they are, and so
does a write into a column whose children must not grow, whether it fails or not
(`allocation_write`). Where a column fits its type, one permission stands at every depth.
-/

set_option autoImplicit false

namespace Columnar

/-- A child column that must not grow has room as it is, or there is no taking its slots. -/
theorem ChildIndex.growth_eq_none {index : ChildIndex} {row count capacity : Nat}
    {taking : Taking}
    (taken : index.take row count capacity = .ok taking) (fixed : index.growable = false) :
    taking.growth = none := by
  unfold ChildIndex.take at taken
  dsimp only at taken
  rw [fixed] at taken
  split at taken
  · cases taken
    rfl
  · cases taken

namespace Column

mutual

/-- How many slots the columns of a tree have, an outer one before those inside it. The keys of a map
count as a column of their own. -/
def allocation : Column → List Nat
  | struct nulls fields => nulls.size :: allocationFields fields
  | list _ index child => index.spans.size :: allocation child
  | map _ index keys values => index.spans.size :: keys.spans.size :: allocation values
  | leaf => [slots leaf]
termination_by structural column => column

/-- How many slots the trees of columns have, one tree after the other. -/
def allocationFields : List (String × Column) → List Nat
  | [] => []
  | (_, column) :: rest => allocation column ++ allocationFields rest
termination_by structural fields => fields

end

mutual

/-- For each list and map of a tree whether it may grow its children. -/
def growables : Column → List Bool
  | struct _ fields => growablesFields fields
  | list _ index child => index.growable :: growables child
  | map _ index _ values => index.growable :: growables values
  | _ => []
termination_by structural column => column

/-- For each list and map in the trees of columns whether it may grow its children. -/
def growablesFields : List (String × Column) → List Bool
  | [] => []
  | (_, column) :: rest => growables column ++ growablesFields rest
termination_by structural fields => fields

end

variable {growable : Bool}

/-! ### What the permissions are -/

mutual

/-- In a column of a type for one permission, every list and map has this permission. -/
theorem growables_of_fits : (type : DataType) → (column : Column) → Fits growable type column →
    ∀ flag ∈ growables column, flag = growable
  | .leaf kind attributes extra, column, fits => by
    cases column <;> first | exact fits.elim | simp [growables]
  | .struct _ types, _, fits => by
    obtain ⟨nulls, fields, rfl, -, fieldsFit⟩ := fits.exists_struct
    exact growablesFields_of_fits types _ fields fieldsFit
  | .list _ element _, _, fits => by
    obtain ⟨nulls, index, child, rfl, -, -, allowed, childFits⟩ := fits.exists_list
    rw [growables, List.forall_mem_cons]
    exact ⟨allowed, growables_of_fits element child childFits⟩
  | .map _ _ entry _, _, fits => by
    obtain ⟨nulls, index, keys, values, rfl, -, -, allowed, -, valuesFit⟩ := fits.exists_map
    rw [growables, List.forall_mem_cons]
    exact ⟨allowed, growables_of_fits entry values valuesFit⟩
termination_by structural type => type

/-- In columns of fields for one permission, every list and map has this permission. -/
theorem growablesFields_of_fits : (types : List (String × DataType)) → (size : Nat) →
    (columns : List (String × Column)) → FitsFields growable size types columns →
      ∀ flag ∈ growablesFields columns, flag = growable
  | [], _, [], _ => by simp [growablesFields]
  | [], _, _ :: _, fits => by simp [FitsFields] at fits
  | _ :: _, _, [], fits => by simp [FitsFields] at fits
  | (_, type) :: types, size, (_, column) :: columns, fits => by
    rw [FitsFields] at fits
    obtain ⟨-, -, first, rest⟩ := fits
    rw [growablesFields, List.forall_mem_append]
    exact ⟨growables_of_fits type column first, growablesFields_of_fits types size columns rest⟩
termination_by structural types => types

end

mutual

/-- A column that fits its type fits it with whatever permission all its lists and maps have. Without
lists and maps it has either. -/
theorem Fits.of_growables (allowed : Bool) : (type : DataType) → (column : Column) →
    Fits growable type column → (∀ flag ∈ growables column, flag = allowed) →
      Fits allowed type column
  | .leaf _ _ _, column, fits, _ => by
    cases column <;> simp only [Fits, FitsPrimitive] at fits <;> exact fits
  | .struct _ types, _, fits, same => by
    obtain ⟨nulls, fields, rfl, consistent, fieldsFit⟩ := fits.exists_struct
    rw [Fits]
    exact ⟨consistent, FitsFields.of_growables allowed types _ fields fieldsFit same⟩
  | .list _ element _, _, fits, same => by
    obtain ⟨nulls, index, child, rfl, consistent, sizes, -, childFits⟩ := fits.exists_list
    rw [growables, List.forall_mem_cons] at same
    rw [Fits]
    exact ⟨consistent, sizes, same.1, Fits.of_growables allowed element child childFits same.2⟩
  | .map _ _ entry _, _, fits, same => by
    obtain ⟨nulls, index, keys, values, rfl, consistent, sizes, -, keysFit, valuesFit⟩ :=
      fits.exists_map
    rw [growables, List.forall_mem_cons] at same
    rw [Fits]
    exact ⟨consistent, sizes, same.1, keysFit,
      Fits.of_growables allowed entry values valuesFit same.2⟩
termination_by structural type => type

/-- Columns of fields fit with whatever permission their lists and maps turn out to have. -/
theorem FitsFields.of_growables (allowed : Bool) : (types : List (String × DataType)) →
    (size : Nat) → (columns : List (String × Column)) → FitsFields growable size types columns →
      (∀ flag ∈ growablesFields columns, flag = allowed) → FitsFields allowed size types columns
  | [], _, [], _, _ => by rw [FitsFields]; trivial
  | [], _, _ :: _, fits, _ => by simp [FitsFields] at fits
  | _ :: _, _, [], fits, _ => by simp [FitsFields] at fits
  | (_, type) :: types, size, (_, column) :: columns, fits, same => by
    rw [FitsFields] at fits
    obtain ⟨sameName, enough, first, rest⟩ := fits
    rw [growablesFields, List.forall_mem_append] at same
    rw [FitsFields]
    exact ⟨sameName, enough, Fits.of_growables allowed type column first same.1,
      FitsFields.of_growables allowed types size columns rest same.2⟩
termination_by structural types => types

end

/-! ### What leaves the slots as they are -/

/-- A null flag takes no slots. -/
@[simp] theorem allocation_setNull (row : Nat) (column : Column) :
    allocation (setNull row column) = allocation column := by
  cases column <;> simp [setNull, allocation, slots]

/-- A leaf column has no slots but its own. -/
theorem allocation_of_fitsPrimitive {kind : Primitive} {attributes : Attributes} {column : Column}
    (fits : FitsPrimitive kind attributes column) : allocation column = [slots column] := by
  cases column <;> first | rfl | exact fits.elim

mutual

/-- A reset keeps the slots at every depth. -/
theorem allocation_reset : (column : Column) → allocation (reset column) = allocation column
  | long _ _ | double _ | bytes _ | decimal _ _ _ | timestamp _ => by
    simp [reset, allocation, slots, Cells.reset, ByteCells.reset]
  | struct nulls fields => by
    rw [reset, allocation, allocation, NullMask.size_reset, allocationFields_reset fields]
  | list nulls index child => by
    rw [reset, allocation, allocation, allocation_reset child]
    rfl
  | map nulls index keys values => by
    rw [reset, allocation, allocation, allocation_reset values]
    rfl
termination_by structural column => column

/-- A reset keeps the slots of every field. -/
theorem allocationFields_reset : (columns : List (String × Column)) →
    allocationFields (resetFields columns) = allocationFields columns
  | [] => rfl
  | (_, column) :: rest => by
    rw [resetFields, allocationFields, allocationFields, allocation_reset column,
      allocationFields_reset rest]
termination_by structural columns => columns

end

mutual

/-- Putting child counts back frees no slots and adds none. -/
theorem allocation_restore : (column : Column) → (counts : List Nat) →
    allocation (restore column counts).1 = allocation column
  | long _ _, _ | double _, _ | bytes _, _ | decimal _ _ _, _ | timestamp _, _ => rfl
  | struct nulls fields, counts => by
    rw [restore, allocation, allocation, allocationFields_restore fields counts]
  | list nulls index child, counts => by
    rw [restore, allocation, allocation, spans_restoreIndex, allocation_restore child]
  | map nulls index keys values, counts => by
    rw [restore, allocation, allocation, spans_restoreIndex, allocation_restore values]
termination_by structural column => column

/-- Putting child counts back frees no slots of any field and adds none. -/
theorem allocationFields_restore : (columns : List (String × Column)) → (counts : List Nat) →
    allocationFields (restoreFields columns counts).1 = allocationFields columns
  | [], _ => rfl
  | (_, column) :: rest, counts => by
    rw [restoreFields, allocationFields, allocationFields, allocation_restore column,
      allocationFields_restore rest]
termination_by structural columns => columns

end

/-! ### Writes where child columns must not grow -/

/-- A column fits its type, must not grow its children, and has slots as given. -/
def Fixed (type : DataType) (slots : List Nat) (column : Column) : Prop :=
  Fits false type column ∧ allocation column = slots

/-- A list that must not grow its child either takes slots that the child has or refuses, and leaves
the child alone. -/
theorem startList_of_fixed {row count offset : Nat} {index index' : ChildIndex}
    {child child' : Column} (fixed : index.growable = false)
    (started : startList row count index child = .ok (offset, index', child')) :
    child' = child := by
  unfold startList at started
  cases taken : index.take row count (slots child) with
  | error failure =>
    rw [taken] at started
    cases started
  | ok taking =>
    rw [taken] at started
    cases started
    rw [ChildIndex.growth_eq_none taken fixed]
    rfl

/-- A map that must not grow its entries either takes slots that they have or refuses, and leaves
them alone. -/
theorem startMap_of_fixed {row count offset : Nat} {index index' : ChildIndex}
    {entries entries' : Entries} (fixed : index.growable = false)
    (started : startMap row count index entries = .ok (offset, index', entries')) :
    entries' = entries := by
  unfold startMap at started
  cases taken : index.take row count (min entries.keys.spans.size (slots entries.values)) with
  | error failure =>
    rw [taken] at started
    cases started
  | ok taking =>
    rw [taken] at started
    cases started
    rw [ChildIndex.growth_eq_none taken fixed]
    rfl

variable {policy : CellPolicy}

/-- Writing a leaf cell or nulling it takes no slots. -/
theorem allocation_write_leaf {kind : Primitive} {attributes : Attributes}
    {extra : List (String × DataType)} {column : Column}
    (fits : Fits false (.leaf kind attributes extra) column) (value : Json) (row : Nat) :
    allocation (write policy (.leaf kind attributes extra) value row column).state =
      allocation column := by
  rw [write_leaf fits]
  cases LeafCell.outcome policy kind attributes value with
  | error failure => rfl
  | ok cell =>
    show allocation (place row cell column) = allocation column
    rw [allocation_of_fitsPrimitive (FitsPrimitive.place fits row cell),
      allocation_of_fitsPrimitive fits, slots_place]

/-- Writing a list whose child must not grow leaves all slots, if writing its elements does. -/
theorem allocation_writeList {element : DataType} {attributes : Attributes}
    {extra : List (String × DataType)}
    (step : ∀ value slot child, Fits false element child →
      allocation (write policy element value slot child).state = allocation child)
    {column : Column} (fits : Fits false (.list attributes element extra) column)
    (value : Json) (row : Nat) :
    allocation (writeList (write policy element) value row column).state = allocation column := by
  obtain ⟨nulls, index, child, rfl, -, -, fixed, childFits⟩ := fits.exists_list
  cases value with
  | array items =>
    rw [writeList]
    cases started : startList row items.length index child with
    | error failure => rfl
    | ok begun =>
      obtain ⟨offset, index', child'⟩ := begun
      obtain ⟨-, spans, -⟩ := startList_eq_ok started
      have same := startList_of_fixed fixed started
      subst same
      have ends := state_writeElements (P := Fixed element (allocation child'))
        (fun value slot child _ kept =>
          ⟨(reshaped_write false policy element value slot child kept.1).1,
            (step value slot child kept.1).trans kept.2⟩)
        items offset child' (Nat.le_refl _) ⟨childFits, rfl⟩
      simp only [Attempt.state_map, allocation, spans, Array.size_setIfInBounds, ends.2]
  | null | bool | int | real | text | object => rfl

/-- Writing a map whose entries must not grow leaves all slots, if writing its values does. -/
theorem allocation_writeMap {entry key : DataType} {attributes : Attributes}
    {extra : List (String × DataType)}
    (step : ∀ value slot values, Fits false entry values →
      allocation (write policy entry value slot values).state = allocation values)
    {column : Column} (fits : Fits false (.map attributes key entry extra) column)
    (value : Json) (row : Nat) :
    allocation (writeMap (write policy entry) value row column).state = allocation column := by
  obtain ⟨nulls, index, keys, values, rfl, -, -, fixed, -, valuesFit⟩ := fits.exists_map
  cases value with
  | object members =>
    rw [writeMap]
    cases started : startMap row members.length index ⟨keys, values⟩ with
    | error failure => rfl
    | ok begun =>
      obtain ⟨offset, index', entries'⟩ := begun
      obtain ⟨-, spans, -⟩ := startMap_eq_ok started
      have same := startMap_of_fixed fixed started
      subst same
      have ends := state_writeEntries
        (P := fun entries => entries.keys.spans.size = keys.spans.size ∧
          Fixed entry (allocation values) entries.values)
        (fun key value slot entries _ kept =>
          ⟨by simpa [writeEntry, ByteCells.set] using kept.1,
            (reshaped_write false policy entry value slot entries.values kept.2.1).1,
            (step value slot entries.values kept.2.1).trans kept.2.2⟩)
        members offset ⟨keys, values⟩ (Nat.le_refl _) ⟨rfl, valuesFit, rfl⟩
      simp only [Attempt.state_map, allocation, spans, Array.size_setIfInBounds, ends.1, ends.2.2]
  | null | bool | int | real | text | array => rfl

mutual

/-- A write into a column whose child columns must not grow changes no number of slots in the tree,
whether it fails or not. -/
theorem allocation_write (policy : CellPolicy) :
    (type : DataType) → (value : Json) → (row : Nat) → (column : Column) →
      Fits false type column →
        allocation (write policy type value row column).state = allocation column
  | .leaf kind attributes extra, value, row, column, fits => allocation_write_leaf fits value row
  | .struct attributes types, value, row, column, fits => by
    rw [write]
    refine state_guard (P := fun after => allocation after = allocation column) policy value row rfl
      (fun other same => (allocation_setNull row other).trans same) ?_
    obtain ⟨nulls, fields, rfl, -, fieldsFit⟩ := fits.exists_struct
    cases value with
    | object members =>
      rw [writeStruct, Attempt.state_map, allocation, allocation,
        allocationFields_writeFields policy types nulls.size members row fields fieldsFit]
    | null | bool | int | real | text | array => rfl
  | .list attributes element extra, value, row, column, fits => by
    rw [write]
    refine state_guard (P := fun after => allocation after = allocation column) policy value row rfl
      (fun other same => (allocation_setNull row other).trans same) ?_
    exact allocation_writeList
      (fun value slot child => allocation_write policy element value slot child) fits value row
  | .map attributes key entry extra, value, row, column, fits => by
    rw [write]
    refine state_guard (P := fun after => allocation after = allocation column) policy value row rfl
      (fun other same => (allocation_setNull row other).trans same) ?_
    exact allocation_writeMap
      (fun value slot values => allocation_write policy entry value slot values) fits value row
termination_by structural type => type

/-- Writing the fields of a struct leaves the slots of each of them, up to the field that fails and
behind it. -/
theorem allocationFields_writeFields (policy : CellPolicy) :
    (types : List (String × DataType)) → (size : Nat) → (members : Json.Members) → (row : Nat) →
      (columns : List (String × Column)) → FitsFields false size types columns →
        allocationFields (writeFields policy types members row columns).state =
          allocationFields columns
  | [], _, _, _, [], _ => rfl
  | [], _, _, _, _ :: _, fits => by simp [FitsFields] at fits
  | _ :: _, _, _, _, [], fits => by simp [FitsFields] at fits
  | (name, type) :: types, size, members, row, (columnName, column) :: columns, fits => by
    rw [FitsFields] at fits
    obtain ⟨-, -, first, rest⟩ := fits
    have kept : allocation
        (writeMember (write policy type) name (members.get? name) row column).state =
          allocation column := by
      cases members.get? name with
      | none => exact allocation_setNull row column
      | some value => exact allocation_write policy type value row column first
    rw [writeFields]
    split
    · rw [Attempt.state_failed, allocationFields, allocationFields, kept]
    · rw [Attempt.state_map, allocationFields, allocationFields, kept,
        allocationFields_writeFields policy types size members row columns rest]
termination_by structural types => types

end

end Column

end Columnar
