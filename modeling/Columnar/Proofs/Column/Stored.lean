import Columnar.Proofs.Column.WriteShape
/-!
# What a value is stored as, and what is wrong with it

What a cell reads as once a value was written into it (`stored`) and what is wrong with a value that
is refused (`fault`) are functions of the policy, the type and the value. No column takes part in
them, so they are the same for every row and under every history. A write into a column that fits
its type fails with the fault of the value and with nothing else, except that it runs out of child
slots where child columns must not grow (`blamed_write`).
-/

set_option autoImplicit false

namespace Columnar

/-- Running out of child slots is no failure of a cell, so it never turns a cell null. -/
theorem Failure.isCellFailure_of_isChildOverflow {failure : Failure}
    (overflow : failure.isChildOverflow = true) : failure.isCellFailure = false := by
  induction failure with
  | inField name cause ih => exact ih overflow
  | childOverflow needed capacity => rfl
  | _ => cases overflow

namespace Column

/-- A write into a fresh column that has one slot. -/
def trial (policy : CellPolicy) (type : DataType) (value : Json) : Attempt Column :=
  write policy type value 0 (allocate 1 type)

mutual

/-- What a value of a type reads as once it was stored. A leaf reads as it does in a column of its
own. A struct has its declared fields in order, absent ones as null, a list its elements in order and
a map its entries in order. A value of the wrong kind reads as null. -/
def stored (policy : CellPolicy) : DataType → Json → Json
  | .leaf kind attributes extra, value =>
    valueAt (trial policy (.leaf kind attributes extra) value).state 0
  | .struct _ types, .object members => .objectOf (storedFields policy types members)
  | .list _ element _, .array items => .array (items.map (stored policy element))
  | .map _ _ entry _, .object members =>
    .objectOf (members.map fun member => (member.1, stored policy entry member.2))
  | _, _ => .null
termination_by structural type => type

/-- What the fields of a struct read as once the members of an object were stored. -/
def storedFields (policy : CellPolicy) : List (String × DataType) → Json.Members → Json.Members
  | [], _ => []
  | (name, type) :: types, members =>
    let value :=
      match members.get? name with
      | some value => stored policy type value
      | none => .null
    (name, value) :: storedFields policy types members
termination_by structural types => types

end

/-- Whether a value leaves its cell null. -/
def leavesNull (policy : CellPolicy) : DataType → Json → Bool
  | .leaf kind attributes _, value =>
    match LeafCell.outcome policy kind attributes value with
    | .ok none => true
    | _ => false
  | .struct _ _, .object _ => false
  | .list _ _ _, .array _ => false
  | .map _ _ _ _, .object _ => false
  | _, _ => true

/-- What is wrong with a value of a kind that its column does not take, if it may not be null. -/
def kindFault (policy : CellPolicy) (category : Category) (value : Json) : Option Failure :=
  if value.isNull ∨ policy = .nullCell then none else some (category.mismatch value)

/-- What becomes of a value of a kind that its column does not take: its cell is null, or nothing is
written. -/
def refuse (policy : CellPolicy) (category : Category) (value : Json) (row : Nat)
    (column : Column) : Attempt Column :=
  match kindFault policy category value with
  | none => .ok (setNull row column)
  | some failure => .failed column failure

mutual

/-- The first thing wrong with a value of a type, if a write of it has to fail. -/
def fault (policy : CellPolicy) : DataType → Json → Option Failure
  | .leaf kind attributes _, value =>
    match LeafCell.outcome policy kind attributes value with
    | .ok _ => none
    | .error failure => some failure
  | .struct _ types, value =>
    match value with
    | .object members => faultFields policy types members
    | value => kindFault policy .struct value
  | .list _ element _, value =>
    match value with
    | .array items => items.findSome? (fault policy element)
    | value => kindFault policy .list value
  | .map _ _ entry _, value =>
    match value with
    | .object members =>
      members.findSome? fun member => (fault policy entry member.2).map (.inField member.1)
    | value => kindFault policy .map value
termination_by structural type => type

/-- The first thing wrong with the members of an object, in the order of the declared fields. -/
def faultFields (policy : CellPolicy) :
    List (String × DataType) → Json.Members → Option Failure
  | [], _ => none
  | (name, type) :: types, members =>
    ((fault policy type ((members.get? name).getD .null)).map (.inField name)).or
      (faultFields policy types members)
termination_by structural types => types

end

variable {policy : CellPolicy}

/-! ### Null -/

/-- Null is written by flagging the row, and the type has no say in it. -/
theorem write_null (policy : CellPolicy) (type : DataType) (row : Nat) (column : Column) :
    write policy type .null row column = .ok (setNull row column) := by
  cases type <;> rfl

/-- Null leaves its cell null. -/
theorem leavesNull_null (type : DataType) : leavesNull policy type .null = true := by
  cases type <;> rfl

/-- An absent member is written as null is. -/
theorem writeMember_eq (type : DataType) (name : String) (value : Option Json) (row : Nat)
    (column : Column) :
    writeMember (write policy type) name value row column =
      (write policy type (value.getD .null) row column).within name := by
  cases value with
  | none => rw [Option.getD_none, write_null]; rfl
  | some value => rfl

/-! ### What leaf cells read as -/

/-- No cell of a new leaf column is null. -/
theorem isNull_ofPrimitive (kind : Primitive) (attributes : Attributes) (size row : Nat) :
    (ofPrimitive kind attributes size).isNull row = false := by
  cases kind <;> exact NullMask.isNull_ofSize size row

/-- A leaf reads as the cell that it is encoded to. -/
theorem stored_leaf {kind : Primitive} {attributes : Attributes} {value : Json}
    {cell : Option LeafCell} (written : LeafCell.outcome policy kind attributes value = .ok cell)
    (extra : List (String × DataType)) :
    stored policy (.leaf kind attributes extra) value =
      cell.elim .null (LeafCell.read kind attributes) := by
  have fits := fitsPrimitive_ofPrimitive kind attributes 1
  have inside : 0 < (ofPrimitive kind attributes 1).slots := by
    rw [← allocate.eq_1 1 kind attributes extra, slots_allocate]
    exact Nat.one_pos
  rw [stored, trial, allocate, write_leaf fits, written]
  cases cell with
  | none =>
    have fitsType : Fits true (.leaf kind attributes extra) (ofPrimitive kind attributes 1) := fits
    exact valueAt_of_isNull (fitsType.isNull_setNull_self inside)
  | some cell =>
    have belongs := LeafCell.kind_of_outcome written
    have read := valueAt_putCell_self fits inside belongs
    rw [isNull_ofPrimitive] at read
    exact read

/-- A value leaves a leaf cell null when there is no cell to store for it. -/
theorem leavesNull_leaf {kind : Primitive} {attributes : Attributes} {value : Json}
    {cell : Option LeafCell} (written : LeafCell.outcome policy kind attributes value = .ok cell)
    (extra : List (String × DataType)) :
    leavesNull policy (.leaf kind attributes extra) value = cell.isNone := by
  rw [leavesNull, written]
  cases cell <;> rfl

/-- A cell that is left null reads as null. -/
theorem stored_of_leavesNull {type : DataType} {value : Json}
    (null : leavesNull policy type value = true) : stored policy type value = .null := by
  cases type with
  | leaf kind attributes extra =>
    rw [leavesNull] at null
    split at null
    · next written => exact stored_leaf written extra
    · cases null
  | struct attributes types => cases value <;> first | rfl | cases null
  | list attributes element extra => cases value <;> first | rfl | cases null
  | map attributes key entry extra => cases value <;> first | rfl | cases null

/-- Null is stored as null. -/
theorem stored_null (type : DataType) : stored policy type .null = .null :=
  stored_of_leavesNull (leavesNull_null type)

/-- The first field of an object is stored under its name, an absent member as null. -/
theorem storedFields_cons (name : String) (type : DataType) (types : List (String × DataType))
    (members : Json.Members) :
    storedFields policy ((name, type) :: types) members =
      (name, stored policy type ((members.get? name).getD .null)) ::
        storedFields policy types members := by
  rw [storedFields]
  cases members.get? name with
  | none => rw [Option.getD_none, stored_null]
  | some value => rfl

/-- Each field of an object is stored on its own, an absent member as null. -/
theorem storedFields_eq_map (types : List (String × DataType)) (members : Json.Members) :
    storedFields policy types members = types.map fun field =>
      (field.1, stored policy field.2 ((members.get? field.1).getD .null)) := by
  induction types with
  | nil => rfl
  | cons field types ih => rw [storedFields_cons, ih, List.map_cons]

/-! ### What is wrong with a value -/

/-- Where failures turn cells null no kind of value is at fault. -/
theorem kindFault_nullCell (category : Category) (value : Json) :
    kindFault .nullCell category value = none := by
  simp [kindFault]

/-- A value of the wrong kind is refused for its kind or not at all. -/
theorem failure_refuse (category : Category) (value : Json) (row : Nat) (column : Column) :
    (refuse policy category value row column).failure = kindFault policy category value := by
  unfold refuse
  cases kindFault policy category value <;> rfl

mutual

/-- Where failures turn cells null, nothing is wrong with any value. -/
theorem fault_nullCell : (type : DataType) → (value : Json) → fault .nullCell type value = none
  | .leaf kind attributes extra, value => by
    rw [fault]
    split
    · rfl
    · next refused => exact absurd (LeafCell.outcome_eq_error refused).1 (by decide)
  | .struct _ types, value => by
    cases value with
    | object members => exact faultFields_nullCell types members
    | null | bool | int | real | text | array => exact kindFault_nullCell _ _
  | .list _ element _, value => by
    cases value with
    | array items =>
      exact List.findSome?_eq_none_iff.mpr fun item _ => fault_nullCell element item
    | null | bool | int | real | text | object => exact kindFault_nullCell _ _
  | .map _ _ entry _, value => by
    cases value with
    | object members =>
      refine List.findSome?_eq_none_iff.mpr fun member _ => ?_
      rw [fault_nullCell entry member.2]
      rfl
    | null | bool | int | real | text | array => exact kindFault_nullCell _ _
termination_by structural type => type

/-- Where failures turn cells null nothing is wrong with the members of an object. -/
theorem faultFields_nullCell : (types : List (String × DataType)) → (members : Json.Members) →
    faultFields .nullCell types members = none
  | [], _ => rfl
  | (name, type) :: types, members => by
    rw [faultFields, fault_nullCell type, faultFields_nullCell types members]
    rfl
termination_by structural types => types

end

/-! ### Failures of writes -/

/-- An attempt fails with the given fault, or runs out of child slots where they must not grow. -/
def Blamed (growable : Bool) (fault failure : Option Failure) : Prop :=
  failure = fault ∨
    growable = false ∧ ∃ overflow, failure = some overflow ∧ overflow.isChildOverflow = true

section

variable {growable : Bool}

/-- The blame is passed up under the name of a field. -/
theorem Blamed.inField {fault failure : Option Failure} (blamed : Blamed growable fault failure)
    (name : String) :
    Blamed growable (fault.map (.inField name)) (failure.map (.inField name)) := by
  obtain same | ⟨fixed, overflow, same, isOverflow⟩ := blamed
  · exact .inl (by rw [same])
  · exact .inr ⟨fixed, .inField name overflow, by rw [same]; rfl, isOverflow⟩

/-- Where child columns may grow, an attempt fails with the fault. -/
theorem Blamed.of_growable {fault failure : Option Failure} (blamed : Blamed true fault failure) :
    failure = fault := by
  obtain same | ⟨fixed, -⟩ := blamed
  · exact same
  · cases fixed

/-- What goes through has no fault, child columns that may grow or not. -/
theorem Blamed.fault_eq_none {fault : Option Failure} (blamed : Blamed growable fault none) :
    fault = none := by
  obtain same | ⟨-, overflow, none, -⟩ := blamed
  · exact same.symm
  · cases none

/-- A failure that is blamed on the inside of a value is not turned into null: under the policy that
would do so the value has no fault, and running out of slots is no failure of a cell. -/
theorem guard_eq_of_blamed {fault : Option Failure} {value : Json} {row : Nat}
    {unguarded : Column → Attempt Column} {column : Column} (present : value.isNull = false)
    (blamed : Blamed growable fault (unguarded column).failure)
    (lenient : policy = .nullCell → fault = none) :
    guard policy value row unguarded column = unguarded column := by
  unfold guard
  rw [present]
  dsimp only
  split
  · next yes => cases yes
  · split
    · next failure failed =>
      rw [failed] at blamed
      split
      · next caught =>
        obtain same | ⟨-, overflow, same, isOverflow⟩ := blamed
        · rw [lenient caught.1] at same
          cases same
        -- An overflow is never caught, so no cell turns null for want of room.
        · cases same
          rw [Failure.isCellFailure_of_isChildOverflow isOverflow] at caught
          cases caught.2
      · rfl
    · rfl

/-- A guarded write of a value of a kind that its column does not take. -/
theorem guard_mismatch {value : Json} {row : Nat} {unguarded : Column → Attempt Column}
    {column : Column} {category : Category}
    (refused : unguarded column = .failed column (category.mismatch value)) :
    guard policy value row unguarded column = refuse policy category value row column := by
  unfold guard refuse kindFault
  rw [refused]
  by_cases null : value.isNull = true
  · simp [null]
  · cases policy with
    | nullCell => simp [null, Category.mismatch, Failure.isCellFailure]
    | abort => simp [null]

/-- A run of elements fails with the first fault of an element. -/
theorem blamed_writeElements {writer : Json → Nat → Column → Attempt Column}
    {faultOf : Json → Option Failure} {P : Column → Prop}
    (step : ∀ element slot child, P child →
      Blamed growable (faultOf element) (writer element slot child).failure)
    (keep : ∀ element slot child, P child → P (writer element slot child).state) :
    ∀ (items : List Json) (slot : Nat) (child : Column), P child →
      Blamed growable (items.findSome? faultOf) (writeElements writer items slot child).failure := by
  intro items
  induction items with
  | nil => exact fun _ _ _ => .inl rfl
  | cons element rest ih =>
    intro slot child before
    have first := step element slot child before
    have after := keep element slot child before
    rw [writeElements, List.findSome?_cons, Attempt.andThen]
    cases failed : (writer element slot child).failure with
    | none =>
      rw [failed] at first
      rw [first.fault_eq_none]
      exact ih (slot + 1) _ after
    | some failure =>
      rw [failed] at first
      dsimp only
      rw [failed]
      obtain same | overflow := first
      · rw [← same]
        exact .inl rfl
      · exact .inr overflow

/-- A run of entries fails with the first fault of an entry, under its key. -/
theorem blamed_writeEntries {writer : Json → Nat → Column → Attempt Column}
    {faultOf : Json → Option Failure} {P : Column → Prop}
    (step : ∀ value slot values, P values →
      Blamed growable (faultOf value) (writer value slot values).failure)
    (keep : ∀ value slot values, P values → P (writer value slot values).state) :
    ∀ (members : Json.Members) (slot : Nat) (entries : Entries), P entries.values →
      Blamed growable
        (members.findSome? fun member => (faultOf member.2).map (.inField member.1))
        (writeEntries writer members slot entries).failure := by
  intro members
  induction members with
  | nil => exact fun _ _ _ => .inl rfl
  | cons member rest ih =>
    intro slot entries before
    obtain ⟨key, value⟩ := member
    have first : Blamed growable ((faultOf value).map (.inField key))
        (writeEntry writer key value slot entries).failure :=
      (step value slot entries.values before).inField key
    have after : P (writeEntry writer key value slot entries).state.values :=
      keep value slot entries.values before
    rw [writeEntries, List.findSome?_cons, Attempt.andThen]
    cases failed : (writeEntry writer key value slot entries).failure with
    | none =>
      rw [failed] at first
      rw [first.fault_eq_none]
      exact ih (slot + 1) _ after
    | some failure =>
      rw [failed] at first
      dsimp only
      rw [failed]
      obtain same | overflow := first
      · rw [← same]
        exact .inl rfl
      · exact .inr overflow

/-! A value of the right kind is written as if there were no guard, since the guard catches nothing. -/

/-- An object is written by writing its members, and what stops one of them stops the write. -/
theorem write_struct_of_blamed {types : List (String × DataType)} {members : Json.Members}
    {row : Nat} {nulls : NullMask} {fields : List (String × Column)}
    (blamed : Blamed growable (faultFields policy types members)
      (writeFields policy types members row fields).failure) (attributes : Attributes) :
    write policy (.struct attributes types) (.object members) row (struct nulls fields) =
      (writeFields policy types members row fields).map (struct nulls) := by
  rw [write]
  refine guard_eq_of_blamed rfl blamed fun lenient => ?_
  rw [lenient]
  exact faultFields_nullCell types members

/-- An array is written by writing its elements, and what stops one of them stops the write. -/
theorem write_list_of_blamed {attributes : Attributes} {element : DataType}
    {extra : List (String × DataType)} {items : List Json} {row : Nat} {column : Column}
    (blamed : Blamed growable (fault policy (.list attributes element extra) (.array items))
      (writeList (write policy element) (.array items) row column).failure) :
    write policy (.list attributes element extra) (.array items) row column =
      writeList (write policy element) (.array items) row column := by
  rw [write]
  refine guard_eq_of_blamed rfl blamed fun lenient => ?_
  rw [lenient]
  exact fault_nullCell _ _

/-- An object is written into a map by writing its values, and what stops one of them stops the
write. -/
theorem write_map_of_blamed {attributes : Attributes} {key entry : DataType}
    {extra : List (String × DataType)} {members : Json.Members} {row : Nat} {column : Column}
    (blamed : Blamed growable (fault policy (.map attributes key entry extra) (.object members))
      (writeMap (write policy entry) (.object members) row column).failure) :
    write policy (.map attributes key entry extra) (.object members) row column =
      writeMap (write policy entry) (.object members) row column := by
  rw [write]
  refine guard_eq_of_blamed rfl blamed fun lenient => ?_
  rw [lenient]
  exact fault_nullCell _ _

/-- A list that fails fails with the fault of its first faulty element or for want of child slots.
-/
theorem blamed_writeList {element : DataType}
    (step : ∀ value slot child, Fits growable element child →
      Blamed growable (fault policy element value) (write policy element value slot child).failure)
    (nulls : NullMask) {index : ChildIndex} {child : Column} (allowed : index.growable = growable)
    (childFits : Fits growable element child) (items : List Json) (row : Nat) :
    Blamed growable (items.findSome? (fault policy element))
      (writeList (write policy element) (.array items) row (list nulls index child)).failure := by
  rw [writeList]
  cases started : startList row items.length index child with
  | error failure =>
    obtain ⟨fixed, overflow⟩ := startList_eq_error started
    exact .inr ⟨by rw [← allowed, fixed], failure, rfl, overflow⟩
  | ok start =>
    obtain ⟨offset, index', child'⟩ := start
    obtain ⟨-, -, -, -, -, growth, rfl⟩ := startList_eq_ok started
    exact blamed_writeElements step
      (fun value slot child fits => (reshaped_write growable policy element value slot child fits).1)
      items offset _ (childFits.growIf growth)

/-- A map that fails fails with the fault of its first faulty value, under the key, or for want of
child slots. -/
theorem blamed_writeMap {entry : DataType}
    (step : ∀ value slot values, Fits growable entry values →
      Blamed growable (fault policy entry value) (write policy entry value slot values).failure)
    (nulls : NullMask) {index : ChildIndex} (keys : ByteCells) {values : Column}
    (allowed : index.growable = growable) (valuesFit : Fits growable entry values)
    (members : Json.Members) (row : Nat) :
    Blamed growable
      (members.findSome? fun member => (fault policy entry member.2).map (.inField member.1))
      (writeMap (write policy entry) (.object members) row (map nulls index keys values)).failure := by
  rw [writeMap]
  cases started : startMap row members.length index ⟨keys, values⟩ with
  | error failure =>
    obtain ⟨fixed, overflow⟩ := startMap_eq_error started
    exact .inr ⟨by rw [← allowed, fixed], failure, rfl, overflow⟩
  | ok start =>
    obtain ⟨offset, index', entries'⟩ := start
    obtain ⟨-, -, -, -, -, -, ⟨growth, sameValues⟩, -⟩ := startMap_eq_ok started
    exact blamed_writeEntries step
      (fun value slot values fits => (reshaped_write growable policy entry value slot values fits).1)
      members offset entries' (sameValues ▸ valuesFit.growIf growth)

end

mutual

/-- A write into a column that fits its type fails with the fault of the value, or because child
columns that must not grow are full. -/
theorem blamed_write (growable : Bool) (policy : CellPolicy) :
    (type : DataType) → (value : Json) → (row : Nat) → (column : Column) →
      Fits growable type column →
        Blamed growable (fault policy type value) (write policy type value row column).failure
  | .leaf kind attributes extra, value, row, column, fits => by
    rw [fault, write_leaf fits]
    cases LeafCell.outcome policy kind attributes value <;> exact .inl rfl
  | .struct attributes types, value, row, column, fits => by
    obtain ⟨nulls, fields, rfl, -, fieldsFit⟩ := fits.exists_struct
    cases value with
    | object members =>
      have blamed := blamed_writeFields growable policy types members nulls.size row fields fieldsFit
      rw [write_struct_of_blamed blamed]
      exact blamed
    | null | bool | int | real | text | array =>
      rw [write, guard_mismatch rfl]
      exact .inl (failure_refuse _ _ _ _)
  -- Child slots may be wanting for a list or a map, on top of the faults of its parts.
  | .list attributes element extra, value, row, column, fits => by
    obtain ⟨nulls, index, child, rfl, -, -, allowed, childFits⟩ := fits.exists_list
    cases value with
    | array items =>
      have blamed := blamed_writeList (blamed_write growable policy element) nulls allowed childFits
        items row
      rw [write_list_of_blamed blamed]
      exact blamed
    | null | bool | int | real | text | object =>
      rw [write, guard_mismatch rfl]
      exact .inl (failure_refuse _ _ _ _)
  | .map attributes key entry extra, value, row, column, fits => by
    obtain ⟨nulls, index, keys, values, rfl, -, -, allowed, -, valuesFit⟩ := fits.exists_map
    cases value with
    | object members =>
      have blamed := blamed_writeMap (blamed_write growable policy entry) nulls keys allowed
        valuesFit members row
      rw [write_map_of_blamed blamed]
      exact blamed
    | null | bool | int | real | text | array =>
      rw [write, guard_mismatch rfl]
      exact .inl (failure_refuse _ _ _ _)
termination_by structural type => type

/-- The members of an object that fail do so with the fault of the first faulty field, under its
name, or for want of child slots. -/
theorem blamed_writeFields (growable : Bool) (policy : CellPolicy) :
    (types : List (String × DataType)) → (members : Json.Members) → (size row : Nat) →
      (columns : List (String × Column)) → FitsFields growable size types columns →
        Blamed growable (faultFields policy types members)
          (writeFields policy types members row columns).failure
  | [], _, _, _, _, _ => .inl rfl
  | _ :: _, _, _, _, [], fits => by simp [FitsFields] at fits
  | (name, type) :: types, members, size, row, (columnName, column) :: columns, fits => by
    rw [FitsFields] at fits
    obtain ⟨-, -, columnFits, rest⟩ := fits
    have first := (blamed_write growable policy type ((members.get? name).getD .null) row column
      columnFits).inField name
    rw [writeFields, faultFields, writeMember_eq]
    dsimp only [Attempt.within]
    split
    · next failure failed =>
      rw [failed] at first
      obtain same | overflow := first
      · rw [← same]
        exact .inl rfl
      · exact .inr overflow
    · next clean =>
      rw [clean] at first
      rw [first.fault_eq_none]
      exact blamed_writeFields growable policy types members size row columns rest
termination_by structural types => types

end

/-! ### Writes by the kind of value -/

section

variable {growable : Bool} {nulls : NullMask}

/-- In a column that fits its type an object is written by writing its members. -/
theorem write_struct {attributes : Attributes} {types : List (String × DataType)}
    {fields : List (String × Column)}
    (fits : Fits growable (.struct attributes types) (struct nulls fields)) (policy : CellPolicy)
    (members : Json.Members) (row : Nat) :
    write policy (.struct attributes types) (.object members) row (struct nulls fields) =
      (writeFields policy types members row fields).map (struct nulls) := by
  rw [Fits] at fits
  exact write_struct_of_blamed
    (blamed_writeFields growable policy types members nulls.size row fields fits.2) attributes

/-- In a column that fits its type an array is written by writing its elements. -/
theorem write_list {attributes : Attributes} {element : DataType}
    {extra : List (String × DataType)} {index : ChildIndex} {child : Column}
    (fits : Fits growable (.list attributes element extra) (list nulls index child))
    (policy : CellPolicy) (items : List Json) (row : Nat) :
    write policy (.list attributes element extra) (.array items) row (list nulls index child) =
      writeList (write policy element) (.array items) row (list nulls index child) := by
  rw [Fits] at fits
  exact write_list_of_blamed
    (blamed_writeList (blamed_write growable policy element) nulls fits.2.2.1 fits.2.2.2 items row)

/-- In a column that fits its type an object is written into a map by writing its values. -/
theorem write_map {attributes : Attributes} {key entry : DataType}
    {extra : List (String × DataType)} {index : ChildIndex} {keys : ByteCells} {values : Column}
    (fits : Fits growable (.map attributes key entry extra) (map nulls index keys values))
    (policy : CellPolicy) (members : Json.Members) (row : Nat) :
    write policy (.map attributes key entry extra) (.object members) row
        (map nulls index keys values) =
      writeMap (write policy entry) (.object members) row (map nulls index keys values) := by
  rw [Fits] at fits
  exact write_map_of_blamed
    (blamed_writeMap (blamed_write growable policy entry) nulls keys fits.2.2.1 fits.2.2.2.2
      members row)

/-- A value of the wrong kind makes the cell of a struct, list or map null, or changes nothing. -/
theorem write_of_leavesNull {type : DataType} {column : Column} (fits : Fits growable type column)
    (composite : ∀ kind, type.category ≠ .primitive kind) {value : Json}
    (null : leavesNull policy type value = true) (row : Nat) :
    write policy type value row column = refuse policy type.category value row column := by
  cases type with
  | leaf kind attributes extra => exact absurd rfl (composite kind)
  | struct attributes types =>
    obtain ⟨nulls, fields, rfl, -⟩ := fits.exists_struct
    cases value with
    | object members => cases null
    | null | bool | int | real | text | array => exact guard_mismatch rfl
  | list attributes element extra =>
    obtain ⟨nulls, index, child, rfl, -⟩ := fits.exists_list
    cases value with
    | array items => cases null
    | null | bool | int | real | text | object => exact guard_mismatch rfl
  | map attributes key entry extra =>
    obtain ⟨nulls, index, keys, values, rfl, -⟩ := fits.exists_map
    cases value with
    | object members => cases null
    | null | bool | int | real | text | array => exact guard_mismatch rfl

end

end Column

end Columnar
