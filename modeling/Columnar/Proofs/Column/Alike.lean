import Columnar.Proofs.Column.Kinds
import Columnar.Proofs.Column.Stored
import Columnar.Proofs.DataType.WellFormed
import Columnar.Proofs.Json.Members
/-!
# Values that are the same to a column

A struct looks its fields up by name, so it sees neither the order of the members of an object nor
those that it does not declare, and an absent member is as good as null. A map takes the members in
their order. A value of a kind that the type does not take is known by its kind only. `Alike` relates
the values that no column of a type can tell apart: writing either comes to the same column and the
same failure (`write_eq_of_alike`), whatever the column holds and even if it is not of the type.
-/

set_option autoImplicit false

namespace Columnar

/-- Values that are the same to every column of a type. -/
inductive Alike : DataType → Json → Json → Prop where
  | null (type : DataType) : Alike type .null .null
  | leaf (kind : Primitive) (attributes : Attributes) (extra : List (String × DataType))
      (value : Json) : Alike (.leaf kind attributes extra) value value
  | struct {attributes : Attributes} {types : List (String × DataType)}
      {members members' : Json.Members}
      (each : ∀ name type, (name, type) ∈ types →
        Alike type ((members.get? name).getD .null) ((members'.get? name).getD .null)) :
      Alike (.struct attributes types) (.object members) (.object members')
  | list {attributes : Attributes} {element : DataType} {extra : List (String × DataType)}
      {items items' : List Json} (length : items.length = items'.length)
      (each : ∀ (position : Nat) item item', items[position]? = some item →
        items'[position]? = some item' → Alike element item item') :
      Alike (.list attributes element extra) (.array items) (.array items')
  | map {attributes : Attributes} {key entry : DataType} {extra : List (String × DataType)}
      {members members' : Json.Members} (keys : members.map Prod.fst = members'.map Prod.fst)
      (each : ∀ (position : Nat) member member', members[position]? = some member →
        members'[position]? = some member' → Alike entry member.2 member'.2) :
      Alike (.map attributes key entry extra) (.object members) (.object members')
  | refused {type : DataType} {value value' : Json}
      (taken : type.category.accepts value.kind = false) (same : value.kind = value'.kind) :
      Alike type value value'

namespace Column

variable {policy : CellPolicy}

/-! ### Values that are refused -/

/-- A leaf column that does not take a value looks at no more than its kind. -/
theorem writeLeaf_of_refused {kind : Primitive} {value value' : Json}
    (refused : kind.accepts value.kind = false) (same : value.kind = value'.kind) (row : Nat)
    (column : Column) : writeLeaf kind value row column = writeLeaf kind value' row column := by
  have refused' : kind.accepts value'.kind = false := same ▸ refused
  have first : Category.check (.primitive kind) value = _ := Category.check_of_refused refused
  have second : Category.check (.primitive kind) value' = _ := Category.check_of_refused refused'
  rw [← Category.mismatch_congr same] at second
  cases kind <;> cases column <;>
    simp only [writeLeaf, Json.toBool, Json.toInteger, Json.toReal, Json.toText, first, second,
      bind, Except.bind]

/-! A struct, list or map column keeps its place and says what kind of value it was offered. -/

/-- A struct column that is offered no object stays as it is. -/
theorem writeStruct_of_refused {writeMembers : Json.Members → List (String × Column) →
    Attempt (List (String × Column))} {value : Json}
    (refused : Category.struct.accepts value.kind = false) (nulls : NullMask)
    (fields : List (String × Column)) :
    writeStruct writeMembers value (struct nulls fields) =
      .failed (struct nulls fields) (Category.struct.mismatch value) := by
  cases value with
  | object members => cases refused
  | _ => rfl

/-- A list column that is offered no array stays as it is, and takes no child slots. -/
theorem writeList_of_refused {writeElement : Json → Nat → Column → Attempt Column} {value : Json}
    (refused : Category.list.accepts value.kind = false) (row : Nat) (nulls : NullMask)
    (index : ChildIndex) (child : Column) :
    writeList writeElement value row (list nulls index child) =
      .failed (list nulls index child) (Category.list.mismatch value) := by
  cases value with
  | array items => cases refused
  | _ => rfl

/-- A map column that is offered no object stays as it is, and takes no child slots. -/
theorem writeMap_of_refused {writeValue : Json → Nat → Column → Attempt Column} {value : Json}
    (refused : Category.map.accepts value.kind = false) (row : Nat) (nulls : NullMask)
    (index : ChildIndex) (keys : ByteCells) (values : Column) :
    writeMap writeValue value row (map nulls index keys values) =
      .failed (map nulls index keys values) (Category.map.mismatch value) := by
  cases value with
  | object members => cases refused
  | _ => rfl

/-! ### Writes of alike values -/

/-- The guard looks at nothing of a value but whether it is null, so writes that agree still agree
behind it. -/
theorem guard_congr {value value' : Json} {row : Nat} {write write' : Column → Attempt Column}
    {column : Column} (null : value.isNull = value'.isNull) (same : write column = write' column) :
    guard policy value row write column = guard policy value' row write' column := by
  unfold guard
  rw [null, same]

variable {writer : Json → Nat → Column → Attempt Column}

/-- Elements that are written alike one by one are written alike all together. -/
theorem writeElements_congr : ∀ (items items' : List Json), items.length = items'.length →
    (∀ (position : Nat) item item', items[position]? = some item → items'[position]? = some item' →
      ∀ slot child, writer item slot child = writer item' slot child) →
    ∀ slot child, writeElements writer items slot child = writeElements writer items' slot child := by
  intro items
  induction items with
  | nil =>
    intro items' length _ slot child
    rw [List.length_eq_zero_iff.mp length.symm]
  | cons item rest ih =>
    rintro (_ | ⟨item', rest'⟩) length each slot child
    · cases length
    · have first := each 0 item item' rfl rfl slot child
      have later := ih rest' (Nat.succ.inj length) fun position => each (position + 1)
      rw [writeElements, writeElements, first]
      congr 1
      exact funext (later (slot + 1))

/-- Entries with the same keys in the same order whose values are written alike one by one are
written alike all together. -/
theorem writeEntries_congr : ∀ (members members' : Json.Members),
    members.map Prod.fst = members'.map Prod.fst →
    (∀ (position : Nat) member member', members[position]? = some member →
      members'[position]? = some member' →
      ∀ slot child, writer member.2 slot child = writer member'.2 slot child) →
    ∀ slot entries,
      writeEntries writer members slot entries = writeEntries writer members' slot entries := by
  intro members
  induction members with
  | nil =>
    intro members' keys _ slot entries
    rw [List.map_eq_nil_iff.mp keys.symm]
  | cons member rest ih =>
    rintro (_ | ⟨member', rest'⟩) keys each slot entries
    · cases keys
    · obtain ⟨key, value⟩ := member
      obtain ⟨key', value'⟩ := member'
      rw [List.map_cons, List.map_cons, List.cons_eq_cons] at keys
      obtain ⟨rfl, keys⟩ := keys
      have first : writer value slot entries.values = writer value' slot entries.values :=
        each 0 _ _ rfl rfl slot entries.values
      have later := ih rest' keys fun position => each (position + 1)
      rw [writeEntries, writeEntries, writeEntry, writeEntry, first]
      congr 1
      exact funext (later (slot + 1))

/-- Fields are written alike if what is found under each of their names is. -/
theorem writeFields_congr {members members' : Json.Members} {row : Nat} :
    ∀ (types : List (String × DataType)) (columns : List (String × Column)),
      (∀ name type, (name, type) ∈ types → ∀ column,
        write policy type ((members.get? name).getD .null) row column =
          write policy type ((members'.get? name).getD .null) row column) →
      writeFields policy types members row columns =
        writeFields policy types members' row columns := by
  intro types
  induction types with
  | nil => exact fun columns _ => rfl
  | cons field types ih =>
    rintro (_ | ⟨⟨columnName, column⟩, columns⟩) each
    · rfl
    · obtain ⟨name, type⟩ := field
      have first := each name type List.mem_cons_self column
      have later := ih columns fun name type among => each name type (List.mem_cons_of_mem _ among)
      rw [writeFields, writeFields, writeMember_eq, writeMember_eq, first, later]

/-- No column can tell alike values apart. -/
theorem write_eq_of_alike {type : DataType} {value value' : Json} (alike : Alike type value value')
    (row : Nat) (column : Column) :
    write policy type value row column = write policy type value' row column := by
  induction alike generalizing row column with
  | null type => rfl
  | leaf kind attributes extra value => rfl
  | struct each ih =>
    rw [write, write]
    apply guard_congr rfl
    cases column with
    | struct nulls fields =>
      have same := writeFields_congr _ fields fun name type declared => ih name type declared row
      rw [writeStruct, writeStruct, same]
    | _ => rfl
  | list length each ih =>
    rw [write, write]
    apply guard_congr rfl
    cases column with
    | list nulls index child =>
      rw [writeList, writeList, length]
      split
      · next offset index child started =>
        rw [writeElements_congr _ _ length ih offset child]
      · rfl
    | _ => rfl
  | map keys each ih =>
    rw [write, write]
    apply guard_congr rfl
    cases column with
    | map nulls index keyCells values =>
      -- As many entries on both sides take the same slots, so the same row is opened.
      have length := congrArg List.length keys
      rw [List.length_map, List.length_map] at length
      rw [writeMap, writeMap, length]
      split
      · next offset index entries started =>
        rw [writeEntries_congr _ _ keys ih offset entries]
      · rfl
    | _ => rfl
  -- Values of a wrong kind are refused before anything in them is read, and by their kind only.
  | @refused type value value' taken same =>
    have null := Json.isNull_congr same
    have taken' : type.category.accepts value'.kind = false := same ▸ taken
    cases type with
    | leaf kind attributes extra =>
      rw [write, write]
      apply guard_congr null
      rw [writeLeaf_of_refused taken same]
    | struct attributes types =>
      rw [write, write]
      apply guard_congr null
      cases column with
      | struct nulls fields =>
        rw [writeStruct_of_refused taken, writeStruct_of_refused taken',
          Category.mismatch_congr same]
      | _ => rfl
    | list attributes element extra =>
      rw [write, write]
      apply guard_congr null
      cases column with
      | list nulls index child =>
        rw [writeList_of_refused taken, writeList_of_refused taken', Category.mismatch_congr same]
      | _ => rfl
    | map attributes key entry extra =>
      rw [write, write]
      apply guard_congr null
      cases column with
      | map nulls index keys values =>
        rw [writeMap_of_refused taken, writeMap_of_refused taken', Category.mismatch_congr same]
      | _ => rfl

/-! ### Values with declared members only -/

mutual

/-- A value with the objects in struct positions spelled out: the declared members in their order,
absent ones as null, and no others. -/
def spelledOut : DataType → Json → Json
  | .leaf _ _ _, value => value
  | .struct _ types, value => (members? value).elim value fun members =>
    .object (spelledFields types members)
  | .list _ element _, value => (items? value).elim value fun items =>
    .array (items.map (spelledOut element))
  | .map _ _ entry _, value => (members? value).elim value fun members =>
    .object (members.map fun member => (member.1, spelledOut entry member.2))
termination_by structural type => type

/-- The declared members of an object in their order. -/
def spelledFields : List (String × DataType) → Json.Members → Json.Members
  | [], _ => []
  | (name, type) :: types, members =>
    (name, spelledOut type ((members.get? name).getD .null)) :: spelledFields types members
termination_by structural types => types

end

/-- Each declared member is spelled out on its own, with null for one that is absent. -/
theorem spelledFields_eq_map (types : List (String × DataType)) (members : Json.Members) :
    spelledFields types members = types.map fun field =>
      (field.1, spelledOut field.2 ((members.get? field.1).getD .null)) := by
  induction types with
  | nil => rfl
  | cons field types ih => rw [spelledFields, ih, List.map_cons]

/-- Every declared member of a spelled-out object is there, and is itself spelled out. -/
theorem get?_spelledFields {types : List (String × DataType)} {members : Json.Members}
    (distinct : (types.map Prod.fst).Nodup) {name : String} {type : DataType}
    (declared : (name, type) ∈ types) :
    (spelledFields types members).get? name =
      some (spelledOut type ((members.get? name).getD .null)) := by
  rw [spelledFields_eq_map]
  exact Json.Members.get?_map_of_mem distinct declared fun name type =>
    spelledOut type ((members.get? name).getD .null)

mutual

/-- A column cannot tell a value from the same value spelled out. -/
theorem alike_spelledOut : (type : DataType) → type.WellFormed → (value : Json) →
    Alike type value (spelledOut type value)
  | .leaf kind attributes extra, _, value => .leaf kind attributes extra value
  | .struct attributes types, wellFormed, value => by
    rw [DataType.WellFormed] at wellFormed
    rw [spelledOut]
    cases found : members? value with
    | none => exact .refused (by rw [DataType.category, Category.accepts_struct, found]; rfl) rfl
    | some members =>
      rw [eq_object_of_members? found]
      refine .struct fun name type declared => ?_
      rw [get?_spelledFields wellFormed.1 declared]
      exact alike_spelledFields types wellFormed.2 members name type declared
  | .list attributes element extra, wellFormed, value => by
    rw [DataType.WellFormed] at wellFormed
    rw [spelledOut]
    cases found : items? value with
    | none => exact .refused (by rw [DataType.category, Category.accepts_list, found]; rfl) rfl
    | some items =>
      rw [eq_array_of_items? found]
      refine .list (List.length_map _).symm fun position item item' here there => ?_
      rw [List.getElem?_map, here] at there
      cases there
      exact alike_spelledOut element wellFormed.2.1 item
  | .map attributes key entry extra, wellFormed, value => by
    rw [DataType.WellFormed] at wellFormed
    rw [spelledOut]
    cases found : members? value with
    | none => exact .refused (by rw [DataType.category, Category.accepts_map, found]; rfl) rfl
    | some members =>
      rw [eq_object_of_members? found]
      refine .map (by simp) fun position member member' here there => ?_
      rw [List.getElem?_map, here] at there
      cases there
      exact alike_spelledOut entry wellFormed.2.2.1 member.2
termination_by structural type => type

/-- Every declared member is alike to what it is spelled out as. The names of the fields are
distinct, so looking one up finds the member spelled out for it. -/
theorem alike_spelledFields : (types : List (String × DataType)) →
    DataType.FieldsWellFormed types → (members : Json.Members) →
      ∀ name type, (name, type) ∈ types →
        Alike type ((members.get? name).getD .null)
          (spelledOut type ((members.get? name).getD .null))
  | [], _, _ => nofun
  | (first, other) :: types, wellFormed, members => by
    rw [DataType.FieldsWellFormed] at wellFormed
    intro name type declared
    obtain same | later := List.mem_cons.mp declared
    · cases same
      exact alike_spelledOut other wellFormed.1 _
    · exact alike_spelledFields types wellFormed.2 members name type later
termination_by structural types => types

end

end Column

end Columnar
