import Columnar.Proofs.DataType.WellFormed
/-!
# Validation, node by node

`WellFormed` follows the constructors of a type. Here the same is said about the tree as its readers
see it, by the category, the field names, the children and the attributes of every node. Nothing
hangs on how a type came about: every type is built from primitives, structs, lists and maps by
adding fields and setting attributes (`built`), and fields can be added anywhere.

Validation asks of every node what `CheckedNode` says, and of the root that it is a struct. What is
said of a type elsewhere is a little more, namely that a primitive node has no children
(`DescribedNode`), and the two differ in decimals alone: `validateRoot_ok_iff_nodes`.
-/

set_option autoImplicit false

namespace Columnar.DataType

/-! ## The tree of a type -/

mutual

/-- Induction on a type over its children, own ones and fields alike. -/
theorem children_induction {motive : DataType → Prop}
    (step : ∀ type : DataType, (∀ child ∈ type.children, motive child) → motive type) :
    (type : DataType) → motive type
  | leaf kind attributes fields =>
    step (leaf kind attributes fields) (fields_induction step fields)
  | struct attributes fields =>
    step (struct attributes fields) (fields_induction step fields)
  | list attributes element fields => by
    apply step
    have inElement := children_induction step element
    exact List.forall_mem_cons.mpr ⟨inElement, fields_induction step fields⟩
  | map attributes key value fields => by
    apply step
    have inKey := children_induction step key
    have inValue := children_induction step value
    exact List.forall_mem_cons.mpr
      ⟨inKey, List.forall_mem_cons.mpr ⟨inValue, fields_induction step fields⟩⟩
termination_by structural type => type

/-- What holds of a type whenever it holds of its children holds of the type of every field. -/
theorem fields_induction {motive : DataType → Prop}
    (step : ∀ type : DataType, (∀ child ∈ type.children, motive child) → motive type) :
    (fields : List (String × DataType)) → ∀ type ∈ fields.map Prod.snd, motive type
  | [] => nofun
  | (_, type) :: rest =>
    List.forall_mem_cons.mpr ⟨children_induction step type, fields_induction step rest⟩
termination_by structural fields => fields

end

/-- The nodes of a type tree: its root, and the nodes of its children. -/
inductive HasNode : DataType → DataType → Prop
  | root (type : DataType) : HasNode type type
  | child {type child node : DataType} :
    child ∈ type.children → HasNode child node → HasNode type node

/-- The types that are made of primitives, structs, lists and maps, with fields added and attributes
set in any order. -/
inductive Built : DataType → Prop
  | ofPrimitive (kind : Primitive) : Built (ofPrimitive kind)
  | emptyStruct : Built emptyStruct
  | listOf {element : DataType} : Built element → Built (listOf element)
  | mapOf {key value : DataType} : Built key → Built value → Built (mapOf key value)
  | addField {type fieldType : DataType} (name : String) :
    Built type → Built fieldType → Built (type.addField name fieldType)
  | withPrecision {type : DataType} (precision : Nat) :
    Built type → Built (type.withPrecision precision)
  | withScale {type : DataType} (scale : Nat) : Built type → Built (type.withScale scale)
  | withMaxLength {type : DataType} (maxLength : Nat) :
    Built type → Built (type.withMaxLength maxLength)

/-- Any attributes can be set on a type that was built, one after the other. -/
theorem Built.withAttributes {type : DataType} (built : Built type) (attributes : Attributes) :
    Built (type.withAttributes attributes) := by
  have settled := ((built.withPrecision attributes.precision).withScale attributes.scale)
    |>.withMaxLength attributes.maxLength
  cases type <;> exact settled

/-- A field that is added stands behind the fields that there are. -/
theorem fields_addField (type : DataType) (name : String) (fieldType : DataType) :
    (type.addField name fieldType).fields = type.fields ++ [(name, fieldType)] := by
  cases type <;> rfl

/-- Which fields a type had does not matter when they are all replaced. -/
theorem withFields_addField (type : DataType) (name : String) (fieldType : DataType)
    (fields : List (String × DataType)) :
    (type.addField name fieldType).withFields fields = type.withFields fields := by
  cases type <;> rfl

/-- A type with its own fields is itself. -/
theorem withFields_fields (type : DataType) : type.withFields type.fields = type := by
  cases type <;> rfl

/-- Fields can be added one after the other. -/
theorem Built.withFields {type : DataType} (built : Built type)
    (more : List (String × DataType)) (each : ∀ field ∈ more, Built field.2) :
    Built (type.withFields (type.fields ++ more)) := by
  induction more generalizing type with
  | nil =>
    rw [List.append_nil, withFields_fields]
    exact built
  | cons field more ih =>
    obtain ⟨first, rest⟩ := List.forall_mem_cons.mp each
    have all := ih (built.addField field.1 first) rest
    rw [fields_addField, withFields_addField, List.append_assoc] at all
    exact all

/-- There are no other types. -/
theorem built (type : DataType) : Built type := by
  induction type using children_induction with
  | step type ih =>
    have each : ∀ field ∈ type.fields, Built field.2 := by
      intro field among
      apply ih
      exact List.mem_append_right _ (List.mem_map_of_mem among)
    cases type with
    | leaf kind attributes fields =>
      exact ((Built.ofPrimitive kind).withAttributes attributes).withFields fields each
    | struct attributes fields =>
      exact (Built.emptyStruct.withAttributes attributes).withFields fields each
    | list attributes element fields =>
      have own : Built element := ih element (by simp [children, ownChildren])
      exact (own.listOf.withAttributes attributes).withFields fields each
    | map attributes key value fields =>
      have ownKey : Built key := ih key (by simp [children, ownChildren])
      have ownValue : Built value := ih value (by simp [children, ownChildren])
      exact ((ownKey.mapOf ownValue).withAttributes attributes).withFields fields each

/-! ## Well-formed trees -/

/-- Fields are well-formed when the type of each of them is. -/
theorem fieldsWellFormed_iff (fields : List (String × DataType)) :
    FieldsWellFormed fields ↔ ∀ type ∈ fields.map Prod.snd, WellFormed type := by
  induction fields with
  | nil => simp [FieldsWellFormed]
  | cons field rest ih =>
    rw [FieldsWellFormed, ih]
    simp

/-- A type is well-formed if its root is and all its children are. -/
theorem wellFormed_iff (type : DataType) :
    type.WellFormed ↔ type.NodeWellFormed ∧ ∀ child ∈ type.children, child.WellFormed := by
  cases type <;>
    simp only [WellFormed, fieldsWellFormed_iff, children, ownChildren, DataType.fields,
      List.nil_append, List.mem_append, List.mem_cons, List.not_mem_nil, or_imp, forall_and,
      forall_eq, or_false, and_assoc]

/-- A type is well-formed when each of its nodes is on its own. -/
theorem wellFormed_iff_nodes (type : DataType) :
    type.WellFormed ↔ ∀ node, HasNode type node → node.NodeWellFormed := by
  constructor
  · intro wellFormed node within
    induction within with
    | root type => exact ((wellFormed_iff type).mp wellFormed).1
    | child among _ ih => exact ih (((wellFormed_iff _).mp wellFormed).2 _ among)
  · intro each
    induction type using children_induction with
    | step type ih =>
      rw [wellFormed_iff]
      refine ⟨each type (.root type), ?_⟩
      intro child among
      apply ih child among
      intro node within
      exact each node (.child among within)

/-! ## What validation asks of a node, and what it does not -/

/-- A node as validation wants it. -/
structure CheckedNode (node : DataType) : Prop where
  /-- A struct has different names for its children, one for each. -/
  struct : node.category = .struct →
    node.fieldNames.length = node.children.length ∧ node.fieldNames.Nodup
  /-- A list has one child, its elements. -/
  list : node.category = .list → node.children.length = 1
  /-- A map has two children, its keys and its values. -/
  map : node.category = .map → node.children.length = 2
  /-- A decimal has from 1 to 38 digits, and no more than these behind its point. -/
  decimal : node.category = .primitive .decimal →
    1 ≤ node.attributes.precision ∧ node.attributes.precision ≤ maxPrecision ∧
      node.attributes.scale ≤ node.attributes.precision
  /-- Primitives other than decimals have no children. -/
  primitive : ∀ kind, kind ≠ .decimal → node.category = .primitive kind → node.children = []

/-- A node as its description has it: no primitive has children, whether it is a decimal or not. -/
structure DescribedNode (node : DataType) : Prop extends CheckedNode node where
  childless : ∀ kind, node.category = .primitive kind → node.children = []

/-- A primitive that is no decimal is in order without fields. -/
theorem nodeWellFormed_leaf {kind : Primitive} (other : kind ≠ .decimal) (attributes : Attributes)
    (fields : List (String × DataType)) :
    (leaf kind attributes fields).NodeWellFormed ↔ fields = [] := by
  cases kind with
  | decimal => contradiction
  | _ => rfl

/-- Of a decimal validation asks about precision and scale, and nothing about its children. -/
theorem checkedNode_decimal (attributes : Attributes) (fields : List (String × DataType)) :
    CheckedNode (leaf .decimal attributes fields) ↔
      1 ≤ attributes.precision ∧ attributes.precision ≤ maxPrecision ∧
        attributes.scale ≤ attributes.precision := by
  constructor
  · intro checked
    exact checked.decimal rfl
  · intro bounds
    refine ⟨nofun, nofun, nofun, fun _ => bounds, ?_⟩
    intro kind other same
    cases same
    contradiction

/-- Of any other primitive validation asks that it has no fields. -/
theorem checkedNode_leaf {kind : Primitive} (other : kind ≠ .decimal) (attributes : Attributes)
    (fields : List (String × DataType)) :
    CheckedNode (leaf kind attributes fields) ↔ fields = [] := by
  constructor
  · intro checked
    exact List.map_eq_nil_iff.mp (checked.primitive kind other rfl)
  · rintro rfl
    refine ⟨nofun, nofun, nofun, ?_, fun _ _ _ => rfl⟩
    intro same
    cases same
    contradiction

/-- Of a struct validation asks that its fields have different names; that there are as many names
as children holds of every struct. -/
theorem checkedNode_struct (attributes : Attributes) (fields : List (String × DataType)) :
    CheckedNode (struct attributes fields) ↔ (fields.map Prod.fst).Nodup := by
  constructor
  · intro checked
    exact (checked.struct rfl).2
  · intro distinct
    have asMany : (fields.map Prod.fst).length = (fields.map Prod.snd).length := by
      rw [List.length_map, List.length_map]
    exact ⟨fun _ => ⟨asMany, distinct⟩, nofun, nofun, nofun, nofun⟩

/-- Of a list validation asks that it has no fields besides its elements. -/
theorem checkedNode_list (attributes : Attributes) (element : DataType)
    (fields : List (String × DataType)) :
    CheckedNode (list attributes element fields) ↔ fields = [] := by
  constructor
  · intro checked
    have one : (element :: fields.map Prod.snd).length = 1 := checked.list rfl
    simpa using one
  · rintro rfl
    exact ⟨nofun, fun _ => rfl, nofun, nofun, nofun⟩

/-- Of a map validation asks that it has no fields besides its keys and values. -/
theorem checkedNode_map (attributes : Attributes) (key value : DataType)
    (fields : List (String × DataType)) :
    CheckedNode (map attributes key value fields) ↔ fields = [] := by
  constructor
  · intro checked
    have two : (key :: value :: fields.map Prod.snd).length = 2 := checked.map rfl
    simpa using two
  · rintro rfl
    exact ⟨nofun, nofun, fun _ => rfl, nofun, nofun⟩

/-- A node is well-formed when it passes what validation asks of it. -/
theorem nodeWellFormed_iff (node : DataType) : node.NodeWellFormed ↔ CheckedNode node := by
  cases node with
  | leaf kind attributes fields =>
    by_cases isDecimal : kind = .decimal
    · subst isDecimal
      rw [checkedNode_decimal]
      rfl
    · rw [nodeWellFormed_leaf isDecimal, checkedNode_leaf isDecimal]
  | struct attributes fields => exact (checkedNode_struct attributes fields).symm
  | list attributes element fields => exact (checkedNode_list attributes element fields).symm
  | map attributes key value fields => exact (checkedNode_map attributes key value fields).symm

/-- What is said of a node elsewhere is what validation asks of it, and that a decimal has no
children. -/
theorem describedNode_iff (node : DataType) :
    DescribedNode node ↔
      CheckedNode node ∧ (node.category = .primitive .decimal → node.children = []) := by
  constructor
  · intro described
    exact ⟨described.toCheckedNode, described.childless .decimal⟩
  · rintro ⟨checked, childless⟩
    refine ⟨checked, ?_⟩
    intro kind category
    by_cases isDecimal : kind = .decimal
    · rw [isDecimal] at category
      exact childless category
    · exact checked.primitive kind isDecimal category

/-- A type passes as a root when it is a struct and well-formed all the way down. -/
theorem validateRoot_ok_iff (type : DataType) :
    type.validateRoot = .ok () ↔ type.category = .struct ∧ type.WellFormed := by
  rw [validateRoot_eq_ok_iff]
  cases type <;> simp [category]

/-- A type passes validation if and only if it is a struct and every node of it is as validation
wants it. The types every node of which is as described are those that pass and have no children
below a decimal. -/
theorem validateRoot_ok_iff_nodes (type : DataType) :
    (type.validateRoot = .ok () ↔
      type.category = .struct ∧ ∀ node, HasNode type node → CheckedNode node) ∧
    ((type.category = .struct ∧ ∀ node, HasNode type node → DescribedNode node) ↔
      type.validateRoot = .ok () ∧
        ∀ node, HasNode type node → node.category = .primitive .decimal → node.children = []) := by
  have passes : type.validateRoot = .ok () ↔
      type.category = .struct ∧ ∀ node, HasNode type node → CheckedNode node := by
    rw [validateRoot_ok_iff, wellFormed_iff_nodes]
    simp only [nodeWellFormed_iff]
  refine ⟨passes, ?_⟩
  rw [passes, and_assoc]
  simp only [describedNode_iff, imp_and, forall_and]

/-- A struct with a decimal field that has a field of its own. -/
def fieldOfDecimal : DataType :=
  emptyStruct.addField "a"
    ((ofPrimitive .decimal).addField "b" (ofPrimitive (.integer .regular)))

/-- It passes, though its decimal has a child. -/
theorem fieldOfDecimal_passes :
    ¬ (fieldOfDecimal.validateRoot = .ok () ↔
      fieldOfDecimal.category = .struct ∧
        ∀ node, HasNode fieldOfDecimal node → DescribedNode node) := by
  intro exactly
  have passes : fieldOfDecimal.validateRoot = .ok () := rfl
  have node : HasNode fieldOfDecimal
      ((ofPrimitive .decimal).addField "b" (ofPrimitive (.integer .regular))) :=
    .child (List.mem_singleton.mpr rfl) (.root _)
  have childless := ((exactly.mp passes).2 _ node).childless .decimal rfl
  cases childless

end Columnar.DataType
