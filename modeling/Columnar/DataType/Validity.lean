import Columnar.Failure
/-!
# Which types can be the type of records

The root has to be a struct. Below it, the fields of a struct have different names, lists and maps
have exactly their own children, other nodes have none, and decimals have a precision from 1 to 38
and no greater scale. A decimal is checked for its bounds alone, so fields added to one are checked
as types but not refused. The first node at fault is reported, a node before its children.
-/

set_option autoImplicit false

namespace Columnar

/-- The greatest precision of a decimal column. -/
def maxPrecision : Nat := 38

namespace DataType

/-- The first name that stands in a list a second time. -/
def firstDuplicate (seen : List String) : List String → Option String
  | [] => none
  | name :: rest =>
    if name ∈ seen then some name else firstDuplicate (name :: seen) rest

/-- What is wrong with a node, its children apart. -/
def defect? (type : DataType) : Option TypeDefect :=
  match type with
  | struct _ fields => (firstDuplicate [] (fields.map Prod.fst)).map .duplicateField
  | leaf .decimal attributes _ =>
    if 1 ≤ attributes.precision ∧ attributes.precision ≤ maxPrecision ∧
        attributes.scale ≤ attributes.precision then none
    else some .decimalBounds
  | _ =>
    let expected := type.ownChildren.length
    let actual := type.children.length
    if actual = expected then none else some (.childCount expected actual)

/-- Passes a node without a defect. -/
def checkNode (type : DataType) : Except Failure Unit :=
  match type.defect? with
  | none => .ok ()
  | some defect => .error (.invalidType type defect)

mutual

/-- Passes a type none of whose nodes has a defect. -/
def validate : DataType → Except Failure Unit
  | leaf kind attributes fields => do
    checkNode (leaf kind attributes fields)
    validateFields fields
  | struct attributes fields => do
    checkNode (struct attributes fields)
    validateFields fields
  | list attributes element fields => do
    checkNode (list attributes element fields)
    validate element
    validateFields fields
  | map attributes key value fields => do
    checkNode (map attributes key value fields)
    validate key
    validate value
    validateFields fields
termination_by structural type => type

/-- Passes fields none of whose types has a defect. -/
def validateFields : List (String × DataType) → Except Failure Unit
  | [] => .ok ()
  | (_, type) :: rest => do
    validate type
    validateFields rest
termination_by structural fields => fields

end

/-- Passes a type that records can have. -/
def validateRoot (type : DataType) : Except Failure Unit :=
  match type with
  | struct _ _ => type.validate
  | _ => .error (.rootNotStruct type)

/-- The type of a category, if the name of the category says it all. -/
def ofCategory (category : Category) : Except Failure DataType :=
  match category with
  | .primitive kind => .ok (ofPrimitive kind)
  | composite => .error (.bareComposite composite)

end DataType

/-- The category of a name. -/
def Category.ofName (name : String) : Except Failure Category :=
  match Category.ofName? name with
  | some category => .ok category
  | none => .error (.unknownCategory name)

end Columnar
