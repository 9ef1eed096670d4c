import Columnar.DataType.Category
/-!
# Column types

A column type is a tree: primitive leaves, structs of named fields, lists of an element type, and maps
of a key and a value type. Every node carries the attributes of decimal and text types, whether its
category uses them or not, and named fields can be added to any node; a node where they do not belong
is refused by validation. Map keys are always stored as text, whatever type is declared for them.
-/

set_option autoImplicit false

namespace Columnar

/-- The numbers that qualify a type: precision and scale of decimals, greatest length of texts. -/
structure Attributes where
  precision : Nat
  scale : Nat
  maxLength : Nat
deriving DecidableEq

/-- The attributes of a type for which nothing is said. -/
def Attributes.default : Attributes := ⟨38, 10, 255⟩

/-- The type of a column. -/
inductive DataType where
  | leaf (kind : Primitive) (attributes : Attributes) (fields : List (String × DataType))
  | struct (attributes : Attributes) (fields : List (String × DataType))
  | list (attributes : Attributes) (element : DataType) (fields : List (String × DataType))
  | map (attributes : Attributes) (key value : DataType) (fields : List (String × DataType))

namespace DataType

/-- The category of a type. -/
def category : DataType → Category
  | leaf kind _ _ => .primitive kind
  | struct _ _ => .struct
  | list _ _ _ => .list
  | map _ _ _ _ => .map

/-- The attributes of a type. -/
def attributes : DataType → Attributes
  | leaf _ attributes _ => attributes
  | struct attributes _ => attributes
  | list attributes _ _ => attributes
  | map attributes _ _ _ => attributes

/-- The fields added to a type, in order. -/
def fields : DataType → List (String × DataType)
  | leaf _ _ fields => fields
  | struct _ fields => fields
  | list _ _ fields => fields
  | map _ _ _ fields => fields

/-- The child types that a type has apart from added fields. -/
def ownChildren : DataType → List DataType
  | leaf _ _ _ => []
  | struct _ _ => []
  | list _ element _ => [element]
  | map _ key value _ => [key, value]

/-- The child types of a type in order: its own, then those of its fields. -/
def children (type : DataType) : List DataType :=
  type.ownChildren ++ type.fields.map Prod.snd

/-- The names of the fields of a type, in order. -/
def fieldNames (type : DataType) : List String :=
  type.fields.map Prod.fst

/-- The child type at the position that a name has among the field names. -/
def field? (type : DataType) (name : String) : Option DataType := do
  let position ← type.fieldNames.findIdx? (· == name)
  type.children[position]?

/-- A primitive type. -/
def ofPrimitive (kind : Primitive) : DataType :=
  leaf kind .default []

/-- A struct without fields. -/
def emptyStruct : DataType :=
  struct .default []

/-- A list of elements of a type. -/
def listOf (element : DataType) : DataType :=
  list .default element []

/-- A map with values of a type. -/
def mapOf (key value : DataType) : DataType :=
  map .default key value []

/-- A type with other attributes. -/
def withAttributes (attributes : Attributes) : DataType → DataType
  | leaf kind _ fields => leaf kind attributes fields
  | struct _ fields => struct attributes fields
  | list _ element fields => list attributes element fields
  | map _ key value fields => map attributes key value fields

/-- A type with another precision. -/
def withPrecision (type : DataType) (precision : Nat) : DataType :=
  type.withAttributes { type.attributes with precision }

/-- A type with another scale. -/
def withScale (type : DataType) (scale : Nat) : DataType :=
  type.withAttributes { type.attributes with scale }

/-- A type with another greatest length. -/
def withMaxLength (type : DataType) (maxLength : Nat) : DataType :=
  type.withAttributes { type.attributes with maxLength }

/-- A type with other fields. -/
def withFields (fields : List (String × DataType)) : DataType → DataType
  | leaf kind attributes _ => leaf kind attributes fields
  | struct attributes _ => struct attributes fields
  | list attributes element _ => list attributes element fields
  | map attributes key value _ => map attributes key value fields

/-- A type with one more field, behind the others. -/
def addField (type : DataType) (name : String) (fieldType : DataType) : DataType :=
  type.withFields (type.fields ++ [(name, fieldType)])

mutual

/-- Two types are equal or not. -/
def decideEq : (a b : DataType) → Decidable (a = b)
  | leaf k a f, leaf k' a' f' =>
    match instDecidableEqPrimitive k k', instDecidableEqAttributes a a', decideFields f f' with
    | isTrue hk, isTrue ha, isTrue hf => isTrue (by rw [hk, ha, hf])
    | isFalse h, _, _ => isFalse fun e => h (by injection e)
    | _, isFalse h, _ => isFalse fun e => h (by injection e)
    | _, _, isFalse h => isFalse fun e => h (by injection e)
  | struct a f, struct a' f' =>
    match instDecidableEqAttributes a a', decideFields f f' with
    | isTrue ha, isTrue hf => isTrue (by rw [ha, hf])
    | isFalse h, _ => isFalse fun e => h (by injection e)
    | _, isFalse h => isFalse fun e => h (by injection e)
  | list a t f, list a' t' f' =>
    match instDecidableEqAttributes a a', decideEq t t', decideFields f f' with
    | isTrue ha, isTrue ht, isTrue hf => isTrue (by rw [ha, ht, hf])
    | isFalse h, _, _ => isFalse fun e => h (by injection e)
    | _, isFalse h, _ => isFalse fun e => h (by injection e)
    | _, _, isFalse h => isFalse fun e => h (by injection e)
  | map a k v f, map a' k' v' f' =>
    match instDecidableEqAttributes a a', decideEq k k', decideEq v v', decideFields f f' with
    | isTrue ha, isTrue hk, isTrue hv, isTrue hf => isTrue (by rw [ha, hk, hv, hf])
    | isFalse h, _, _, _ => isFalse fun e => h (by injection e)
    | _, isFalse h, _, _ => isFalse fun e => h (by injection e)
    | _, _, isFalse h, _ => isFalse fun e => h (by injection e)
    | _, _, _, isFalse h => isFalse fun e => h (by injection e)
  | leaf .., struct .. | leaf .., list .. | leaf .., map ..
  | struct .., leaf .. | struct .., list .. | struct .., map ..
  | list .., leaf .. | list .., struct .. | list .., map ..
  | map .., leaf .. | map .., struct .. | map .., list .. => isFalse (by intro e; cases e)
termination_by structural a => a

/-- Two lists of fields are equal or not. -/
def decideFields : (f g : List (String × DataType)) → Decidable (f = g)
  | [], [] => isTrue rfl
  | [], _ :: _ => isFalse (by intro e; cases e)
  | _ :: _, [] => isFalse (by intro e; cases e)
  | (n, t) :: f, (n', t') :: f' =>
    match instDecidableEqString n n', decideEq t t', decideFields f f' with
    | isTrue hn, isTrue ht, isTrue hf => isTrue (by rw [hn, ht, hf])
    | isFalse h, _, _ => isFalse (by intro e; cases e; exact h rfl)
    | _, isFalse h, _ => isFalse (by intro e; cases e; exact h rfl)
    | _, _, isFalse h => isFalse (by intro e; cases e; exact h rfl)
termination_by structural f => f

end

instance : DecidableEq DataType := decideEq

instance : Inhabited DataType := ⟨emptyStruct⟩

end DataType

end Columnar
