/-!
# Categories of column types

A column holds cells of one category: one of thirteen primitive ones, or structs, arrays and maps of
other columns. Each category has a name in type expressions, and names are read in either case.
-/

set_option autoImplicit false

namespace Columnar

/-- Widths of integer columns. -/
inductive IntWidth where
  | tiny
  | small
  | regular
  | big
deriving DecidableEq

/-- Widths of floating-point columns. -/
inductive RealWidth where
  | single
  | double
deriving DecidableEq

/-- Kinds of text columns. -/
inductive TextKind where
  | string
  | char
  | varchar
deriving DecidableEq

/-- Categories without child columns. -/
inductive Primitive where
  | boolean
  | integer (width : IntWidth)
  | real (width : RealWidth)
  | text (kind : TextKind)
  | decimal
  | timestamp
  | binary
deriving DecidableEq

/-- Categories of columns. -/
inductive Category where
  | primitive (kind : Primitive)
  | struct
  | list
  | map
deriving DecidableEq

/-- The name of a primitive category in type expressions. -/
def Primitive.name : Primitive → String
  | .boolean => "boolean"
  | .integer .tiny => "tinyint"
  | .integer .small => "smallint"
  | .integer .regular => "int"
  | .integer .big => "bigint"
  | .real .single => "float"
  | .real .double => "double"
  | .text .string => "string"
  | .text .char => "char"
  | .text .varchar => "varchar"
  | .decimal => "decimal"
  | .timestamp => "timestamp"
  | .binary => "binary"

namespace Category

/-- The name of a category in type expressions. -/
def name : Category → String
  | .primitive kind => kind.name
  | .struct => "struct"
  | .list => "array"
  | .map => "map"

/-- All categories. -/
def all : List Category :=
  [.primitive .boolean, .primitive (.integer .tiny), .primitive (.integer .small),
    .primitive (.integer .regular), .primitive (.integer .big), .primitive (.real .single),
    .primitive (.real .double), .primitive (.text .string), .primitive (.text .char),
    .primitive (.text .varchar), .primitive .decimal, .primitive .timestamp, .primitive .binary,
    .struct, .list, .map]

/-- A text with its ASCII letters in lower case. -/
def lowerCase (text : String) : String :=
  String.ofList (text.toList.map Char.toLower)

/-- The category of a name, whatever the case of its ASCII letters. -/
def ofName? (text : String) : Option Category :=
  all.find? fun category => category.name == lowerCase text

/-- Whether columns of a category have no child columns. -/
def isPrimitive : Category → Bool
  | .primitive _ => true
  | _ => false

end Category

end Columnar
