import Columnar.DataType.Category
/-!
# Kinds of columns

Several categories share one way of storing their cells. A kind names such a way.
-/

set_option autoImplicit false

namespace Columnar

/-- The ways of storing cells. -/
inductive ColumnKind where
  | long
  | double
  | bytes
  | decimal
  | timestamp
  | struct
  | list
  | map
deriving DecidableEq

/-- The name of a kind. -/
def ColumnKind.name : ColumnKind → String
  | .long => "long"
  | .double => "double"
  | .bytes => "bytes"
  | .decimal => "decimal"
  | .timestamp => "timestamp"
  | .struct => "struct"
  | .list => "list"
  | .map => "map"

/-- How the cells of a primitive category are stored. -/
def Primitive.columnKind : Primitive → ColumnKind
  | .boolean => .long
  | .integer _ => .long
  | .real _ => .double
  | .text _ => .bytes
  | .binary => .bytes
  | .decimal => .decimal
  | .timestamp => .timestamp

/-- How the cells of a category are stored. -/
def Category.columnKind : Category → ColumnKind
  | .primitive kind => kind.columnKind
  | .struct => .struct
  | .list => .list
  | .map => .map

end Columnar
