import Columnar.Column.ChildIndex
import Columnar.Number.Binary64
import Columnar.Time.DateTime
/-!
# Columns

A column holds the cells of one type for a number of rows. Leaf columns store values, a struct column
has one column for each field, and list and map columns have one child column for all their rows. A
column is allocated once; it grows, and it is reset without giving up its slots.
-/

set_option autoImplicit false

namespace Columnar

open Columnar.Number (Binary64)
open Columnar.Time (Instant)

/-- The cells of one type. -/
inductive Column where
  | long (kind : Primitive) (cells : Cells Int64)
  | double (cells : Cells Binary64)
  | bytes (cells : ByteCells)
  | decimal (precision scale : Nat) (cells : Cells Int)
  | timestamp (cells : Cells Instant)
  | struct (nulls : NullMask) (fields : List (String × Column))
  | list (nulls : NullMask) (index : ChildIndex) (child : Column)
  | map (nulls : NullMask) (index : ChildIndex) (keys : ByteCells) (values : Column)

namespace Column

/-- How a column stores its cells. -/
def kind : Column → ColumnKind
  | long _ _ => .long
  | double _ => .double
  | bytes _ => .bytes
  | decimal _ _ _ => .decimal
  | timestamp _ => .timestamp
  | struct _ _ => .struct
  | list _ _ _ => .list
  | map _ _ _ _ => .map

/-- The leaf column of a primitive category. -/
def ofPrimitive (kind : Primitive) (attributes : Attributes) (size : Nat) : Column :=
  match kind with
  | .boolean | .integer _ => long kind (.ofSize size)
  | .real _ => double (.ofSize size)
  | .text _ => bytes (.ofSize false size)
  | .binary => bytes (.ofSize true size)
  | .decimal => decimal attributes.precision attributes.scale (.ofSize size)
  | .timestamp => timestamp (.ofSize size)

mutual

/-- The column of a type with so many slots, child columns included. -/
def allocate (size : Nat) : DataType → Column
  | .leaf kind attributes _ => ofPrimitive kind attributes size
  | .struct _ fields => struct (.ofSize size) (allocateFields size fields)
  | .list _ element _ => list (.ofSize size) (.ofSize size) (allocate size element)
  | .map _ _ value _ =>
    map (.ofSize size) (.ofSize size) (.ofSize false size) (allocate size value)
termination_by structural type => type

/-- The columns of fields with so many slots. -/
def allocateFields (size : Nat) : List (String × DataType) → List (String × Column)
  | [] => []
  | (name, type) :: rest => (name, allocate size type) :: allocateFields size rest
termination_by structural fields => fields

end

/-- How many slots a column has. -/
def slots : Column → Nat
  | long _ cells => cells.values.size
  | double cells => cells.values.size
  | bytes cells => cells.spans.size
  | decimal _ _ cells => cells.values.size
  | timestamp cells => cells.values.size
  | struct nulls _ => nulls.size
  | list _ index _ => index.spans.size
  | map _ index _ _ => index.spans.size

/-- The null flags of a column. -/
def nulls : Column → NullMask
  | long _ cells => cells.nulls
  | double cells => cells.nulls
  | bytes cells => cells.nulls
  | decimal _ _ cells => cells.nulls
  | timestamp cells => cells.nulls
  | struct nulls _ => nulls
  | list nulls _ _ => nulls
  | map nulls _ _ _ => nulls

/-- Whether a row is null. -/
def isNull (column : Column) (row : Nat) : Bool :=
  column.nulls.isNull row

/-- Flags a row as null and leaves its cell as it is. -/
def setNull (row : Nat) : Column → Column
  | long kind cells => long kind { cells with nulls := cells.nulls.setNull row }
  | double cells => double { cells with nulls := cells.nulls.setNull row }
  | bytes cells => bytes { cells with nulls := cells.nulls.setNull row }
  | decimal precision scale cells =>
    decimal precision scale { cells with nulls := cells.nulls.setNull row }
  | timestamp cells => timestamp { cells with nulls := cells.nulls.setNull row }
  | struct nulls fields => struct (nulls.setNull row) fields
  | list nulls index child => list (nulls.setNull row) index child
  | map nulls index keys values => map (nulls.setNull row) index keys values

mutual

/-- A column with at least so many slots. The children of lists and maps do not grow along. -/
def grow (size : Nat) : Column → Column
  | long kind cells => long kind (cells.grow size)
  | double cells => double (cells.grow size)
  | bytes cells => bytes (cells.grow size)
  | decimal precision scale cells => decimal precision scale (cells.grow size)
  | timestamp cells => timestamp (cells.grow size)
  | struct nulls fields => struct (nulls.grow size) (growFields size fields)
  | list nulls index child => list (nulls.grow size) (index.grow size) child
  | map nulls index keys values => map (nulls.grow size) (index.grow size) keys values
termination_by structural column => column

/-- Columns with at least so many slots. -/
def growFields (size : Nat) : List (String × Column) → List (String × Column)
  | [] => []
  | (name, column) :: rest => (name, grow size column) :: growFields size rest
termination_by structural fields => fields

end

mutual

/-- A column without nulls and without children taken; slots and values stay. -/
def reset : Column → Column
  | long kind cells => long kind cells.reset
  | double cells => double cells.reset
  | bytes cells => bytes cells.reset
  | decimal precision scale cells => decimal precision scale cells.reset
  | timestamp cells => timestamp cells.reset
  | struct nulls fields => struct nulls.reset (resetFields fields)
  | list nulls index child => list nulls.reset index.reset (reset child)
  | map nulls index keys values => map nulls.reset index.reset keys.reset (reset values)
termination_by structural column => column

/-- Columns without nulls and without children taken. -/
def resetFields : List (String × Column) → List (String × Column)
  | [] => []
  | (name, column) :: rest => (name, reset column) :: resetFields rest
termination_by structural fields => fields

end

mutual

/-- A column whose lists and maps, at every depth, may or may not grow their children. -/
def setGrowable (growable : Bool) : Column → Column
  | struct nulls fields => struct nulls (setGrowableFields growable fields)
  | list nulls index child => list nulls { index with growable } (setGrowable growable child)
  | map nulls index keys values =>
    map nulls { index with growable } keys (setGrowable growable values)
  | leaf => leaf
termination_by structural column => column

/-- Columns whose lists and maps may or may not grow their children. -/
def setGrowableFields (growable : Bool) : List (String × Column) → List (String × Column)
  | [] => []
  | (name, column) :: rest => (name, setGrowable growable column) :: setGrowableFields growable rest
termination_by structural fields => fields

end

end Column

end Columnar
