import Columnar.Column.Basic
import Columnar.Number.Decimal
import Columnar.Text.Hex
/-!
# Reading cells back

A cell reads as a JSON value. Null cells, numbers that are not finite and timestamps that name no
date-time read as null. A binary cell reads as hexadecimal text, a decimal with all its places.
-/

set_option autoImplicit false

namespace Columnar

open Columnar.Number (Binary64)
open Columnar.Time (Instant DateTime)

/-- The value of an integer cell; columns of booleans hold zero for false. -/
def Primitive.readLong (kind : Primitive) (n : Int64) : Json :=
  if kind = .boolean then .bool (n != 0) else .int n.toInt

/-- The value of a floating-point cell. -/
def readDouble (x : Binary64) : Json :=
  if x.isFinite then .real x else .null

/-- The value of a text or binary cell. -/
def readBytes (binary : Bool) (bytes : ByteArray) : Json :=
  .text (if binary then Text.Hex.encode bytes else Text.Utf8.decode bytes)

/-- The value of a decimal cell. -/
def readDecimal (scale : Nat) (unscaled : Int) : Json :=
  .text (Number.Decimal.format unscaled scale)

/-- The value of a timestamp cell. -/
def readTimestamp (cell : Instant) : Json :=
  match cell.toDateTime? with
  | some time => .text time.format
  | none => .null

/-- The key in a slot of a key column; a null key is empty. -/
def ByteCells.key (keys : ByteCells) (slot : Nat) : String :=
  match keys.get? slot with
  | some bytes => Text.Utf8.decode bytes
  | none => ""

/-- The positions of a span, in order. -/
def Span.positions (span : Span) : List Nat :=
  List.range' span.start span.length

/-- A value that may be missing, null if it is. -/
def Json.ofOption {α : Type} (read : α → Json) : Option α → Json
  | some a => read a
  | none => .null

namespace Column

mutual

/-- The value in a row of a column. -/
def valueAt : Column → Nat → Json
  | long kind cells, row => .ofOption kind.readLong (cells.get? row)
  | double cells, row => .ofOption readDouble (cells.get? row)
  | bytes cells, row => .ofOption (readBytes cells.binary) (cells.get? row)
  | decimal _ scale cells, row => .ofOption (readDecimal scale) (cells.get? row)
  | timestamp cells, row => .ofOption readTimestamp (cells.get? row)
  | struct nulls fields, row =>
    if nulls.isNull row then .null else .objectOf (fieldValues fields row)
  | list nulls index child, row =>
    if nulls.isNull row then .null
    else .array ((index.span row).positions.map (valueAt child))
  | map nulls index keys values, row =>
    if nulls.isNull row then .null
    else
      let entry := fun slot => (keys.key slot, valueAt values slot)
      .objectOf ((index.span row).positions.map entry)
termination_by structural column => column

/-- The values in a row of the columns of fields, with their names. -/
def fieldValues : List (String × Column) → Nat → List (String × Json)
  | [], _ => []
  | (name, column) :: rest, row => (name, valueAt column row) :: fieldValues rest row
termination_by structural fields => fields

end

end Column

end Columnar
