import Columnar.Attempt
import Columnar.Cell.Scalar
import Columnar.Column.Basic
import Columnar.Number.Decimal
import Columnar.Text.Hex
/-!
# Writing values into cells

A value is written as the type of its column says. Null flags the cell and writes nothing else, at
every depth. A struct takes the value under the name of each of its fields, and an absent one is null.
A list or map takes child slots for its row and writes its elements or entries there in order. What
was written before a failure stays.
-/

set_option autoImplicit false

namespace Columnar

/-- What becomes of a value that its cell cannot store. -/
inductive CellPolicy where
  /-- The write fails. -/
  | abort
  /-- The cell is null. -/
  | nullCell
deriving DecidableEq

namespace Column

/-- Writes a value that is not null into a leaf column. Decimals beyond the precision are null. -/
def writeLeaf (kind : Primitive) (value : Json) (row : Nat) (column : Column) :
    Except Failure Column :=
  match kind, column with
  | .boolean, long stored cells => do
    let b ← value.toBool
    return long stored (cells.set row (if b then 1 else 0))
  | .integer width, long stored cells => do
    let n ← value.toInteger (.primitive (.integer width))
    return long stored (cells.set row n)
  | .real width, double cells => do
    let x ← value.toReal (.primitive (.real width))
    return double (cells.set row x)
  | .text kind, bytes cells => do
    let text ← value.toText (.primitive (.text kind))
    return bytes (cells.set row text.toUTF8)
  | .binary, bytes cells => do
    let text ← value.toText (.primitive .binary)
    match Text.Hex.decode? text with
    | some decoded => return bytes (cells.set row decoded)
    | none => .error (.invalidBinary text)
  | .decimal, decimal precision scale cells => do
    let text ← value.toText (.primitive .decimal)
    match Number.Decimal.parse text precision scale with
    | .ok unscaled => return decimal precision scale (cells.set row unscaled)
    | .error .precisionExceeded => return setNull row (decimal precision scale cells)
    | .error .malformed => .error (.invalidDecimal text)
  | .timestamp, timestamp cells => do
    let text ← value.toText (.primitive .timestamp)
    match Time.DateTime.parse? text with
    | some time => return timestamp (cells.set row time.toInstant)
    | none => .error (.invalidTimestamp text)
  | kind, _ => .error (.columnMismatch kind.columnKind)

/-- Writes null, or else a value in the given way. A value that its cell cannot store makes the cell
null if the policy says so. -/
def guard (policy : CellPolicy) (value : Json) (row : Nat)
    (write : Column → Attempt Column) (column : Column) : Attempt Column :=
  if value.isNull then .ok (setNull row column)
  else
    let attempt := write column
    match attempt.failure with
    | some failure =>
      if policy = .nullCell ∧ failure.isCellFailure then .ok (setNull row attempt.state)
      else attempt
    | none => attempt

/-- Writes elements in order into a column, from a slot on. -/
def writeElements (write : Json → Nat → Column → Attempt Column) :
    List Json → Nat → Column → Attempt Column
  | [], _, child => .ok child
  | element :: rest, slot, child =>
    (write element slot child).andThen (writeElements write rest (slot + 1))

/-- The keys and values of a map column while entries are written. -/
structure Entries where
  keys : ByteCells
  values : Column

/-- Writes one entry into a slot, the key first. -/
def writeEntry (write : Json → Nat → Column → Attempt Column) (key : String) (value : Json)
    (slot : Nat) (entries : Entries) : Attempt Entries :=
  let keys := entries.keys.set slot key.toUTF8
  ((write value slot entries.values).within key).map fun values => ⟨keys, values⟩

/-- Writes entries in order, from a slot on. -/
def writeEntries (write : Json → Nat → Column → Attempt Column) :
    List (String × Json) → Nat → Entries → Attempt Entries
  | [], _, entries => .ok entries
  | (key, value) :: rest, slot, entries =>
    (writeEntry write key value slot entries).andThen (writeEntries write rest (slot + 1))

/-- A column grown to a size, if one is given. -/
def growIf (growth : Option Nat) (column : Column) : Column :=
  match growth with
  | some size => grow size column
  | none => column

/-- A list column with child slots for a row: the first slot and the column. -/
def startList (row count : Nat) (index : ChildIndex) (child : Column) :
    Except Failure (Nat × ChildIndex × Column) := do
  let taking ← index.take row count (slots child)
  return (taking.offset, taking.index, growIf taking.growth child)

/-- A map column with child slots for a row: the first slot, the index, the keys and values. -/
def startMap (row count : Nat) (index : ChildIndex) (entries : Entries) :
    Except Failure (Nat × ChildIndex × Entries) := do
  let taking ← index.take row count (min entries.keys.spans.size (slots entries.values))
  let keys :=
    match taking.growth with
    | some size => entries.keys.grow size
    | none => entries.keys
  return (taking.offset, taking.index, ⟨keys, growIf taking.growth entries.values⟩)

/-- Writes an object into the fields of a struct column. -/
def writeStruct (writeMembers : Json.Members → List (String × Column) →
    Attempt (List (String × Column))) (value : Json) (column : Column) : Attempt Column :=
  match column, value with
  | struct nulls fields, .object members => (writeMembers members fields).map (struct nulls)
  | struct nulls fields, value => .failed (struct nulls fields) (Category.struct.mismatch value)
  | column, _ => .failed column (.columnMismatch .struct)

/-- Writes an array into child slots of a list column. -/
def writeList (writeElement : Json → Nat → Column → Attempt Column) (value : Json) (row : Nat)
    (column : Column) : Attempt Column :=
  match column, value with
  | list nulls index child, .array items =>
    match startList row items.length index child with
    | .ok (offset, index, child) =>
      (writeElements writeElement items offset child).map (list nulls index)
    | .error failure => .failed (list nulls index child) failure
  | list nulls index child, value =>
    .failed (list nulls index child) (Category.list.mismatch value)
  | column, _ => .failed column (.columnMismatch .list)

/-- Writes an object into child slots of a map column. -/
def writeMap (writeValue : Json → Nat → Column → Attempt Column) (value : Json) (row : Nat)
    (column : Column) : Attempt Column :=
  match column, value with
  | map nulls index keys values, .object members =>
    match startMap row members.length index ⟨keys, values⟩ with
    | .ok (offset, index, entries) =>
      (writeEntries writeValue members offset entries).map fun entries =>
        map nulls index entries.keys entries.values
    | .error failure => .failed (map nulls index keys values) failure
  | map nulls index keys values, value =>
    .failed (map nulls index keys values) (Category.map.mismatch value)
  | column, _ => .failed column (.columnMismatch .map)

/-- Writes what an object has under the name of a field; if it has nothing, the cell is null. -/
def writeMember (writeValue : Json → Nat → Column → Attempt Column) (name : String)
    (value : Option Json) (row : Nat) (column : Column) : Attempt Column :=
  match value with
  | none => .ok (setNull row column)
  | some value => (writeValue value row column).within name

mutual

/-- Writes a value of a type into a row of a column. -/
def write (policy : CellPolicy) : DataType → Json → Nat → Column → Attempt Column
  | .leaf kind _ _, value, row =>
    guard policy value row fun column => .ofExcept column (writeLeaf kind value row column)
  | .struct _ types, value, row =>
    guard policy value row
      (writeStruct (fun members fields => writeFields policy types members row fields) value)
  | .list _ element _, value, row =>
    guard policy value row (writeList (write policy element) value row)
  | .map _ _ entry _, value, row =>
    guard policy value row (writeMap (write policy entry) value row)
termination_by structural type => type

/-- Writes the members of an object into a row of the columns of fields, in the order of the fields,
up to the first failure. -/
def writeFields (policy : CellPolicy) :
    List (String × DataType) → Json.Members → Nat → List (String × Column) →
      Attempt (List (String × Column))
  | (name, type) :: types, members, row, (columnName, column) :: columns =>
    let first := writeMember (write policy type) name (members.get? name) row column
    match first.failure with
    | some failure => .failed ((columnName, first.state) :: columns) failure
    | none =>
      (writeFields policy types members row columns).map ((columnName, first.state) :: ·)
  | _, _, _, columns => .ok columns
termination_by structural types => types

end

end Column

end Columnar
