import Columnar.Column.NullMask
import Columnar.Text.Utf8
/-!
# Cells of leaf columns

Cells of fixed size stand in an array beside the null flags; a null row keeps the value that it had.
Text and binary cells are pieces of one buffer that all rows share and that only ever grows until the
column is reset.
-/

set_option autoImplicit false

namespace Columnar

/-- Cells of fixed size. -/
structure Cells (α : Type) where
  nulls : NullMask
  values : Array α
deriving DecidableEq

namespace Cells

variable {α : Type} [Inhabited α]

/-- So many cells with the default value. -/
def ofSize (size : Nat) : Cells α := ⟨.ofSize size, Array.replicate size default⟩

/-- Writes a cell. A row that was null stays null. -/
def set (cells : Cells α) (row : Nat) (value : α) : Cells α :=
  { cells with values := cells.values.setIfInBounds row value }

/-- The value of a row that is not null. -/
def get? (cells : Cells α) (row : Nat) : Option α :=
  if cells.nulls.isNull row then none else cells.values[row]?

/-- More cells, with the default value. -/
def grow (cells : Cells α) (size : Nat) : Cells α :=
  ⟨cells.nulls.grow size, growTo cells.values size default⟩

/-- No row is null, and values stay where they are. -/
def reset (cells : Cells α) : Cells α :=
  { cells with nulls := cells.nulls.reset }

end Cells

/-- A stretch of positions. -/
structure Span where
  start : Nat
  length : Nat
deriving DecidableEq, Inhabited

/-- Text or binary cells, as spans of one buffer. -/
structure ByteCells where
  binary : Bool
  nulls : NullMask
  spans : Array Span
  buffer : ByteArray

namespace ByteCells

/-- So many empty cells. -/
def ofSize (binary : Bool) (size : Nat) : ByteCells :=
  ⟨binary, .ofSize size, Array.replicate size default, .empty⟩

/-- Copies bytes behind the buffer and points a row to them. A row that was null stays null. -/
def set (cells : ByteCells) (row : Nat) (bytes : ByteArray) : ByteCells :=
  { cells with
    spans := cells.spans.setIfInBounds row ⟨cells.buffer.size, bytes.size⟩
    buffer := cells.buffer ++ bytes }

/-- The bytes of a row that is not null. -/
def get? (cells : ByteCells) (row : Nat) : Option ByteArray :=
  if cells.nulls.isNull row then none
  else cells.spans[row]?.map fun span => cells.buffer.extract span.start (span.start + span.length)

/-- The text of a row that is not null and whose bytes are UTF-8. -/
def text? (cells : ByteCells) (row : Nat) : Option String :=
  (cells.get? row).bind String.fromUTF8?

/-- More cells, all empty. -/
def grow (cells : ByteCells) (size : Nat) : ByteCells :=
  { cells with nulls := cells.nulls.grow size, spans := growTo cells.spans size default }

/-- No row is null and the buffer is empty; spans stay where they are. -/
def reset (cells : ByteCells) : ByteCells :=
  { cells with nulls := cells.nulls.reset, buffer := .empty }

end ByteCells

end Columnar
