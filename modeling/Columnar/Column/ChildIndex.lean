import Columnar.Column.Cells
import Columnar.Failure
/-!
# Where the children of a row are

Lists and maps of all rows share one child column. The index keeps the span of each row in it and how
many child slots are taken. A row takes the slots behind those that are; when the child column has too
few, it has to grow, or the row gets none if it must not.
-/

set_option autoImplicit false

namespace Columnar

/-- The spans of the rows of a list or map column in its child column. -/
structure ChildIndex where
  spans : Array Span
  childCount : Nat
  growable : Bool
deriving DecidableEq

/-- The index after a row took child slots, the first of them, and the size that the child column has
to grow to, if it is too small. -/
structure Taking where
  index : ChildIndex
  offset : Nat
  growth : Option Nat

namespace ChildIndex

/-- The index of a column of so many rows, no child slot taken. -/
def ofSize (size : Nat) : ChildIndex := ⟨Array.replicate size default, 0, true⟩

/-- The span of a row. -/
def span (index : ChildIndex) (row : Nat) : Span :=
  index.spans.getD row default

/-- Takes child slots for a row. A child column that is too small grows to at least twice its
size. -/
def take (index : ChildIndex) (row count capacity : Nat) : Except Failure Taking :=
  let offset := index.childCount
  let needed := offset + count
  let taken : ChildIndex :=
    { index with spans := index.spans.setIfInBounds row ⟨offset, count⟩, childCount := needed }
  if needed ≤ capacity then .ok ⟨taken, offset, none⟩
  else if index.growable then .ok ⟨taken, offset, some (max needed (2 * capacity))⟩
  else .error (.childOverflow needed capacity)

/-- Spans for more rows. -/
def grow (index : ChildIndex) (size : Nat) : ChildIndex :=
  { index with spans := growTo index.spans size default }

/-- No child slot is taken; spans stay where they are. -/
def reset (index : ChildIndex) : ChildIndex :=
  { index with childCount := 0 }

end ChildIndex

end Columnar
