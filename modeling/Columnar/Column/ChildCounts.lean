import Columnar.Column.Basic
/-!
# Snapshots of child counts

How many child slots the lists and maps of a column tree have taken, an outer one before those inside
it. Putting a snapshot back frees the slots that were taken since, and touches nothing else.
-/

set_option autoImplicit false

namespace Columnar.Column

mutual

/-- The child counts of a column tree. -/
def childCounts : Column → List Nat
  | struct _ fields => childCountsFields fields
  | list _ index child => index.childCount :: childCounts child
  | map _ index _ values => index.childCount :: childCounts values
  | _ => []
termination_by structural column => column

/-- The child counts of columns, one column after the other. -/
def childCountsFields : List (String × Column) → List Nat
  | [] => []
  | (_, column) :: rest => childCounts column ++ childCountsFields rest
termination_by structural fields => fields

end

/-- An index with the first of some child counts, if there is one, and the others. -/
def restoreIndex (index : ChildIndex) : List Nat → ChildIndex × List Nat
  | [] => (index, [])
  | childCount :: rest => ({ index with childCount }, rest)

mutual

/-- A column tree with the first of some child counts put back, and the others. -/
def restore : Column → List Nat → Column × List Nat
  | struct nulls fields, counts =>
    let (fields, counts) := restoreFields fields counts
    (struct nulls fields, counts)
  | list nulls index child, counts =>
    let (index, counts) := restoreIndex index counts
    let (child, counts) := restore child counts
    (list nulls index child, counts)
  | map nulls index keys values, counts =>
    let (index, counts) := restoreIndex index counts
    let (values, counts) := restore values counts
    (map nulls index keys values, counts)
  | leaf, counts => (leaf, counts)
termination_by structural column => column

/-- Columns with the first of some child counts put back, and the others. -/
def restoreFields : List (String × Column) → List Nat → List (String × Column) × List Nat
  | [], counts => ([], counts)
  | (name, column) :: rest, counts =>
    let (column, counts) := restore column counts
    let (rest, counts) := restoreFields rest counts
    ((name, column) :: rest, counts)
termination_by structural fields => fields

end

end Columnar.Column
