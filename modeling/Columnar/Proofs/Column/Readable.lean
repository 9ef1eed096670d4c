import Columnar.Proofs.Column.Access
/-!
# Readable rows

A row is readable when all accesses that it takes to read it are in range. What is read then is what
the column has there (`valueAt_of_checked`), and it is read again when the column has grown
(`Readable.grow`): spans and flags of old rows are where they were, buffers and children are the same.
-/

set_option autoImplicit false

namespace Columnar

/-! ### What is read in range -/

/-- A flag that was read in range is the answer that the mask gives. -/
theorem NullMask.isNull_of_checked {mask : NullMask} {row : Nat} {null : Bool}
    (read : mask.checkedIsNull row = some null) : mask.isNull row = null := by
  unfold checkedIsNull at read
  unfold isNull
  by_cases quiet : mask.noNulls = true
  · rw [if_pos quiet] at read
    rw [quiet, Bool.not_true, Bool.false_and]
    exact Option.some.inj read
  · rw [if_neg quiet] at read
    simp [quiet, Array.getD_eq_getD_getElem?, read]

/-- A cell that was read in range is the one that the column has there. -/
theorem Cells.get?_of_checked {α : Type} [Inhabited α] {cells : Cells α} {row : Nat}
    {cell : Option α} (read : cells.checkedGet row = some cell) : cells.get? row = cell := by
  obtain ⟨null, flagged, rest⟩ := Option.bind_eq_some_iff.mp read
  rw [get?, NullMask.isNull_of_checked flagged]
  cases null with
  | true => exact Option.some.inj rest
  | false =>
    obtain ⟨value, found, same⟩ := Option.bind_eq_some_iff.mp rest
    exact found.trans (Option.some.inj same)

/-- Bytes that were sliced in range are those that the column has there. -/
theorem ByteCells.get?_of_checked {cells : ByteCells} {row : Nat} {cell : Option ByteArray}
    (read : cells.checkedGet row = some cell) : cells.get? row = cell := by
  obtain ⟨null, flagged, rest⟩ := Option.bind_eq_some_iff.mp read
  rw [get?, NullMask.isNull_of_checked flagged]
  cases null with
  | true => exact Option.some.inj rest
  | false =>
    obtain ⟨span, found, same⟩ := Option.bind_eq_some_iff.mp rest
    split at same
    · rw [found]
      exact Option.some.inj same
    · cases same

/-- A key that was sliced in range is the one that the map has there. -/
theorem ByteCells.key_of_checked {keys : ByteCells} {slot : Nat} {key : String}
    (read : keys.checkedKey slot = some key) : keys.key slot = key := by
  obtain ⟨cell, found, same⟩ := Option.bind_eq_some_iff.mp read
  rw [ByteCells.key, get?_of_checked found]
  cases cell <;> exact Option.some.inj same

/-- A span that was read in range is the one that the index has there. -/
theorem ChildIndex.span_of_getElem? {index : ChildIndex} {row : Nat} {span : Span}
    (found : index.spans[row]? = some span) : index.span row = span := by
  rw [ChildIndex.span, Array.getD_eq_getD_getElem?, found]
  rfl

/-- If every item has a result, and it is what a function without failures gives, so is the list of
all results. -/
theorem map_of_mapM_eq_some {α β : Type} {f : α → Option β} {g : α → β} {items : List α}
    {results : List β} (all : items.mapM f = some results)
    (same : ∀ item result, f item = some result → g item = result) : items.map g = results := by
  induction items generalizing results with
  | nil => exact Option.some.inj all
  | cons item rest ih =>
    rw [List.mapM_cons] at all
    obtain ⟨first, found, others⟩ := Option.bind_eq_some_iff.mp all
    obtain ⟨later, foundLater, whole⟩ := Option.bind_eq_some_iff.mp others
    rw [List.map_cons, same item first found, ih foundLater]
    exact Option.some.inj whole

namespace Column

/-- A row that is read through accesses in range alone. -/
def Readable (column : Column) (row : Nat) : Prop :=
  (checkedValueAt column row).isSome = true

instance (column : Column) (row : Nat) : Decidable (Readable column row) :=
  inferInstanceAs (Decidable (_ = true))

mutual

/-- What a row reads as in range is what it reads as. An access out of range would have given no
result, so each access on the way gave what is there; the induction is on the tree of the column,
for every row. -/
theorem valueAt_of_checked : (column : Column) → (row : Nat) → (value : Json) →
    checkedValueAt column row = some value → valueAt column row = value
  | long kind cells, row, value, read => by
    obtain ⟨cell, found, rfl⟩ := Option.map_eq_some_iff.mp read
    rw [valueAt, Cells.get?_of_checked found]
  | double cells, row, value, read => by
    obtain ⟨cell, found, rfl⟩ := Option.map_eq_some_iff.mp read
    rw [valueAt, Cells.get?_of_checked found]
  | bytes cells, row, value, read => by
    obtain ⟨cell, found, rfl⟩ := Option.map_eq_some_iff.mp read
    rw [valueAt, ByteCells.get?_of_checked found]
  | decimal precision scale cells, row, value, read => by
    obtain ⟨cell, found, rfl⟩ := Option.map_eq_some_iff.mp read
    rw [valueAt, Cells.get?_of_checked found]
  | timestamp cells, row, value, read => by
    obtain ⟨cell, found, rfl⟩ := Option.map_eq_some_iff.mp read
    rw [valueAt, Cells.get?_of_checked found]
  | struct nulls fields, row, value, read => by
    rw [checkedValueAt] at read
    obtain ⟨null, flagged, rest⟩ := Option.bind_eq_some_iff.mp read
    rw [valueAt, NullMask.isNull_of_checked flagged]
    -- A row that is null reads as null whatever stands below it, in range or not.
    cases null with
    | true => exact Option.some.inj rest
    | false =>
      obtain ⟨values, found, same⟩ := Option.bind_eq_some_iff.mp rest
      rw [fieldValues_of_checked fields row values found]
      exact Option.some.inj same
  | list nulls index child, row, value, read => by
    rw [checkedValueAt] at read
    obtain ⟨null, flagged, rest⟩ := Option.bind_eq_some_iff.mp read
    rw [valueAt, NullMask.isNull_of_checked flagged]
    cases null with
    | true => exact Option.some.inj rest
    | false =>
      obtain ⟨span, found, inside⟩ := Option.bind_eq_some_iff.mp rest
      obtain ⟨items, all, same⟩ := Option.bind_eq_some_iff.mp inside
      have items := map_of_mapM_eq_some all (valueAt_of_checked child)
      rw [index.span_of_getElem? found, items]
      exact Option.some.inj same
  | map nulls index keys values, row, value, read => by
    rw [checkedValueAt] at read
    obtain ⟨null, flagged, rest⟩ := Option.bind_eq_some_iff.mp read
    rw [valueAt, NullMask.isNull_of_checked flagged]
    cases null with
    | true => exact Option.some.inj rest
    | false =>
      obtain ⟨span, found, inside⟩ := Option.bind_eq_some_iff.mp rest
      obtain ⟨entries, all, same⟩ := Option.bind_eq_some_iff.mp inside
      -- A key and its value stand at one slot, so each entry is settled by two reads.
      have entries := map_of_mapM_eq_some
        (g := fun slot => (keys.key slot, valueAt values slot)) all fun slot entry one => by
          obtain ⟨key, keyRead, rest⟩ := Option.bind_eq_some_iff.mp one
          obtain ⟨value, valueRead, whole⟩ := Option.bind_eq_some_iff.mp rest
          rw [ByteCells.key_of_checked keyRead, valueAt_of_checked values slot value valueRead]
          exact Option.some.inj whole
      rw [index.span_of_getElem? found]
      dsimp only
      rw [entries]
      exact Option.some.inj same
termination_by structural column => column

/-- What the fields of a row read as in range is what they read as. -/
theorem fieldValues_of_checked : (fields : List (String × Column)) → (row : Nat) →
    (values : List (String × Json)) → checkedFieldValues fields row = some values →
      fieldValues fields row = values
  | [], _, _, read => Option.some.inj read
  | (name, column) :: rest, row, values, read => by
    rw [checkedFieldValues] at read
    obtain ⟨first, found, others⟩ := Option.bind_eq_some_iff.mp read
    obtain ⟨later, foundLater, same⟩ := Option.bind_eq_some_iff.mp others
    rw [fieldValues, valueAt_of_checked column row first found,
      fieldValues_of_checked rest row later foundLater]
    exact Option.some.inj same
termination_by structural fields => fields

end

end Column

/-! ### Parts that were read are read again -/

/-- A flag that was read is read again with more flags behind it. -/
theorem NullMask.checkedIsNull_grow {mask : NullMask} {row : Nat} {null : Bool} (size : Nat)
    (read : mask.checkedIsNull row = some null) :
    (mask.grow size).checkedIsNull row = some null := by
  unfold checkedIsNull at read ⊢
  by_cases quiet : mask.noNulls = true
  · rw [if_pos quiet] at read
    rw [if_pos (show (mask.grow size).noNulls = true from quiet), read]
  · rw [if_neg quiet] at read
    rw [if_neg (show ¬(mask.grow size).noNulls = true from quiet)]
    obtain ⟨inside, -⟩ := Array.getElem?_eq_some_iff.mp read
    exact (getElem?_growTo_of_lt _ _ _ inside).trans read

/-- A row that there was no flag for is not null. -/
theorem NullMask.checkedIsNull_grow_of_le {mask : NullMask} {row size : Nat}
    (new : mask.size ≤ row) (inside : row < (mask.grow size).size) :
    (mask.grow size).checkedIsNull row = some false := by
  have absent : mask.isNull row = false := by
    unfold isNull
    rw [Array.getD_eq_getD_getElem?, Array.getElem?_eq_none new]
    exact Bool.and_false _
  rw [checkedIsNull_eq inside, isNull_grow, absent]

/-- A cell that was read is read again with more cells behind it. -/
theorem Cells.checkedGet_grow {α : Type} [Inhabited α] {cells : Cells α} {row : Nat}
    {cell : Option α} (size : Nat) (read : cells.checkedGet row = some cell) :
    (cells.grow size).checkedGet row = some cell := by
  obtain ⟨null, flagged, rest⟩ := Option.bind_eq_some_iff.mp read
  have flagged' : (cells.grow size).nulls.checkedIsNull row = some null :=
    NullMask.checkedIsNull_grow size flagged
  rw [checkedGet, flagged']
  cases null with
  | true => exact rest
  | false =>
    obtain ⟨value, found, same⟩ := Option.bind_eq_some_iff.mp rest
    obtain ⟨inside, -⟩ := Array.getElem?_eq_some_iff.mp found
    have found' : (cells.grow size).values[row]? = some value :=
      (getElem?_growTo_of_lt _ _ _ inside).trans found
    simp only [Option.bind_eq_bind, Option.bind_some, found']
    exact same

/-- Bytes that were sliced are sliced again with more spans behind theirs; the buffer is the same.
-/
theorem ByteCells.checkedGet_grow {cells : ByteCells} {row : Nat} {cell : Option ByteArray}
    (size : Nat) (read : cells.checkedGet row = some cell) :
    (cells.grow size).checkedGet row = some cell := by
  obtain ⟨null, flagged, rest⟩ := Option.bind_eq_some_iff.mp read
  have flagged' : (cells.grow size).nulls.checkedIsNull row = some null :=
    NullMask.checkedIsNull_grow size flagged
  rw [checkedGet, flagged']
  cases null with
  | true => exact rest
  | false =>
    obtain ⟨span, found, same⟩ := Option.bind_eq_some_iff.mp rest
    obtain ⟨inside, -⟩ := Array.getElem?_eq_some_iff.mp found
    have found' : (cells.grow size).spans[row]? = some span :=
      (getElem?_growTo_of_lt _ _ _ inside).trans found
    simp only [Option.bind_eq_bind, Option.bind_some, found']
    exact same

/-- A span that was read is read again with more spans behind it. -/
theorem ChildIndex.getElem?_spans_grow {index : ChildIndex} {row : Nat} {span : Span} (size : Nat)
    (found : index.spans[row]? = some span) : (index.grow size).spans[row]? = some span := by
  obtain ⟨inside, -⟩ := Array.getElem?_eq_some_iff.mp found
  exact (getElem?_growTo_of_lt _ _ _ inside).trans found

namespace Column

mutual

/-- A row that could be read reads as before. -/
theorem checkedValueAt_grow (size : Nat) : (column : Column) → (row : Nat) → (value : Json) →
    checkedValueAt column row = some value → checkedValueAt (grow size column) row = some value
  | long kind cells, row, value, read => by
    rw [checkedValueAt, Option.map_eq_some_iff] at read
    obtain ⟨cell, found, rfl⟩ := read
    rw [grow, checkedValueAt, cells.checkedGet_grow size found, Option.map_some]
  | double cells, row, value, read => by
    rw [checkedValueAt, Option.map_eq_some_iff] at read
    obtain ⟨cell, found, rfl⟩ := read
    rw [grow, checkedValueAt, cells.checkedGet_grow size found, Option.map_some]
  | bytes cells, row, value, read => by
    rw [checkedValueAt, Option.map_eq_some_iff] at read
    obtain ⟨cell, found, rfl⟩ := read
    rw [grow, checkedValueAt, cells.checkedGet_grow size found, Option.map_some]
    rfl
  | decimal precision scale cells, row, value, read => by
    rw [checkedValueAt, Option.map_eq_some_iff] at read
    obtain ⟨cell, found, rfl⟩ := read
    rw [grow, checkedValueAt, cells.checkedGet_grow size found, Option.map_some]
  | timestamp cells, row, value, read => by
    rw [checkedValueAt, Option.map_eq_some_iff] at read
    obtain ⟨cell, found, rfl⟩ := read
    rw [grow, checkedValueAt, cells.checkedGet_grow size found, Option.map_some]
  | struct nulls fields, row, value, read => by
    rw [checkedValueAt] at read
    obtain ⟨null, flagged, rest⟩ := Option.bind_eq_some_iff.mp read
    rw [grow, checkedValueAt, nulls.checkedIsNull_grow size flagged]
    cases null with
    | true => exact rest
    | false =>
      obtain ⟨values, found, same⟩ := Option.bind_eq_some_iff.mp rest
      simp only [Option.bind_eq_bind, Option.bind_some,
        checkedFieldValues_grow size fields row values found]
      exact same
  | list nulls index child, row, value, read => by
    rw [checkedValueAt] at read
    obtain ⟨null, flagged, rest⟩ := Option.bind_eq_some_iff.mp read
    rw [grow, checkedValueAt, nulls.checkedIsNull_grow size flagged]
    cases null with
    | true => exact rest
    | false =>
      obtain ⟨span, found, same⟩ := Option.bind_eq_some_iff.mp rest
      -- Only the index has grown; the child is the one that was read before.
      simp only [Option.bind_eq_bind, Option.bind_some, index.getElem?_spans_grow size found]
      exact same
  | map nulls index keys values, row, value, read => by
    rw [checkedValueAt] at read
    obtain ⟨null, flagged, rest⟩ := Option.bind_eq_some_iff.mp read
    rw [grow, checkedValueAt, nulls.checkedIsNull_grow size flagged]
    cases null with
    | true => exact rest
    | false =>
      obtain ⟨span, found, same⟩ := Option.bind_eq_some_iff.mp rest
      simp only [Option.bind_eq_bind, Option.bind_some, index.getElem?_spans_grow size found]
      exact same
termination_by structural column => column

/-- The fields of a row that were read are read again when they have grown. -/
theorem checkedFieldValues_grow (size : Nat) : (fields : List (String × Column)) → (row : Nat) →
    (values : List (String × Json)) → checkedFieldValues fields row = some values →
      checkedFieldValues (growFields size fields) row = some values
  | [], _, _, read => read
  | (name, column) :: rest, row, values, read => by
    rw [checkedFieldValues] at read
    obtain ⟨first, found, others⟩ := Option.bind_eq_some_iff.mp read
    obtain ⟨later, foundLater, same⟩ := Option.bind_eq_some_iff.mp others
    rw [growFields, checkedFieldValues, checkedValueAt_grow size column row first found]
    simp only [Option.bind_eq_bind, Option.bind_some,
      checkedFieldValues_grow size rest row later foundLater]
    exact same
termination_by structural fields => fields

end

/-- A readable row stays readable and reads the same when the column grows. -/
theorem Readable.grow {column : Column} {row : Nat} (readable : Readable column row) (size : Nat) :
    Readable (grow size column) row ∧ valueAt (grow size column) row = valueAt column row := by
  obtain ⟨value, read⟩ := Option.isSome_iff_exists.mp readable
  have again := checkedValueAt_grow size column row value read
  refine ⟨Option.isSome_iff_exists.mpr ⟨value, again⟩, ?_⟩
  rw [valueAt_of_checked _ _ _ again, valueAt_of_checked _ _ _ read]

end Column

end Columnar
