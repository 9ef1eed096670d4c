import Columnar.Proofs.Column.Shape
/-!
# Where live rows point

Rows of a column are live, or they are left over from something else. A live row that is not null
points to bytes in a buffer or to child slots, and so makes these slots live; a live row that is null
points to nothing, whatever its cell holds. A column is anchored when everything its live rows point
to is there: the bytes lie inside the buffer, the child slots are among those taken, and those taken
are among those the child column has.
-/

set_option autoImplicit false

namespace Columnar

/-- The rows of a set that are not null. -/
def NullMask.Shown (mask : NullMask) (live : Nat → Prop) (row : Nat) : Prop :=
  live row ∧ mask.isNull row = false

namespace ChildIndex

/-- The child slots of the rows of a set. -/
def Reached (index : ChildIndex) (shown : Nat → Prop) (slot : Nat) : Prop :=
  ∃ row, shown row ∧ slot ∈ (index.span row).positions

/-- The child slots of the rows of a set are among those taken. -/
def Within (index : ChildIndex) (shown : Nat → Prop) : Prop :=
  ∀ row, shown row → (index.span row).start + (index.span row).length ≤ index.childCount

end ChildIndex

/-- The bytes of the rows of a set that are not null lie inside the buffer. -/
def ByteCells.Anchored (live : Nat → Prop) (cells : ByteCells) : Prop :=
  ∀ row, cells.nulls.Shown live row → cells.Settled row

namespace Column

mutual

/-- What the rows of a set point to is there, at every depth. -/
def Anchored (live : Nat → Prop) : Column → Prop
  | bytes cells => cells.Anchored live
  | struct nulls fields => AnchoredFields (nulls.Shown live) fields
  | list nulls index child =>
    index.childCount ≤ child.slots ∧ index.Within (nulls.Shown live) ∧
      Anchored (index.Reached (nulls.Shown live)) child
  | map nulls index keys values =>
    index.childCount ≤ keys.spans.size ∧ index.childCount ≤ values.slots ∧
      index.Within (nulls.Shown live) ∧ keys.Anchored (index.Reached (nulls.Shown live)) ∧
      Anchored (index.Reached (nulls.Shown live)) values
  | _ => True
termination_by structural column => column

/-- What the rows of a set point to is there, in the columns of fields. -/
def AnchoredFields (live : Nat → Prop) : List (String × Column) → Prop
  | [] => True
  | (_, column) :: rest => Anchored live column ∧ AnchoredFields live rest
termination_by structural columns => columns

end

end Column

/-! ### Fewer rows -/

section

variable {live live' : Nat → Prop}

/-- With fewer live rows there are fewer to be shown. -/
theorem NullMask.Shown.mono {mask : NullMask} (fewer : ∀ row, live' row → live row) {row : Nat}
    (shown : mask.Shown live' row) : mask.Shown live row :=
  ⟨fewer row shown.1, shown.2⟩

/-- Fewer rows reach fewer child slots. -/
theorem ChildIndex.Reached.mono {index : ChildIndex} (fewer : ∀ row, live' row → live row)
    {slot : Nat} (reached : index.Reached live' slot) : index.Reached live slot := by
  obtain ⟨row, shown, inside⟩ := reached
  exact ⟨row, fewer row shown, inside⟩

/-- The child slots of rows whose spans end within those taken are among those taken. -/
theorem ChildIndex.Within.lt {index : ChildIndex} (within : index.Within live) {slot : Nat}
    (reached : index.Reached live slot) : slot < index.childCount := by
  obtain ⟨row, shown, inside⟩ := reached
  have ends := within row shown
  have before := (List.mem_range'_1.mp inside).2
  omega

/-- Bytes anchored for some rows are anchored for any of them. -/
theorem ByteCells.Anchored.mono {cells : ByteCells} (fewer : ∀ row, live' row → live row)
    (anchored : cells.Anchored live) : cells.Anchored live' :=
  fun row shown => anchored row (shown.mono fewer)

end

namespace Column

mutual

/-- Fewer live rows need less. -/
theorem Anchored.mono : (column : Column) → {live live' : Nat → Prop} →
    (∀ row, live' row → live row) → Anchored live column → Anchored live' column
  | bytes _, _, _, fewer, anchored => ByteCells.Anchored.mono fewer anchored
  | struct _ fields, _, _, fewer, anchored =>
    AnchoredFields.mono fields (fun _ shown => shown.mono fewer) anchored
  | list _ _ child, _, _, fewer, ⟨room, within, childAnchored⟩ =>
    ⟨room, fun row shown => within row (shown.mono fewer),
      Anchored.mono child (fun _ reached => reached.mono fun _ shown => shown.mono fewer)
        childAnchored⟩
  | map _ _ _ values, _, _, fewer, ⟨keyRoom, room, within, keysAnchored, valuesAnchored⟩ =>
    ⟨keyRoom, room, fun row shown => within row (shown.mono fewer),
      keysAnchored.mono (fun _ reached => reached.mono fun _ shown => shown.mono fewer),
      Anchored.mono values (fun _ reached => reached.mono fun _ shown => shown.mono fewer)
        valuesAnchored⟩
  | long _ _, _, _, _, _ | double _, _, _, _, _ | decimal _ _ _, _, _, _, _
  | timestamp _, _, _, _, _ => by trivial
termination_by structural column => column

/-- Fields anchored for some rows are anchored for any of them. -/
theorem AnchoredFields.mono : (columns : List (String × Column)) → {live live' : Nat → Prop} →
    (∀ row, live' row → live row) → AnchoredFields live columns → AnchoredFields live' columns
  | [], _, _, _, _ => by trivial
  | (_, column) :: columns, _, _, fewer, ⟨first, rest⟩ =>
    ⟨Anchored.mono column fewer first, AnchoredFields.mono columns fewer rest⟩
termination_by structural columns => columns

end

/-! ### No live rows -/

section

variable {live : Nat → Prop}

/-- Where no row is live no child slot is reached. -/
theorem not_reached (index : ChildIndex) (nulls : NullMask) (empty : ∀ row, ¬live row) :
    ∀ slot, ¬index.Reached (nulls.Shown live) slot :=
  fun _ reached => reached.elim fun row inside => empty row inside.1.1

/-- Where no row is live the spans may lie anywhere. -/
theorem anchored_bytes_of_empty (cells : ByteCells) (empty : ∀ row, ¬live row) :
    cells.Anchored live :=
  fun row shown => absurd shown.1 (empty row)

end

mutual

/-- In a new column nothing is taken, so without live rows it is anchored. -/
theorem anchored_allocate (size : Nat) : (type : DataType) → {live : Nat → Prop} →
    (∀ row, ¬live row) → Anchored live (allocate size type)
  | .leaf kind attributes _, _, empty => by
    rw [allocate]
    cases kind <;> first | trivial | exact anchored_bytes_of_empty _ empty
  | .struct _ types, _, empty =>
    anchoredFields_allocate size types fun row shown => empty row shown.1
  | .list _ element _, _, empty =>
    ⟨Nat.zero_le _, fun row shown => absurd shown.1 (empty row),
      anchored_allocate size element (not_reached _ _ empty)⟩
  | .map _ _ entry _, _, empty =>
    ⟨Nat.zero_le _, Nat.zero_le _, fun row shown => absurd shown.1 (empty row),
      anchored_bytes_of_empty _ (not_reached _ _ empty),
      anchored_allocate size entry (not_reached _ _ empty)⟩
termination_by structural type => type

/-- New columns are anchored as long as no row of them is live. -/
theorem anchoredFields_allocate (size : Nat) : (types : List (String × DataType)) →
    {live : Nat → Prop} → (∀ row, ¬live row) → AnchoredFields live (allocateFields size types)
  | [], _, _ => by trivial
  | (_, type) :: types, _, empty =>
    ⟨anchored_allocate size type empty, anchoredFields_allocate size types empty⟩
termination_by structural types => types

end

mutual

/-- After a reset nothing is taken, so without live rows a column is anchored, stale spans or not. -/
theorem anchored_reset : (column : Column) → {live : Nat → Prop} → (∀ row, ¬live row) →
    Anchored live (reset column)
  | bytes _, _, empty => anchored_bytes_of_empty _ empty
  | struct _ fields, _, empty => anchoredFields_reset fields fun row shown => empty row shown.1
  | list _ _ child, _, empty =>
    ⟨Nat.zero_le _, fun row shown => absurd shown.1 (empty row),
      anchored_reset child (not_reached _ _ empty)⟩
  | map _ _ _ values, _, empty =>
    ⟨Nat.zero_le _, Nat.zero_le _, fun row shown => absurd shown.1 (empty row),
      anchored_bytes_of_empty _ (not_reached _ _ empty), anchored_reset values (not_reached _ _ empty)⟩
  | long _ _, _, _ | double _, _, _ | decimal _ _ _, _, _ | timestamp _, _, _ => by trivial
termination_by structural column => column

/-- After a reset columns are anchored as long as no row of them is live; the spans of earlier rows
stay in their cells, but nothing reads them. -/
theorem anchoredFields_reset : (columns : List (String × Column)) → {live : Nat → Prop} →
    (∀ row, ¬live row) → AnchoredFields live (resetFields columns)
  | [], _, _ => by trivial
  | (_, column) :: columns, _, empty =>
    ⟨anchored_reset column empty, anchoredFields_reset columns empty⟩
termination_by structural columns => columns

end

/-! ### Operations that move nothing -/

section

variable {growable : Bool}

/-- More flags change no answer about null, so the same live rows are shown. -/
theorem shown_grow {live : Nat → Prop} {mask : NullMask} (size : Nat) {row : Nat}
    (shown : (mask.grow size).Shown live row) : mask.Shown live row :=
  ⟨shown.1, (NullMask.isNull_grow mask size row).symm.trans shown.2⟩

/-- More rows reach no other child slots: the span of a new row is empty. -/
theorem reached_grow {live : Nat → Prop} {mask : NullMask} {index : ChildIndex} (size : Nat)
    {slot : Nat} (reached : (index.grow size).Reached ((mask.grow size).Shown live) slot) :
    index.Reached (mask.Shown live) slot := by
  obtain ⟨row, shown, inside⟩ := reached
  rw [ChildIndex.span_grow] at inside
  exact ⟨row, shown_grow size shown, inside⟩

/-- The spans of new rows are empty, so all of them stay among the slots taken. -/
theorem within_grow {live : Nat → Prop} {mask : NullMask} {index : ChildIndex} (size : Nat)
    (within : index.Within (mask.Shown live)) :
    (index.grow size).Within ((mask.grow size).Shown live) := by
  intro row shown
  rw [ChildIndex.span_grow]
  exact within row (shown_grow size shown)

/-- More rows leave the bytes of the live ones where they are. -/
theorem ByteCells.Anchored.grow {live : Nat → Prop} {cells : ByteCells} (size : Nat)
    (inside : ∀ row, live row → row < cells.spans.size) (anchored : cells.Anchored live) :
    (cells.grow size).Anchored live :=
  fun row shown =>
    ByteCells.settled_grow size (inside row shown.1) (anchored row (shown_grow size shown))

mutual

/-- Growing a column that has all its live rows leaves it anchored. -/
theorem Anchored.grow (size : Nat) : (type : DataType) → (column : Column) →
    Fits growable type column → {live : Nat → Prop} → (∀ row, live row → row < column.slots) →
      Anchored live column → Anchored live (Column.grow size column)
  | .leaf _ _ _, column, _, _, inside, anchored => by
    cases column with
    | bytes cells => exact ByteCells.Anchored.grow size inside anchored
    | long | double | decimal | timestamp => trivial
    | struct nulls fields | list nulls index child | map nulls index keys values =>
      simp_all [Fits, FitsPrimitive]
  | .struct _ types, _, fits, _, inside, anchored => by
    obtain ⟨nulls, fields, rfl, -, fieldsFit⟩ := fits.exists_struct
    exact AnchoredFields.mono _ (fun _ => shown_grow size)
      (AnchoredFields.grow size types nulls.size fields fieldsFit
        (fun row shown => inside row shown.1) anchored)
  | .list _ _ _, _, fits, _, _, anchored => by
    obtain ⟨nulls, index, child, rfl, -⟩ := fits.exists_list
    obtain ⟨room, within, childAnchored⟩ := anchored
    exact ⟨room, within_grow size within,
      Anchored.mono child (fun _ => reached_grow size) childAnchored⟩
  | .map _ _ _ _, _, fits, _, _, anchored => by
    obtain ⟨nulls, index, keys, values, rfl, -⟩ := fits.exists_map
    obtain ⟨keyRoom, room, within, keysAnchored, valuesAnchored⟩ := anchored
    exact ⟨keyRoom, room, within_grow size within, keysAnchored.mono fun _ => reached_grow size,
      Anchored.mono values (fun _ => reached_grow size) valuesAnchored⟩
termination_by structural type => type

/-- More rows leave everything that the live rows of the fields point to. -/
theorem AnchoredFields.grow (more : Nat) : (types : List (String × DataType)) → (size : Nat) →
    (columns : List (String × Column)) → FitsFields growable size types columns →
      {live : Nat → Prop} → (∀ row, live row → row < size) →
        AnchoredFields live columns → AnchoredFields live (growFields more columns)
  | _, _, [], _, _, _, _ => by trivial
  | [], _, _ :: _, fits, _, _, _ => fits.elim
  | (_, type) :: types, size, (_, column) :: columns, fits, _, inside, anchored => by
    obtain ⟨-, enough, columnFits, restFit⟩ := fits
    exact ⟨Anchored.grow more type column columnFits
        (fun row shown => Nat.lt_of_lt_of_le (inside row shown) enough) anchored.1,
      AnchoredFields.grow more types size columns restFit inside anchored.2⟩
termination_by structural types => types

end

mutual

/-- Whether child columns may grow has no part in where rows point. -/
theorem Anchored.setGrowable (allowed : Bool) : (column : Column) → {live : Nat → Prop} →
    Anchored live column → Anchored live (Column.setGrowable allowed column)
  | struct _ fields, _, anchored => AnchoredFields.setGrowable allowed fields anchored
  | list _ _ child, _, ⟨room, within, childAnchored⟩ =>
    ⟨by rw [slots_setGrowable]; exact room, within,
      Anchored.setGrowable allowed child childAnchored⟩
  | map _ _ _ values, _, ⟨keyRoom, room, within, keysAnchored, valuesAnchored⟩ =>
    ⟨keyRoom, by rw [slots_setGrowable]; exact room, within, keysAnchored,
      Anchored.setGrowable allowed values valuesAnchored⟩
  | bytes _, _, anchored => anchored
  | long _ _, _, _ | double _, _, _ | decimal _ _ _, _, _ | timestamp _, _, _ => by trivial
termination_by structural column => column

/-- A permission to grow moves nothing that live rows point to. -/
theorem AnchoredFields.setGrowable (allowed : Bool) : (columns : List (String × Column)) →
    {live : Nat → Prop} → AnchoredFields live columns →
      AnchoredFields live (setGrowableFields allowed columns)
  | [], _, _ => by trivial
  | (_, column) :: columns, _, ⟨first, rest⟩ =>
    ⟨Anchored.setGrowable allowed column first, AnchoredFields.setGrowable allowed columns rest⟩
termination_by structural columns => columns

end

end

end Column

end Columnar
