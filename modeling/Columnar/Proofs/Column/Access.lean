import Columnar.Proofs.Column.Anchored
import Columnar.Proofs.Column.Stored
/-!
# Accesses in range

Arrays are read and written here only where they have the position, and buffers are sliced only where
they have the stretch: outside there is no result. A column that fits its type is written in range
(`checkedWrite_eq`), and its live rows, if they are anchored, are read in range
(`checkedValueAt_eq`). So on such columns nothing depends on what an access out of range would do.
-/

set_option autoImplicit false

namespace Columnar

/-! ### Parts of columns -/

/-- Whether a row is null; the flags are looked at only if some row may be null. -/
def NullMask.checkedIsNull (mask : NullMask) (row : Nat) : Option Bool :=
  if mask.noNulls then some false else mask.flags[row]?

/-- The value of a row that is not null. -/
def Cells.checkedGet {α : Type} (cells : Cells α) (row : Nat) : Option (Option α) := do
  let null ← cells.nulls.checkedIsNull row
  if null then return none
  let value ← cells.values[row]?
  return some value

/-- The bytes of a row that is not null, cut out of the buffer. -/
def ByteCells.checkedGet (cells : ByteCells) (row : Nat) : Option (Option ByteArray) := do
  let null ← cells.nulls.checkedIsNull row
  if null then return none
  let span ← cells.spans[row]?
  if span.start + span.length ≤ cells.buffer.size then
    return some (cells.buffer.extract span.start (span.start + span.length))
  else none

/-- The key in a slot of a key column. -/
def ByteCells.checkedKey (keys : ByteCells) (slot : Nat) : Option String := do
  match ← keys.checkedGet slot with
  | some bytes => return Text.Utf8.decode bytes
  | none => return ""

/-- The key in a slot, with a value. -/
def ByteCells.checkedEntry (keys : ByteCells) (slot : Nat) (value : Option Json) :
    Option (String × Json) := do
  return (← keys.checkedKey slot, ← value)

/-- Bytes of a row, put behind the buffer. -/
def ByteCells.checkedSet (cells : ByteCells) (row : Nat) (bytes : ByteArray) : Option ByteCells :=
  if row < cells.spans.size then some (cells.set row bytes) else none

/-- Goes on from the state reached unless a failure, or an access out of range, stopped there. -/
def Attempt.checkedAndThen {σ : Type} (attempt : Option (Attempt σ))
    (next : σ → Option (Attempt σ)) : Option (Attempt σ) := do
  let attempt ← attempt
  match attempt.failure with
  | some _ => return attempt
  | none => next attempt.state

namespace Column

/-! ### Columns -/

mutual

/-- The value in a row of a column. -/
def checkedValueAt : Column → Nat → Option Json
  | long kind cells, row => (cells.checkedGet row).map (.ofOption kind.readLong)
  | double cells, row => (cells.checkedGet row).map (.ofOption readDouble)
  | bytes cells, row => (cells.checkedGet row).map (.ofOption (readBytes cells.binary))
  | decimal _ scale cells, row => (cells.checkedGet row).map (.ofOption (readDecimal scale))
  | timestamp cells, row => (cells.checkedGet row).map (.ofOption readTimestamp)
  | struct nulls fields, row => do
    if ← nulls.checkedIsNull row then return .null
    return .objectOf (← checkedFieldValues fields row)
  | list nulls index child, row => do
    if ← nulls.checkedIsNull row then return .null
    let span ← index.spans[row]?
    return .array (← span.positions.mapM (checkedValueAt child))
  | map nulls index keys values, row => do
    if ← nulls.checkedIsNull row then return .null
    let span ← index.spans[row]?
    let entry := fun slot => keys.checkedEntry slot (checkedValueAt values slot)
    return .objectOf (← span.positions.mapM entry)
termination_by structural column => column

/-- The values in a row of the columns of fields, with their names. -/
def checkedFieldValues : List (String × Column) → Nat → Option (List (String × Json))
  | [], _ => some []
  | (name, column) :: rest, row => do
    let value ← checkedValueAt column row
    return (name, value) :: (← checkedFieldValues rest row)
termination_by structural fields => fields

end

/-- Flags a row as null. -/
def checkedSetNull (row : Nat) (column : Column) : Option Column :=
  if row < column.nulls.size then some (setNull row column) else none

/-- Writes a value that is not null into a leaf column, in a row that has a flag and a value. -/
def checkedWriteLeaf (kind : Primitive) (value : Json) (row : Nat) (column : Column) :
    Option (Attempt Column) :=
  match writeLeaf kind value row column with
  | .ok written =>
    if row < column.nulls.size ∧ row < column.slots then some (.ok written) else none
  | .error failure => some (.failed column failure)

/-- Writes null, or else a value in the given way. -/
def checkedGuard (policy : CellPolicy) (value : Json) (row : Nat)
    (write : Column → Option (Attempt Column)) (column : Column) : Option (Attempt Column) := do
  if value.isNull then return .ok (← checkedSetNull row column)
  let attempt ← write column
  match attempt.failure with
  | some failure =>
    if policy = .nullCell ∧ failure.isCellFailure then
      return .ok (← checkedSetNull row attempt.state)
    else return attempt
  | none => return attempt

/-- Writes elements in order into a column, from a slot on. -/
def checkedWriteElements (write : Json → Nat → Column → Option (Attempt Column)) :
    List Json → Nat → Column → Option (Attempt Column)
  | [], _, child => some (.ok child)
  | element :: rest, slot, child =>
    Attempt.checkedAndThen (write element slot child) (checkedWriteElements write rest (slot + 1))

/-- Writes one entry into a slot, the key first. -/
def checkedWriteEntry (write : Json → Nat → Column → Option (Attempt Column)) (key : String)
    (value : Json) (slot : Nat) (entries : Entries) : Option (Attempt Entries) := do
  let keys ← entries.keys.checkedSet slot key.toUTF8
  let written ← write value slot entries.values
  return (written.within key).map fun values => ⟨keys, values⟩

/-- Writes entries in order, from a slot on. -/
def checkedWriteEntries (write : Json → Nat → Column → Option (Attempt Column)) :
    List (String × Json) → Nat → Entries → Option (Attempt Entries)
  | [], _, entries => some (.ok entries)
  | (key, value) :: rest, slot, entries =>
    Attempt.checkedAndThen (checkedWriteEntry write key value slot entries)
      (checkedWriteEntries write rest (slot + 1))

/-- Writes an object into the fields of a struct column. -/
def checkedWriteStruct (writeMembers : Json.Members → List (String × Column) →
    Option (Attempt (List (String × Column)))) (value : Json) (column : Column) :
    Option (Attempt Column) :=
  match column, value with
  | struct nulls fields, .object members => do
    return (← writeMembers members fields).map (struct nulls)
  | struct nulls fields, value => some (.failed (struct nulls fields) (Category.struct.mismatch value))
  | column, _ => some (.failed column (.columnMismatch .struct))

/-- Writes an array into child slots of a list column, whose row gets its span. -/
def checkedWriteList (writeElement : Json → Nat → Column → Option (Attempt Column)) (value : Json)
    (row : Nat) (column : Column) : Option (Attempt Column) :=
  match column, value with
  | list nulls index child, .array items =>
    match startList row items.length index child with
    | .ok (offset, taken, child) => do
      if row < index.spans.size then
        return (← checkedWriteElements writeElement items offset child).map (list nulls taken)
      else none
    | .error failure => some (.failed (list nulls index child) failure)
  | list nulls index child, value =>
    some (.failed (list nulls index child) (Category.list.mismatch value))
  | column, _ => some (.failed column (.columnMismatch .list))

/-- Writes an object into child slots of a map column, whose row gets its span. -/
def checkedWriteMap (writeValue : Json → Nat → Column → Option (Attempt Column)) (value : Json)
    (row : Nat) (column : Column) : Option (Attempt Column) :=
  match column, value with
  | map nulls index keys values, .object members =>
    match startMap row members.length index ⟨keys, values⟩ with
    | .ok (offset, taken, entries) => do
      if row < index.spans.size then
        return (← checkedWriteEntries writeValue members offset entries).map fun entries =>
          map nulls taken entries.keys entries.values
      else none
    | .error failure => some (.failed (map nulls index keys values) failure)
  | map nulls index keys values, value =>
    some (.failed (map nulls index keys values) (Category.map.mismatch value))
  | column, _ => some (.failed column (.columnMismatch .map))

/-- Writes what an object has under the name of a field; if it has nothing, the cell is null. -/
def checkedWriteMember (writeValue : Json → Nat → Column → Option (Attempt Column)) (name : String)
    (value : Option Json) (row : Nat) (column : Column) : Option (Attempt Column) := do
  match value with
  | none => return .ok (← checkedSetNull row column)
  | some value => return (← writeValue value row column).within name

mutual

/-- Writes a value of a type into a row of a column. -/
def checkedWrite (policy : CellPolicy) :
    DataType → Json → Nat → Column → Option (Attempt Column)
  | .leaf kind _ _, value, row => checkedGuard policy value row (checkedWriteLeaf kind value row)
  | .struct _ types, value, row =>
    checkedGuard policy value row
      (checkedWriteStruct
        (fun members fields => checkedWriteFields policy types members row fields) value)
  | .list _ element _, value, row =>
    checkedGuard policy value row (checkedWriteList (checkedWrite policy element) value row)
  | .map _ _ entry _, value, row =>
    checkedGuard policy value row (checkedWriteMap (checkedWrite policy entry) value row)
termination_by structural type => type

/-- Writes the members of an object into a row of the columns of fields, in the order of the fields,
up to the first failure. -/
def checkedWriteFields (policy : CellPolicy) :
    List (String × DataType) → Json.Members → Nat → List (String × Column) →
      Option (Attempt (List (String × Column)))
  | (name, type) :: types, members, row, (columnName, column) :: columns => do
    let first ← checkedWriteMember (checkedWrite policy type) name (members.get? name) row column
    match first.failure with
    | some failure => return .failed ((columnName, first.state) :: columns) failure
    | none =>
      return (← checkedWriteFields policy types members row columns).map
        ((columnName, first.state) :: ·)
  | _, _, _, columns => some (.ok columns)
termination_by structural types => types

end

/-! ### Live rows are read in range -/

end Column

/-- Inside the mask the flag of a row is there to be read. -/
theorem NullMask.checkedIsNull_eq {mask : NullMask} {row : Nat} (inside : row < mask.size) :
    mask.checkedIsNull row = some (mask.isNull row) := by
  have here : row < mask.flags.size := inside
  unfold checkedIsNull isNull
  cases mask.noNulls with
  | true => rfl
  | false => simp [Array.getD_eq_getD_getElem?, here]

/-- Sound cells have a value at each of their rows. -/
theorem Cells.checkedGet_eq {α : Type} {cells : Cells α} (sound : cells.Sound) {row : Nat}
    (inside : row < cells.values.size) : cells.checkedGet row = some (cells.get? row) := by
  rw [checkedGet, NullMask.checkedIsNull_eq (sound.size_nulls ▸ inside), get?,
    Array.getElem?_eq_getElem inside]
  cases cells.nulls.isNull row <;> rfl

/-- The bytes of a row can be sliced out of the buffer if the row is null, when no slice is taken,
or if its span lies inside the buffer. -/
theorem ByteCells.checkedGet_eq {cells : ByteCells} (sound : cells.Sound) {row : Nat}
    (inside : row < cells.spans.size)
    (settled : cells.nulls.isNull row = false → cells.Settled row) :
    cells.checkedGet row = some (cells.get? row) := by
  rw [checkedGet, NullMask.checkedIsNull_eq (sound.size_nulls ▸ inside), get?,
    Array.getElem?_eq_getElem inside]
  cases null : cells.nulls.isNull row with
  | true => rfl
  | false =>
    have ends := settled null _ (Array.getElem?_eq_getElem inside)
    simp [ends]

/-- The key of an entry can be sliced out of the buffer and decoded. -/
theorem ByteCells.checkedKey_eq {keys : ByteCells} (held : keys.HoldKeys) {slot : Nat}
    (inside : slot < keys.spans.size) (settled : keys.Settled slot) :
    keys.checkedKey slot = some (keys.key slot) := by
  rw [checkedKey, checkedGet_eq held.sound inside fun _ => settled, key]
  cases keys.get? slot <;> rfl

/-- If every item has a result then so has the whole list. -/
theorem mapM_eq_some {α β : Type} {f : α → Option β} {g : α → β} (items : List α)
    (same : ∀ item ∈ items, f item = some (g item)) : items.mapM f = some (items.map g) := by
  induction items with
  | nil => rfl
  | cons item rest ih =>
    rw [List.mapM_cons, same item List.mem_cons_self,
      ih fun other among => same other (List.mem_cons_of_mem item among)]
    rfl

namespace Column

/-- The span of a row is the one that the index has for it. -/
theorem getElem?_spans {index : ChildIndex} {row : Nat} (inside : row < index.spans.size) :
    index.spans[row]? = some (index.span row) := by
  rw [ChildIndex.span, Array.getD_eq_getD_getElem?, Array.getElem?_eq_getElem inside]
  rfl

/-- A live row of a leaf column is read in range. Only bytes need the row to be anchored; the other
cells hold their values themselves. -/
theorem checkedValueAt_leaf {kind : Primitive} {attributes : Attributes} {column : Column}
    (fits : FitsPrimitive kind attributes column) {live : Nat → Prop}
    (anchored : Anchored live column) {row : Nat} (among : live row)
    (inside : row < column.slots) : checkedValueAt column row = some (valueAt column row) := by
  cases column <;> simp only [FitsPrimitive, slots] at fits inside
  case long => rw [checkedValueAt, Cells.checkedGet_eq fits.2.2 inside]; rfl
  case double => rw [checkedValueAt, Cells.checkedGet_eq fits.2 inside]; rfl
  case bytes cells =>
    rw [checkedValueAt,
      ByteCells.checkedGet_eq fits.2.2 inside fun notNull => anchored row ⟨among, notNull⟩]
    rfl
  case decimal => rw [checkedValueAt, Cells.checkedGet_eq fits.2.2.2 inside]; rfl
  case timestamp => rw [checkedValueAt, Cells.checkedGet_eq fits.2 inside]; rfl

mutual

/-- Live rows are read in range where they are anchored. -/
theorem checkedValueAt_eq {growable : Bool} : (type : DataType) → (column : Column) →
    Fits growable type column → {live : Nat → Prop} → Anchored live column → {row : Nat} →
      live row → row < column.slots → checkedValueAt column row = some (valueAt column row)
  | .leaf _ _ _, _, fits, _, anchored, _, among, inside =>
    checkedValueAt_leaf fits anchored among inside
  | .struct _ types, _, fits, _, anchored, row, among, inside => by
    obtain ⟨nulls, fields, rfl, -, fieldsFit⟩ := fits.exists_struct
    rw [checkedValueAt, NullMask.checkedIsNull_eq inside, valueAt]
    cases null : nulls.isNull row with
    | true => rfl
    | false =>
      have fields := checkedFieldValues_eq types nulls.size fields fieldsFit anchored ⟨among, null⟩
        inside
      simp [fields]
  | .list _ element _, _, fits, _, anchored, row, among, inside => by
    obtain ⟨nulls, index, child, rfl, -, sizes, -, childFits⟩ := fits.exists_list
    obtain ⟨room, within, childAnchored⟩ := anchored
    have flagged : row < nulls.size := sizes ▸ inside
    rw [checkedValueAt, NullMask.checkedIsNull_eq flagged, valueAt, getElem?_spans inside]
    cases null : nulls.isNull row with
    | true => rfl
    | false =>
      have items := mapM_eq_some (index.span row).positions fun slot found => by
        have reached : index.Reached (nulls.Shown _) slot := ⟨row, ⟨among, null⟩, found⟩
        exact checkedValueAt_eq element child childFits childAnchored reached
          (Nat.lt_of_lt_of_le (within.lt reached) room)
      simp [items]
  | .map _ _ entry _, _, fits, _, anchored, row, among, inside => by
    obtain ⟨nulls, index, keys, values, rfl, -, sizes, -, keysFit, valuesFit⟩ := fits.exists_map
    obtain ⟨keyRoom, room, within, keysAnchored, valuesAnchored⟩ := anchored
    have flagged : row < nulls.size := sizes ▸ inside
    rw [checkedValueAt, NullMask.checkedIsNull_eq flagged, valueAt, getElem?_spans inside]
    cases null : nulls.isNull row with
    | true => rfl
    | false =>
      have entries : ∀ slot ∈ (index.span row).positions,
          keys.checkedEntry slot (checkedValueAt values slot) =
            some (keys.key slot, valueAt values slot) := by
        intro slot found
        have reached : index.Reached (nulls.Shown _) slot := ⟨row, ⟨among, null⟩, found⟩
        have taken := within.lt reached
        rw [ByteCells.checkedEntry,
          ByteCells.checkedKey_eq keysFit (Nat.lt_of_lt_of_le taken keyRoom)
            (keysAnchored slot ⟨reached, keysFit.isNull slot⟩),
          checkedValueAt_eq entry values valuesFit valuesAnchored reached
            (Nat.lt_of_lt_of_le taken room)]
        rfl
      simp [mapM_eq_some _ entries]
termination_by structural type => type

/-- A live row of a struct is read in range in every field, since each field has at least the rows
that the struct has. -/
theorem checkedFieldValues_eq {growable : Bool} : (types : List (String × DataType)) →
    (size : Nat) → (columns : List (String × Column)) → FitsFields growable size types columns →
      {live : Nat → Prop} → AnchoredFields live columns → {row : Nat} → live row → row < size →
        checkedFieldValues columns row = some (fieldValues columns row)
  | _, _, [], _, _, _, _, _, _ => rfl
  | [], _, _ :: _, fits, _, _, _, _, _ => fits.elim
  | (_, type) :: types, size, (_, column) :: columns, ⟨_, enough, columnFits, restFit⟩, _, anchored,
      _, among, inside => by
    rw [checkedFieldValues, checkedValueAt_eq type column columnFits anchored.1 among
        (Nat.lt_of_lt_of_le inside enough),
      checkedFieldValues_eq types size columns restFit anchored.2 among inside]
    rfl
termination_by structural types => types

end

/-! ### Writes are in range -/

section

variable {growable : Bool} {type : DataType}

/-- A row that the column has has a flag that can be set. -/
theorem checkedSetNull_eq {column : Column} (fits : Fits growable type column) {row : Nat}
    (inside : row < column.slots) : checkedSetNull row column = some (setNull row column) := by
  rw [checkedSetNull, if_pos (by rw [fits.size_nulls]; exact inside)]

/-- A leaf column has the cell and the flag for every row that it has, so any value is stored in
range or refused before anything is stored. -/
theorem checkedWriteLeaf_eq {kind : Primitive} {attributes : Attributes} {column : Column}
    (fits : FitsPrimitive kind attributes column) {row : Nat} (inside : row < column.slots)
    (value : Json) :
    checkedWriteLeaf kind value row column =
      some (.ofExcept column (writeLeaf kind value row column)) := by
  rw [checkedWriteLeaf]
  cases writeLeaf kind value row column with
  | error failure => rfl
  | ok written =>
    dsimp only
    rw [if_pos ⟨by rw [fits.size_nulls]; exact inside, inside⟩]
    rfl

/-- A guard flags a row that the column still has after the write. -/
theorem checkedGuard_eq {policy : CellPolicy} {value : Json} {row : Nat} {column : Column}
    {checked : Column → Option (Attempt Column)} {unguarded : Column → Attempt Column}
    (fits : Fits growable type column) (inside : row < column.slots)
    (same : checked column = some (unguarded column))
    (reshaped : Reshaped growable type column.slots (unguarded column).state) :
    checkedGuard policy value row checked column = some (guard policy value row unguarded column) := by
  have flag := checkedSetNull_eq reshaped.1 (reshaped.2.symm ▸ inside)
  rw [checkedGuard, guard, checkedSetNull_eq fits inside, same]
  cases value.isNull with
  | true => rfl
  | false =>
    simp only [Bool.false_eq_true, if_false, bind, Option.bind]
    cases (unguarded column).failure with
    | none => rfl
    | some failure =>
      dsimp only
      split
      · rw [flag]; rfl
      · rfl

variable {checked : Json → Nat → Column → Option (Attempt Column)}
  {writer : Json → Nat → Column → Attempt Column}

/-- If the next step has a result in the state reached, both steps together have one. -/
theorem checkedAndThen_some {σ : Type} {attempt : Attempt σ} {checkedNext : σ → Option (Attempt σ)}
    {next : σ → Attempt σ} (same : checkedNext attempt.state = some (next attempt.state)) :
    Attempt.checkedAndThen (some attempt) checkedNext = some (attempt.andThen next) := by
  unfold Attempt.checkedAndThen Attempt.andThen
  simp only [bind, Option.bind, same]
  cases attempt.failure <;> rfl

/-- The elements of a list are written in range when the slots for all of them are there. Each write
leaves the child in the shape of its type and with no fewer slots, so the next one finds its slot
too. -/
theorem checkedWriteElements_eq
    (same : ∀ value slot child, Fits growable type child → slot < child.slots →
      checked value slot child = some (writer value slot child))
    (reshaped : ∀ value slot child, Fits growable type child →
      Reshaped growable type child.slots (writer value slot child).state) :
    ∀ (items : List Json) (slot : Nat) (child : Column), Fits growable type child →
      slot + items.length ≤ child.slots →
        checkedWriteElements checked items slot child =
          some (writeElements writer items slot child) := by
  intro items
  induction items with
  | nil => exact fun _ _ _ _ => rfl
  | cons element rest ih =>
    intro slot child fits inside
    rw [List.length_cons] at inside
    have here : slot < child.slots := by omega
    obtain ⟨fits', slots'⟩ := reshaped element slot child fits
    have others : slot + 1 + rest.length ≤ (writer element slot child).state.slots := by
      rw [slots']
      omega
    rw [checkedWriteElements, writeElements, same element slot child fits here]
    exact checkedAndThen_some (ih (slot + 1) _ fits' others)

/-- The entries of a map are written in range when both the keys and the values have the slots for
all of them. -/
theorem checkedWriteEntries_eq
    (same : ∀ value slot values, Fits growable type values → slot < values.slots →
      checked value slot values = some (writer value slot values))
    (reshaped : ∀ value slot values, Fits growable type values →
      Reshaped growable type values.slots (writer value slot values).state) :
    ∀ (members : Json.Members) (slot : Nat) (entries : Entries), Fits growable type entries.values →
      slot + members.length ≤ entries.keys.spans.size →
        slot + members.length ≤ entries.values.slots →
          checkedWriteEntries checked members slot entries =
            some (writeEntries writer members slot entries) := by
  intro members
  induction members with
  | nil => exact fun _ _ _ _ _ => rfl
  | cons member rest ih =>
    intro slot entries fits keyRoom room
    obtain ⟨key, value⟩ := member
    rw [List.length_cons] at keyRoom room
    have keyHere : slot < entries.keys.spans.size := by omega
    have here : slot < entries.values.slots := by omega
    obtain ⟨fits', slots'⟩ := reshaped value slot entries.values fits
    have entry : checkedWriteEntry checked key value slot entries =
        some (writeEntry writer key value slot entries) := by
      rw [checkedWriteEntry, ByteCells.checkedSet, if_pos keyHere,
        same value slot entries.values fits here]
      rfl
    rw [checkedWriteEntries, writeEntries, entry]
    refine checkedAndThen_some (ih (slot + 1) _ fits' ?_ ?_)
    · simp only [writeEntry, Attempt.state_map, ByteCells.set, Array.size_setIfInBounds]
      omega
    · simp only [writeEntry, Attempt.state_map, Attempt.state_within, slots']
      omega

/-- A list column is written in range: once child slots are taken the child column has them all, and
if they are refused nothing is written. -/
theorem checkedWriteList_eq {attributes : Attributes} {element : DataType}
    {extra : List (String × DataType)}
    (same : ∀ value slot child, Fits growable element child → slot < child.slots →
      checked value slot child = some (writer value slot child))
    (reshaped : ∀ value slot child, Fits growable element child →
      Reshaped growable element child.slots (writer value slot child).state)
    {column : Column} (fits : Fits growable (.list attributes element extra) column) {row : Nat}
    (inside : row < column.slots) (value : Json) :
    checkedWriteList checked value row column = some (writeList writer value row column) := by
  obtain ⟨nulls, index, child, rfl, -, -, -, childFits⟩ := fits.exists_list
  cases value with
  | array items =>
    rw [checkedWriteList, writeList]
    cases started : startList row items.length index child with
    | error failure => rfl
    | ok begun =>
      obtain ⟨offset, index', child'⟩ := begun
      obtain ⟨rfl, -, -, -, enough, growth, rfl⟩ := startList_eq_ok started
      have there : row < index.spans.size := inside
      simp only [if_pos there, checkedWriteElements_eq same reshaped items _ _
        (childFits.growIf growth) enough]
      rfl
  | null | bool | int | real | text | object => rfl

/-- A map column is written in range, in its keys and in its values. -/
theorem checkedWriteMap_eq {attributes : Attributes} {key entry : DataType}
    {extra : List (String × DataType)}
    (same : ∀ value slot values, Fits growable entry values → slot < values.slots →
      checked value slot values = some (writer value slot values))
    (reshaped : ∀ value slot values, Fits growable entry values →
      Reshaped growable entry values.slots (writer value slot values).state)
    {column : Column} (fits : Fits growable (.map attributes key entry extra) column) {row : Nat}
    (inside : row < column.slots) (value : Json) :
    checkedWriteMap checked value row column = some (writeMap writer value row column) := by
  obtain ⟨nulls, index, keys, values, rfl, -, -, -, -, valuesFit⟩ := fits.exists_map
  cases value with
  | object members =>
    rw [checkedWriteMap, writeMap]
    cases started : startMap row members.length index ⟨keys, values⟩ with
    | error failure => rfl
    | ok begun =>
      obtain ⟨offset, index', entries'⟩ := begun
      obtain ⟨rfl, -, -, -, keyRoom, enough, ⟨growth, sameValues⟩, -⟩ := startMap_eq_ok started
      have there : row < index.spans.size := inside
      have grown : Fits growable entry entries'.values := sameValues ▸ valuesFit.growIf growth
      simp only [if_pos there, checkedWriteEntries_eq same reshaped members _ entries' grown keyRoom
        enough]
      rfl
  | null | bool | int | real | text | array => rfl

end

mutual

/-- A write into a row of a column that fits its type is in range. -/
theorem checkedWrite_eq (growable : Bool) (policy : CellPolicy) : (type : DataType) →
    (value : Json) → (row : Nat) → (column : Column) → Fits growable type column →
      row < column.slots →
        checkedWrite policy type value row column = some (write policy type value row column)
  | .leaf kind attributes extra, value, row, column, fits, inside => by
    rw [checkedWrite, write]
    refine checkedGuard_eq fits inside (checkedWriteLeaf_eq fits inside value) ?_
    have same := writeLeaf_eq fits value row
    cases encoded : LeafCell.encode kind attributes value with
    | error failure =>
      rw [same, encoded]
      exact ⟨fits, rfl⟩
    | ok cell =>
      rw [same, encoded]
      exact ⟨FitsPrimitive.place fits row cell, slots_place row cell column⟩
  | .struct attributes types, value, row, column, fits, inside => by
    rw [checkedWrite, write]
    refine checkedGuard_eq fits inside ?_ (reshaped_writeStruct
      (fun members size fields => fitsFields_writeFields growable policy types size members row
        fields) fits value)
    obtain ⟨nulls, fields, rfl, -, fieldsFit⟩ := fits.exists_struct
    cases value with
    | object members =>
      rw [checkedWriteStruct, writeStruct,
        checkedWriteFields_eq growable policy types members row nulls.size fields fieldsFit inside]
      rfl
    | null | bool | int | real | text | array => rfl
  | .list _ element _, value, row, column, fits, inside => by
    rw [checkedWrite, write]
    exact checkedGuard_eq fits inside
      (checkedWriteList_eq (checkedWrite_eq growable policy element)
        (reshaped_write growable policy element) fits inside value)
      (reshaped_writeList
        (fun value slot child fits => (reshaped_write growable policy element value slot child fits).1)
        fits value row)
  | .map _ _ entry _, value, row, column, fits, inside => by
    rw [checkedWrite, write]
    exact checkedGuard_eq fits inside
      (checkedWriteMap_eq (checkedWrite_eq growable policy entry)
        (reshaped_write growable policy entry) fits inside value)
      (reshaped_writeMap
        (fun value slot values fits => (reshaped_write growable policy entry value slot values fits).1)
        fits value row)
termination_by structural type => type

/-- The fields of a struct are written in range at every row that the struct has. -/
theorem checkedWriteFields_eq (growable : Bool) (policy : CellPolicy) :
    (types : List (String × DataType)) → (members : Json.Members) → (row size : Nat) →
      (columns : List (String × Column)) → FitsFields growable size types columns → row < size →
        checkedWriteFields policy types members row columns =
          some (writeFields policy types members row columns)
  | [], _, _, _, _, _, _ => rfl
  | _ :: _, _, _, _, [], _, _ => rfl
  | (name, type) :: types, members, row, size, (_, column) :: columns, ⟨_, enough, columnFits, restFit⟩,
      inside => by
    have here : row < column.slots := Nat.lt_of_lt_of_le inside enough
    have first : checkedWriteMember (checkedWrite policy type) name (members.get? name) row column =
        some (writeMember (write policy type) name (members.get? name) row column) := by
      cases members.get? name with
      | none =>
        rw [checkedWriteMember, checkedSetNull_eq columnFits here]
        rfl
      | some value =>
        rw [checkedWriteMember, checkedWrite_eq growable policy type value row column columnFits here]
        rfl
    rw [checkedWriteFields, writeFields, first,
      checkedWriteFields_eq growable policy types members row size columns restFit inside]
    simp only [bind, Option.bind]
    cases (writeMember (write policy type) name (members.get? name) row column).failure <;> rfl
termination_by structural types => types

end

end Column

end Columnar
