import Columnar.Column.Read
import Columnar.Column.Write
import Columnar.Proofs.Column.Parts
/-!
# Leaf columns

A leaf column knows three things about a value: it becomes a cell, it becomes null, or it is refused.
Which of them depends on the value and on the type alone (`LeafCell.encode`), so a write is an
encoding followed by a placement (`writeLeaf_eq`). Everything else that is said of leaf columns is
said of placements: the row that was written reads as the cell, and no other row changes.
-/

set_option autoImplicit false

namespace Columnar

open Columnar.Number (Binary64)
open Columnar.Time (Instant)

/-- What a leaf column stores in a row that is not null. -/
inductive LeafCell where
  | long (value : Int64)
  | double (value : Binary64)
  | bytes (value : ByteArray)
  | decimal (unscaled : Int)
  | timestamp (value : Instant)

namespace LeafCell

/-- The kind of column that a cell belongs in. -/
def kind : LeafCell → ColumnKind
  | long _ => .long
  | double _ => .double
  | bytes _ => .bytes
  | decimal _ => .decimal
  | timestamp _ => .timestamp

/-- The cell of a value that is not null in a column of a type. A decimal beyond the precision has
none, and is null. -/
def encode (kind : Primitive) (attributes : Attributes) (value : Json) :
    Except Failure (Option LeafCell) :=
  match kind with
  | .boolean => do
    let b ← value.toBool
    return some (long (if b then 1 else 0))
  | .integer width => do
    let n ← value.toInteger (.primitive (.integer width))
    return some (long n)
  | .real width => do
    let x ← value.toReal (.primitive (.real width))
    return some (double x)
  | .text kind => do
    let text ← value.toText (.primitive (.text kind))
    return some (bytes text.toUTF8)
  | .binary => do
    let text ← value.toText (.primitive .binary)
    match Text.Hex.decode? text with
    | some decoded => return some (bytes decoded)
    | none => .error (.invalidBinary text)
  | .decimal => do
    let text ← value.toText (.primitive .decimal)
    match Number.Decimal.parse text attributes.precision attributes.scale with
    | .ok unscaled => return some (decimal unscaled)
    | .error .precisionExceeded => return none
    | .error .malformed => .error (.invalidDecimal text)
  | .timestamp => do
    let text ← value.toText (.primitive .timestamp)
    match Time.DateTime.parse? text with
    | some time => return some (timestamp time.toInstant)
    | none => .error (.invalidTimestamp text)

/-- The value that a cell reads as in a column of a type. -/
def read (kind : Primitive) (attributes : Attributes) : LeafCell → Json
  | long n => kind.readLong n
  | double x => readDouble x
  | bytes b => readBytes (kind == .binary) b
  | decimal unscaled => readDecimal attributes.scale unscaled
  | timestamp time => readTimestamp time

/-- A value is encoded as a cell of the kind that its column stores. -/
theorem kind_of_encode {primitive : Primitive} {attributes : Attributes} {value : Json}
    {cell : LeafCell} (encoded : encode primitive attributes value = .ok (some cell)) :
    cell.kind = primitive.columnKind := by
  cases primitive <;> simp only [encode, bind, Except.bind, pure, Except.pure] at encoded <;>
    (repeat' split at encoded) <;> cases encoded <;> rfl

end LeafCell

namespace Column

/-- A leaf column stores its cells as its type says, with sound flags. -/
def FitsPrimitive (kind : Primitive) (attributes : Attributes) : Column → Prop
  | long stored cells => stored = kind ∧ kind.columnKind = .long ∧ cells.Sound
  | double cells => kind.columnKind = .double ∧ cells.Sound
  | bytes cells => kind.columnKind = .bytes ∧ cells.binary = (kind == .binary) ∧ cells.Sound
  | decimal precision scale cells =>
    kind = .decimal ∧ precision = attributes.precision ∧ scale = attributes.scale ∧ cells.Sound
  | timestamp cells => kind = .timestamp ∧ cells.Sound
  | _ => False

/-- Writes a cell into a row of a column of its kind. -/
def putCell (row : Nat) : LeafCell → Column → Column
  | .long n, long kind cells => long kind (cells.set row n)
  | .double x, double cells => double (cells.set row x)
  | .bytes b, bytes cells => bytes (cells.set row b)
  | .decimal unscaled, decimal precision scale cells =>
    decimal precision scale (cells.set row unscaled)
  | .timestamp time, timestamp cells => timestamp (cells.set row time)
  | _, column => column

/-- Writes a cell into a row, or makes the row null if there is none. -/
def place (row : Nat) (cell : Option LeafCell) (column : Column) : Column :=
  match cell with
  | some cell => putCell row cell column
  | none => setNull row column

/-- The bytes of a row, in a column that stores bytes, lie inside its buffer. -/
def Settled (row : Nat) : Column → Prop
  | bytes cells => cells.Settled row
  | _ => True

variable {kind : Primitive} {attributes : Attributes} {column : Column}

/-- Writing a value into a leaf column places the cell that the value encodes to. -/
theorem writeLeaf_eq (fits : FitsPrimitive kind attributes column) (value : Json) (row : Nat) :
    writeLeaf kind value row column =
      (LeafCell.encode kind attributes value).map fun cell => place row cell column := by
  cases column with
  | long stored cells =>
    obtain ⟨rfl, stores, -⟩ := fits
    -- The kind that is stored tells the conversions apart; kinds of other columns do not fit.
    cases stored with
    | boolean =>
      simp only [writeLeaf, LeafCell.encode]
      cases value.toBool <;> rfl
    | integer width =>
      simp only [writeLeaf, LeafCell.encode]
      cases value.toInteger _ <;> rfl
    | real | text | decimal | timestamp | binary => cases stores
  | double cells =>
    obtain ⟨stores, -⟩ := fits
    cases kind with
    | real width =>
      simp only [writeLeaf, LeafCell.encode]
      cases value.toReal _ <;> rfl
    | boolean | integer | text | decimal | timestamp | binary => cases stores
  | bytes cells =>
    obtain ⟨stores, -, -⟩ := fits
    cases kind with
    | text kind =>
      simp only [writeLeaf, LeafCell.encode]
      cases value.toText _ <;> rfl
    | binary =>
      simp only [writeLeaf, LeafCell.encode]
      cases value.toText _ with
      | error failure => rfl
      | ok text =>
        simp only [bind, Except.bind]
        cases Text.Hex.decode? text <;> rfl
    | boolean | integer | real | decimal | timestamp => cases stores
  | decimal precision scale cells =>
    obtain ⟨rfl, rfl, rfl, -⟩ := fits
    simp only [writeLeaf, LeafCell.encode]
    cases value.toText _ with
    | error failure => rfl
    | ok text =>
      simp only [bind, Except.bind]
      cases Number.Decimal.parse text attributes.precision attributes.scale with
      | ok unscaled => rfl
      | error refusal => cases refusal <;> rfl
  | timestamp cells =>
    obtain ⟨rfl, -⟩ := fits
    simp only [writeLeaf, LeafCell.encode]
    cases value.toText _ with
    | error failure => rfl
    | ok text =>
      simp only [bind, Except.bind]
      cases Time.DateTime.parse? text <;> rfl
  | struct nulls fields => exact fits.elim
  | list nulls index child => exact fits.elim
  | map nulls index keys values => exact fits.elim

/-! ### Flagging and placing, for every row -/

@[simp] theorem slots_setNull (row : Nat) (column : Column) :
    (setNull row column).slots = column.slots := by
  cases column <;> simp [setNull, slots]

/-- Flagging a row of a column flags it in its mask. -/
theorem nulls_setNull (row : Nat) (column : Column) :
    (setNull row column).nulls = column.nulls.setNull row := by
  cases column <;> rfl

/-- A null row reads as null, whatever its cell holds. -/
theorem valueAt_of_isNull {column : Column} {row : Nat} (null : column.isNull row = true) :
    valueAt column row = .null := by
  cases column <;> simp_all [isNull, nulls, valueAt, Cells.get?, ByteCells.get?, Json.ofOption]

/-- Flagging a row changes no answer about another. -/
theorem isNull_setNull_of_ne {column : Column} (consistent : column.nulls.Consistent)
    {row other : Nat} (h : other ≠ row) :
    (setNull row column).isNull other = column.isNull other := by
  rw [isNull, nulls_setNull, NullMask.isNull_setNull_of_ne consistent h, isNull]

@[simp] theorem slots_putCell (row : Nat) (cell : LeafCell) (column : Column) :
    (putCell row cell column).slots = column.slots := by
  cases column <;> cases cell <;> simp [putCell, slots, Cells.set, ByteCells.set]

@[simp] theorem nulls_putCell (row : Nat) (cell : LeafCell) (column : Column) :
    (putCell row cell column).nulls = column.nulls := by
  cases column <;> cases cell <;> rfl

@[simp] theorem slots_place (row : Nat) (cell : Option LeafCell) (column : Column) :
    (place row cell column).slots = column.slots := by
  cases cell <;> simp [place]

namespace FitsPrimitive

/-- No flag of a leaf column is set while its fast path is taken. -/
theorem consistent (fits : FitsPrimitive kind attributes column) : column.nulls.Consistent := by
  cases column <;> simp only [FitsPrimitive] at fits
  case long => exact fits.2.2.consistent
  case double => exact fits.2.consistent
  case bytes => exact fits.2.2.consistent
  case decimal => exact fits.2.2.2.consistent
  case timestamp => exact fits.2.consistent

/-- A leaf column is of the kind that its type is stored as. -/
theorem kind_eq (fits : FitsPrimitive kind attributes column) :
    column.kind = kind.columnKind := by
  cases column <;> simp only [FitsPrimitive] at fits
  case long => exact fits.2.1.symm
  case double => exact fits.1.symm
  case bytes => exact fits.1.symm
  case decimal => rw [fits.1]; rfl
  case timestamp => rw [fits.1]; rfl

/-- A leaf column has a flag for each cell. -/
theorem size_nulls (fits : FitsPrimitive kind attributes column) :
    column.nulls.size = column.slots := by
  cases column <;> simp only [FitsPrimitive] at fits
  case long => exact fits.2.2.size_nulls
  case double => exact fits.2.size_nulls
  case bytes => exact fits.2.2.size_nulls
  case decimal => exact fits.2.2.2.size_nulls
  case timestamp => exact fits.2.size_nulls

/-- A flag changes neither the type nor the number of cells. -/
protected theorem setNull (fits : FitsPrimitive kind attributes column) (row : Nat) :
    FitsPrimitive kind attributes (setNull row column) := by
  cases column <;> simp only [FitsPrimitive, Column.setNull] at fits ⊢
  case long => exact ⟨fits.1, fits.2.1, fits.2.2.setNull row⟩
  case double => exact ⟨fits.1, fits.2.setNull row⟩
  case bytes => exact ⟨fits.1, fits.2.1, fits.2.2.setNull row⟩
  case decimal => exact ⟨fits.1, fits.2.1, fits.2.2.1, fits.2.2.2.setNull row⟩
  case timestamp => exact ⟨fits.1, fits.2.setNull row⟩

/-- A cell that is stored changes neither the type nor the number of cells. -/
protected theorem putCell (fits : FitsPrimitive kind attributes column) (row : Nat)
    (cell : LeafCell) : FitsPrimitive kind attributes (putCell row cell column) := by
  cases column <;> cases cell <;> try exact fits
  case long => exact ⟨fits.1, fits.2.1, fits.2.2.set row _⟩
  case double => exact ⟨fits.1, fits.2.set row _⟩
  case bytes => exact ⟨fits.1, fits.2.1, fits.2.2.set row _⟩
  case decimal => exact ⟨fits.1, fits.2.1, fits.2.2.1, fits.2.2.2.set row _⟩
  case timestamp => exact ⟨fits.1, fits.2.set row _⟩

/-- Placing a cell or null changes neither the type nor the number of cells. -/
protected theorem place (fits : FitsPrimitive kind attributes column) (row : Nat)
    (cell : Option LeafCell) : FitsPrimitive kind attributes (place row cell column) := by
  cases cell with
  | none => exact fits.setNull row
  | some cell => exact fits.putCell row cell

/-- More cells are of the same type, each with its flag. -/
protected theorem grow (fits : FitsPrimitive kind attributes column) (size : Nat) :
    FitsPrimitive kind attributes (grow size column) := by
  cases column <;> simp only [FitsPrimitive, Column.grow] at fits ⊢
  case long => exact ⟨fits.1, fits.2.1, fits.2.2.grow size⟩
  case double => exact ⟨fits.1, fits.2.grow size⟩
  case bytes => exact ⟨fits.1, fits.2.1, fits.2.2.grow size⟩
  case decimal => exact ⟨fits.1, fits.2.1, fits.2.2.1, fits.2.2.2.grow size⟩
  case timestamp => exact ⟨fits.1, fits.2.grow size⟩

/-- A reset leaves the cells of their type. -/
protected theorem reset (fits : FitsPrimitive kind attributes column) :
    FitsPrimitive kind attributes (reset column) := by
  cases column <;> simp only [FitsPrimitive, Column.reset] at fits ⊢
  case long => exact ⟨fits.1, fits.2.1, fits.2.2.reset⟩
  case double => exact ⟨fits.1, fits.2.reset⟩
  case bytes => exact ⟨fits.1, fits.2.1, fits.2.2.reset⟩
  case decimal => exact ⟨fits.1, fits.2.1, fits.2.2.1, fits.2.2.2.reset⟩
  case timestamp => exact ⟨fits.1, fits.2.reset⟩

end FitsPrimitive

/-- A new leaf column fits its type. -/
theorem fitsPrimitive_ofPrimitive (kind : Primitive) (attributes : Attributes) (size : Nat) :
    FitsPrimitive kind attributes (ofPrimitive kind attributes size) := by
  cases kind with
  | boolean => exact ⟨rfl, rfl, Cells.sound_ofSize size⟩
  | integer width => exact ⟨rfl, rfl, Cells.sound_ofSize size⟩
  | real width => exact ⟨rfl, Cells.sound_ofSize size⟩
  | text kind => exact ⟨rfl, rfl, ByteCells.sound_ofSize false size⟩
  | decimal => exact ⟨rfl, rfl, rfl, Cells.sound_ofSize size⟩
  | timestamp => exact ⟨rfl, Cells.sound_ofSize size⟩
  | binary => exact ⟨rfl, rfl, ByteCells.sound_ofSize true size⟩

/-- What is read of a cell that may be null is null or what is read of its content. -/
theorem ofOption_ite {α : Type} (read : α → Json) (null : Bool) (a : α) :
    Json.ofOption read (if null then none else some a) = if null then .null else read a := by
  cases null <;> rfl

/-- The row that a cell was put into reads as the cell, unless the row was null before. -/
theorem valueAt_putCell_self (fits : FitsPrimitive kind attributes column) {row : Nat}
    (inside : row < column.slots) {cell : LeafCell} (belongs : cell.kind = kind.columnKind) :
    valueAt (putCell row cell column) row =
      if column.isNull row then .null else cell.read kind attributes := by
  cases column <;> simp only [FitsPrimitive, slots] at fits inside
  case long stored cells =>
    obtain ⟨rfl, stores, -⟩ := fits
    cases cell <;> rw [stores] at belongs <;> cases belongs
    simp only [putCell, valueAt, Cells.get?_set_self _ _ inside, ofOption_ite, LeafCell.read]
    rfl
  case double cells =>
    cases cell <;> rw [fits.1] at belongs <;> cases belongs
    simp only [putCell, valueAt, Cells.get?_set_self _ _ inside, ofOption_ite, LeafCell.read]
    rfl
  case bytes cells =>
    cases cell <;> rw [fits.1] at belongs <;> cases belongs
    simp only [putCell, valueAt, ByteCells.get?_set_self _ _ inside, ofOption_ite,
      ByteCells.binary_set, fits.2.1, LeafCell.read]
    rfl
  case decimal precision scale cells =>
    obtain ⟨rfl, rfl, rfl, -⟩ := fits
    cases cell <;> cases belongs
    simp only [putCell, valueAt, Cells.get?_set_self _ _ inside, ofOption_ite, LeafCell.read]
    rfl
  case timestamp cells =>
    obtain ⟨rfl, -⟩ := fits
    cases cell <;> cases belongs
    simp only [putCell, valueAt, Cells.get?_set_self _ _ inside, ofOption_ite, LeafCell.read]
    rfl

/-- Bytes that were just stored lie inside the buffer. -/
theorem settled_putCell_self {row : Nat} (inside : row < column.slots) {cell : LeafCell}
    (belongs : cell.kind = column.kind) : Settled row (putCell row cell column) := by
  cases column <;> cases cell <;> cases belongs <;> try trivial
  case bytes cells b => exact ByteCells.settled_set_self cells row b inside

/-- Placing a cell changes what no other row reads as, as long as its bytes are settled. -/
theorem valueAt_place_of_ne (fits : FitsPrimitive kind attributes column) {row other : Nat}
    (h : other ≠ row) (settled : Settled other column) (cell : Option LeafCell) :
    valueAt (place row cell column) other = valueAt column other := by
  cases column <;> simp only [FitsPrimitive] at fits
  case long stored cells =>
    cases cell with
    | none => simp only [place, setNull, valueAt, Cells.get?_setNull_of_ne fits.2.2 h]
    | some cell =>
      cases cell <;> simp only [place, putCell, valueAt, Cells.get?_set_of_ne _ _ h]
  case double cells =>
    cases cell with
    | none => simp only [place, setNull, valueAt, Cells.get?_setNull_of_ne fits.2 h]
    | some cell =>
      cases cell <;> simp only [place, putCell, valueAt, Cells.get?_set_of_ne _ _ h]
  case bytes cells =>
    cases cell with
    | none => simp only [place, setNull, valueAt, ByteCells.get?_setNull_of_ne fits.2.2 h]
    | some cell =>
      cases cell <;>
        simp only [place, putCell, valueAt, ByteCells.get?_set_of_ne _ h settled,
          ByteCells.binary_set]
  case decimal precision scale cells =>
    cases cell with
    | none => simp only [place, setNull, valueAt, Cells.get?_setNull_of_ne fits.2.2.2 h]
    | some cell =>
      cases cell <;> simp only [place, putCell, valueAt, Cells.get?_set_of_ne _ _ h]
  case timestamp cells =>
    cases cell with
    | none => simp only [place, setNull, valueAt, Cells.get?_setNull_of_ne fits.2 h]
    | some cell =>
      cases cell <;> simp only [place, putCell, valueAt, Cells.get?_set_of_ne _ _ h]

/-- Bytes of other rows stay inside the buffer, since it only gets longer. -/
theorem settled_place_of_ne {row other : Nat} (h : other ≠ row) (settled : Settled other column)
    (cell : Option LeafCell) : Settled other (place row cell column) := by
  cases cell with
  | none => cases column <;> exact settled
  | some cell =>
    cases column <;> cases cell <;> try exact settled
    case bytes cells b => exact ByteCells.settled_set_of_ne b h settled

/-- Growing a leaf column changes no row that it has. -/
theorem valueAt_grow_of_fitsPrimitive (fits : FitsPrimitive kind attributes column) (size : Nat)
    {row : Nat} (inside : row < column.slots) :
    valueAt (grow size column) row = valueAt column row := by
  cases column <;> simp only [FitsPrimitive, slots] at fits inside
  case long => simp only [grow, valueAt, Cells.get?_grow _ size inside]
  case double => simp only [grow, valueAt, Cells.get?_grow _ size inside]
  case bytes =>
    simp only [grow, valueAt, ByteCells.get?_grow _ size inside, ByteCells.binary_grow]
  case decimal => simp only [grow, valueAt, Cells.get?_grow _ size inside]
  case timestamp => simp only [grow, valueAt, Cells.get?_grow _ size inside]

/-- Bytes of old rows stay inside the buffer when there are more rows. -/
theorem settled_grow_of_fitsPrimitive (fits : FitsPrimitive kind attributes column) (size : Nat)
    {row : Nat} (inside : row < column.slots) (settled : Settled row column) :
    Settled row (grow size column) := by
  cases column <;> simp only [FitsPrimitive] at fits <;> try exact settled
  case bytes cells => exact ByteCells.settled_grow size inside settled

end Column

namespace LeafCell

/-- What a policy makes of a value in a column of a type: a cell, null, or a failure. -/
def outcome (policy : CellPolicy) (kind : Primitive) (attributes : Attributes) (value : Json) :
    Except Failure (Option LeafCell) :=
  if value.isNull then .ok none
  else
    match encode kind attributes value with
    | .ok cell => .ok cell
    | .error failure => if policy = .nullCell then .ok none else .error failure

/-- A failure of two computations in a row is the failure of one of them. -/
theorem eq_error_of_bind {α β : Type} {first : Except Failure α} {second : α → Except Failure β}
    {failure : Failure} (failed : (first >>= second) = .error failure) :
    first = .error failure ∨ ∃ a, first = .ok a ∧ second a = .error failure := by
  cases first with
  | error cause =>
    cases failed
    exact .inl rfl
  | ok a => exact .inr ⟨a, rfl, failed⟩

/-- Two computations in a row go through if both of them do. -/
theorem eq_ok_of_bind {α β : Type} {first : Except Failure α} {second : α → Except Failure β}
    {b : β} (ok : (first >>= second) = .ok b) : ∃ a, first = .ok a ∧ second a = .ok b := by
  cases first with
  | error failure => cases ok
  | ok a => exact ⟨a, rfl, ok⟩

/-- A value that is refused for its kind fails as a cell. -/
theorem isCellFailure_of_check {category : Category} {value : Json} {failure : Failure}
    (refused : category.check value = .error failure) : failure.isCellFailure = true := by
  unfold Category.check at refused
  split at refused
  · cases refused
  · cases refused
    rfl

/-- A value that is no boolean fails as a cell. -/
theorem isCellFailure_of_toBool {value : Json} {failure : Failure}
    (refused : value.toBool = .error failure) : failure.isCellFailure = true := by
  obtain refused | ⟨_, -, refused⟩ := eq_error_of_bind refused
  · exact isCellFailure_of_check refused
  · split at refused <;> cases refused

/-- A value that is no number, or a number out of range, fails as a cell. -/
theorem isCellFailure_of_toInteger {value : Json} {category : Category} {failure : Failure}
    (refused : value.toInteger category = .error failure) : failure.isCellFailure = true := by
  obtain refused | ⟨_, -, refused⟩ := eq_error_of_bind refused
  · exact isCellFailure_of_check refused
  · split at refused
    · split at refused <;> cases refused
      rfl
    · cases refused
      rfl

/-- A value that is no number fails as a cell. -/
theorem isCellFailure_of_toReal {value : Json} {category : Category} {failure : Failure}
    (refused : value.toReal category = .error failure) : failure.isCellFailure = true := by
  obtain refused | ⟨_, -, refused⟩ := eq_error_of_bind refused
  · exact isCellFailure_of_check refused
  · cases refused

/-- A value that is no text fails as a cell. -/
theorem isCellFailure_of_toText {value : Json} {category : Category} {failure : Failure}
    (refused : value.toText category = .error failure) : failure.isCellFailure = true := by
  obtain refused | ⟨_, -, refused⟩ := eq_error_of_bind refused
  · exact isCellFailure_of_check refused
  · split at refused <;> cases refused
    rfl

/-- Whatever is wrong with a value in a leaf column is a failure of the cell. -/
theorem isCellFailure_of_encode {kind : Primitive} {attributes : Attributes} {value : Json}
    {failure : Failure} (refused : encode kind attributes value = .error failure) :
    failure.isCellFailure = true := by
  cases kind <;> obtain refused | ⟨_, -, refused⟩ := eq_error_of_bind refused
  case boolean.inl => exact isCellFailure_of_toBool refused
  case integer.inl => exact isCellFailure_of_toInteger refused
  case real.inl => exact isCellFailure_of_toReal refused
  case text.inl => exact isCellFailure_of_toText refused
  case decimal.inl => exact isCellFailure_of_toText refused
  case timestamp.inl => exact isCellFailure_of_toText refused
  case binary.inl => exact isCellFailure_of_toText refused
  case boolean.inr => cases refused
  case integer.inr => cases refused
  case real.inr => cases refused
  case text.inr => cases refused
  all_goals
    split at refused <;> cases refused
    rfl

/-- Under either policy what is stored is of the kind that the type is stored as. -/
theorem kind_of_outcome {policy : CellPolicy} {kind : Primitive} {attributes : Attributes}
    {value : Json} {cell : LeafCell}
    (written : outcome policy kind attributes value = .ok (some cell)) :
    cell.kind = kind.columnKind := by
  unfold outcome at written
  split at written
  · cases written
  · split at written
    · next encoded => cases written; exact kind_of_encode encoded
    · split at written <;> cases written

/-- A leaf fails only where failures are not turned into null, and with a failure of the cell. -/
theorem outcome_eq_error {policy : CellPolicy} {kind : Primitive} {attributes : Attributes}
    {value : Json} {failure : Failure}
    (refused : outcome policy kind attributes value = .error failure) :
    policy = .abort ∧ failure.isCellFailure = true := by
  unfold outcome at refused
  split at refused
  · cases refused
  · split at refused
    · cases refused
    · next encoded =>
      split at refused
      · cases refused
      · next strict =>
        cases refused
        refine ⟨?_, isCellFailure_of_encode encoded⟩
        cases policy with
        | abort => rfl
        | nullCell => exact absurd rfl strict

end LeafCell

/-- A write into a leaf column places what the policy makes of the value, or changes nothing. -/
theorem Column.write_leaf {kind : Primitive} {attributes : Attributes} {column : Column}
    (fits : Column.FitsPrimitive kind attributes column) (policy : CellPolicy)
    (extra : List (String × DataType)) (value : Json) (row : Nat) :
    Column.write policy (.leaf kind attributes extra) value row column =
      .ofExcept column
        ((LeafCell.outcome policy kind attributes value).map fun cell =>
          Column.place row cell column) := by
  rw [Column.write, Column.guard, LeafCell.outcome, Column.writeLeaf_eq fits]
  split
  · rfl
  · cases encoded : LeafCell.encode kind attributes value with
    | ok cell => rfl
    | error failure =>
      simp only [Except.map, Attempt.ofExcept, Attempt.failure_failed, Attempt.state_failed,
        LeafCell.isCellFailure_of_encode encoded, and_true]
      split <;> rfl

end Columnar
