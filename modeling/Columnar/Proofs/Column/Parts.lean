import Columnar.Column.Cells
import Columnar.Column.ChildIndex
/-!
# Reading the parts of a column after each operation

A column is put together from null flags, cells and child indexes. For each of these parts and each
operation on it, this file says what every row reads afterwards: the row that the operation is about,
and all others, which stay as they were. The one fact that is not local is that the fast path of the
null flags is right (`NullMask.Consistent`).
-/

set_option autoImplicit false

namespace Columnar

/-! ### Null flags -/

namespace NullMask

/-- As long as no row is said to be null, no flag is set. -/
def Consistent (mask : NullMask) : Prop :=
  mask.noNulls = true → ∀ row, mask.flags.getD row false = false

/-- The fast path of a consistent mask agrees with its flags. -/
theorem isNull_eq_flag {mask : NullMask} (consistent : mask.Consistent) (row : Nat) :
    mask.isNull row = mask.flags.getD row false := by
  unfold isNull
  cases quiet : mask.noNulls with
  | true => simp [consistent quiet row]
  | false => simp

/-- A new mask has no flag set. -/
theorem consistent_ofSize (size : Nat) : (ofSize size).Consistent := by
  intro _ row
  simp only [ofSize, Array.getD_eq_getD_getElem?, Array.getElem?_replicate]
  split <;> rfl

/-- A mask with a flagged row is off the fast path, so there is nothing to agree with. -/
theorem consistent_setNull (mask : NullMask) (row : Nat) : (mask.setNull row).Consistent :=
  fun quiet => absurd quiet (by simp [setNull])

/-- New rows are not null, and old ones are as before. -/
@[simp] theorem isNull_grow (mask : NullMask) (size row : Nat) :
    (mask.grow size).isNull row = mask.isNull row := by
  have same : (growTo mask.flags size false).getD row false = mask.flags.getD row false := by
    simp only [growTo, Array.getD_eq_getD_getElem?, Array.getElem?_append,
      Array.getElem?_replicate]
    by_cases inside : row < mask.flags.size
    · rw [if_pos inside]
    · rw [if_neg inside, Array.getElem?_eq_none (by omega)]
      split <;> rfl
  simp only [isNull, grow, same]

/-- The flags of new rows are not set, so the fast path stays right. -/
theorem consistent_grow {mask : NullMask} (consistent : mask.Consistent) (size : Nat) :
    (mask.grow size).Consistent := by
  intro quiet row
  have before : mask.isNull row = false := by
    rw [isNull_eq_flag consistent]
    exact consistent quiet row
  have after : (mask.grow size).isNull row = false := by rw [isNull_grow, before]
  by_cases inside : row < mask.flags.size
  · have same : (mask.grow size).flags.getD row false = mask.flags.getD row false := by
      simp only [grow, Array.getD_eq_getD_getElem?, getElem?_growTo_of_lt _ _ _ inside]
    rw [same]
    exact consistent quiet row
  · simp only [grow, growTo, Array.getD_eq_getD_getElem?, Array.getElem?_append, if_neg inside,
      Array.getElem?_replicate]
    split <;> rfl

/-- After a reset no flag is set, whether the reset went through the flags or there was none set
before. -/
theorem consistent_reset {mask : NullMask} (consistent : mask.Consistent) :
    mask.reset.Consistent := by
  unfold reset
  split
  · exact consistent
  · intro _ row
    simp only [Array.getD_eq_getD_getElem?, Array.getElem?_map]
    cases mask.flags[row]? <;> rfl

/-- No row of a new mask is null. -/
@[simp] theorem isNull_ofSize (size row : Nat) : (ofSize size).isNull row = false := by
  simp [isNull, ofSize]

/-- Flagging a row changes no answer about another. If the mask leaves the fast path here, the other
flags were not set all along. -/
theorem isNull_setNull_of_ne {mask : NullMask} (consistent : mask.Consistent) {row other : Nat}
    (h : other ≠ row) : (mask.setNull row).isNull other = mask.isNull other := by
  rw [isNull_eq_flag consistent, isNull_eq_flag (consistent_setNull mask row)]
  simp only [setNull, Array.getD_eq_getD_getElem?, Array.getElem?_setIfInBounds_ne (Ne.symm h)]

end NullMask

/-! ### Cells of fixed size -/

namespace Cells

variable {α : Type}

/-- Every row has a flag, and the flags are consistent. -/
structure Sound (cells : Cells α) : Prop where
  consistent : cells.nulls.Consistent
  size_nulls : cells.nulls.size = cells.values.size

/-- New cells are sound. -/
theorem sound_ofSize [Inhabited α] (size : Nat) : (ofSize size : Cells α).Sound :=
  ⟨NullMask.consistent_ofSize size, by simp [ofSize]⟩

/-- Storing a value leaves flags and rows as they are. -/
theorem Sound.set {cells : Cells α} (sound : cells.Sound) (row : Nat) (value : α) :
    (cells.set row value).Sound :=
  ⟨sound.consistent, by simpa [Cells.set] using sound.size_nulls⟩

/-- Flagging a row leaves as many flags as there are rows. -/
theorem Sound.setNull {cells : Cells α} (sound : cells.Sound) (row : Nat) :
    Sound { cells with nulls := cells.nulls.setNull row } :=
  ⟨NullMask.consistent_setNull cells.nulls row, by simpa using sound.size_nulls⟩

/-- New rows come with flags. -/
theorem Sound.grow [Inhabited α] {cells : Cells α} (sound : cells.Sound) (size : Nat) :
    (cells.grow size).Sound :=
  ⟨NullMask.consistent_grow sound.consistent size, by simp [Cells.grow, sound.size_nulls]⟩

/-- A reset leaves as many flags as there are rows. -/
theorem Sound.reset {cells : Cells α} (sound : cells.Sound) : cells.reset.Sound :=
  ⟨NullMask.consistent_reset sound.consistent, by simpa [Cells.reset] using sound.size_nulls⟩

/-- A row that was just written reads as the value, unless it was null before. -/
theorem get?_set_self (cells : Cells α) {row : Nat} (value : α) (inside : row < cells.values.size) :
    (cells.set row value).get? row = if cells.nulls.isNull row then none else some value := by
  simp [get?, Cells.set, inside]

/-- Storing a value changes no other row. -/
theorem get?_set_of_ne (cells : Cells α) {row other : Nat} (value : α) (h : other ≠ row) :
    (cells.set row value).get? other = cells.get? other := by
  simp only [get?, Cells.set, Array.getElem?_setIfInBounds_ne (Ne.symm h)]

/-- Flagging a row changes no other row. -/
theorem get?_setNull_of_ne {cells : Cells α} (sound : cells.Sound) {row other : Nat}
    (h : other ≠ row) :
    get? { cells with nulls := cells.nulls.setNull row } other = cells.get? other := by
  simp only [get?, NullMask.isNull_setNull_of_ne sound.consistent h]

/-- Old rows read as before when there are more. -/
theorem get?_grow [Inhabited α] (cells : Cells α) (size : Nat) {row : Nat}
    (inside : row < cells.values.size) :
    (cells.grow size).get? row = cells.get? row := by
  simp only [get?, Cells.grow, NullMask.isNull_grow, getElem?_growTo_of_lt _ _ _ inside]

end Cells

/-! ### Text and binary cells -/

namespace ByteCells

/-- Every row has a flag, and the flags are consistent. -/
structure Sound (cells : ByteCells) : Prop where
  consistent : cells.nulls.Consistent
  size_nulls : cells.nulls.size = cells.spans.size

/-- The bytes of a row lie inside the buffer, so that nothing written behind them changes them. -/
def Settled (cells : ByteCells) (row : Nat) : Prop :=
  ∀ span, cells.spans[row]? = some span → span.start + span.length ≤ cells.buffer.size

/-- New byte cells are sound. -/
theorem sound_ofSize (binary : Bool) (size : Nat) : (ofSize binary size).Sound :=
  ⟨NullMask.consistent_ofSize size, by simp [ofSize]⟩

/-- Storing bytes leaves flags and rows as they are; only the buffer gets longer. -/
theorem Sound.set {cells : ByteCells} (sound : cells.Sound) (row : Nat) (bytes : ByteArray) :
    (cells.set row bytes).Sound :=
  ⟨sound.consistent, by simpa [ByteCells.set] using sound.size_nulls⟩

/-- Flagging a row leaves as many flags as there are rows. -/
theorem Sound.setNull {cells : ByteCells} (sound : cells.Sound) (row : Nat) :
    Sound { cells with nulls := cells.nulls.setNull row } :=
  ⟨NullMask.consistent_setNull cells.nulls row, by simpa using sound.size_nulls⟩

/-- New rows come with flags, and with spans of no length. -/
theorem Sound.grow {cells : ByteCells} (sound : cells.Sound) (size : Nat) :
    (cells.grow size).Sound :=
  ⟨NullMask.consistent_grow sound.consistent size, by simp [ByteCells.grow, sound.size_nulls]⟩

/-- A reset empties the buffer and takes the flags back, but keeps rows and spans. -/
theorem Sound.reset {cells : ByteCells} (sound : cells.Sound) : cells.reset.Sound :=
  ⟨NullMask.consistent_reset sound.consistent, by simpa [ByteCells.reset] using sound.size_nulls⟩

@[simp] theorem binary_set (cells : ByteCells) (row : Nat) (bytes : ByteArray) :
    (cells.set row bytes).binary = cells.binary := rfl

@[simp] theorem binary_grow (cells : ByteCells) (size : Nat) :
    (cells.grow size).binary = cells.binary := rfl

/-- A piece of a buffer stays the same when more bytes are put behind the buffer. -/
theorem extract_append_of_le {buffer : ByteArray} (more : ByteArray) {start stop : Nat}
    (inside : stop ≤ buffer.size) :
    (buffer ++ more).extract start stop = buffer.extract start stop := by
  rw [ByteArray.extract_append]
  have nothing : more.extract (start - buffer.size) (stop - buffer.size) = ByteArray.empty := by
    rw [ByteArray.extract_eq_empty_iff]
    omega
  rw [nothing, ByteArray.append_empty]

/-- A row that was just written reads as the bytes, unless it was null before. -/
theorem get?_set_self (cells : ByteCells) {row : Nat} (bytes : ByteArray)
    (inside : row < cells.spans.size) :
    (cells.set row bytes).get? row = if cells.nulls.isNull row then none else some bytes := by
  have piece : (cells.buffer ++ bytes).extract cells.buffer.size
      (cells.buffer.size + bytes.size) = bytes :=
    ByteArray.extract_append_eq_right rfl rfl
  simp [get?, ByteCells.set, inside, piece]

/-- The bytes that were just stored lie inside the buffer. -/
theorem settled_set_self (cells : ByteCells) (row : Nat) (bytes : ByteArray)
    (inside : row < cells.spans.size) : (cells.set row bytes).Settled row := by
  intro span found
  simp only [ByteCells.set, Array.getElem?_setIfInBounds_self_of_lt inside,
    Option.some.injEq] at found
  subst found
  simp [ByteCells.set, ByteArray.size_append]

/-- Storing bytes puts them behind the buffer, so other rows that lie inside it read as before. -/
theorem get?_set_of_ne {cells : ByteCells} {row other : Nat} (bytes : ByteArray) (h : other ≠ row)
    (settled : cells.Settled other) : (cells.set row bytes).get? other = cells.get? other := by
  simp only [get?, ByteCells.set, Array.getElem?_setIfInBounds_ne (Ne.symm h)]
  cases found : cells.spans[other]? with
  | none => rfl
  | some span => simp only [Option.map_some, extract_append_of_le bytes (settled span found)]

/-- Other rows that lie inside the buffer still do when it gets longer. -/
theorem settled_set_of_ne {cells : ByteCells} {row other : Nat} (bytes : ByteArray) (h : other ≠ row)
    (settled : cells.Settled other) : (cells.set row bytes).Settled other := by
  intro span found
  simp only [ByteCells.set, Array.getElem?_setIfInBounds_ne (Ne.symm h)] at found
  have before := settled span found
  simp only [ByteCells.set, ByteArray.size_append]
  omega

/-- Flagging a row changes no other row. -/
theorem get?_setNull_of_ne {cells : ByteCells} (sound : cells.Sound) {row other : Nat}
    (h : other ≠ row) :
    get? { cells with nulls := cells.nulls.setNull row } other = cells.get? other := by
  simp only [get?, NullMask.isNull_setNull_of_ne sound.consistent h]

/-- A null row has no bytes, whatever its span says. -/
theorem get?_of_isNull (cells : ByteCells) {row : Nat} (null : cells.nulls.isNull row = true) :
    cells.get? row = none := by
  simp [get?, null]

/-- Old rows read as before when there are more. -/
theorem get?_grow (cells : ByteCells) (size : Nat) {row : Nat} (inside : row < cells.spans.size) :
    (cells.grow size).get? row = cells.get? row := by
  simp only [get?, ByteCells.grow, NullMask.isNull_grow, getElem?_growTo_of_lt _ _ _ inside]

/-- Old rows lie inside the buffer as before when there are more. -/
theorem settled_grow {cells : ByteCells} (size : Nat) {row : Nat} (inside : row < cells.spans.size)
    (settled : cells.Settled row) : (cells.grow size).Settled row := by
  intro span found
  simp only [ByteCells.grow, getElem?_growTo_of_lt _ _ _ inside] at found
  exact settled span found

/-- Cells that hold the keys of a map: text, and never null. -/
structure HoldKeys (cells : ByteCells) : Prop where
  sound : cells.Sound
  isText : cells.binary = false
  noNulls : cells.nulls.noNulls = true

namespace HoldKeys

variable {keys : ByteCells}

/-- Keys are never null. -/
theorem isNull (held : keys.HoldKeys) (slot : Nat) : keys.nulls.isNull slot = false := by
  simp [NullMask.isNull, held.noNulls]

/-- New keys have no flag. -/
protected theorem ofSize (size : Nat) : (ByteCells.ofSize false size).HoldKeys :=
  ⟨sound_ofSize false size, rfl, rfl⟩

/-- Storing a key sets no flag. -/
protected theorem set (held : keys.HoldKeys) (slot : Nat) (bytes : ByteArray) :
    (keys.set slot bytes).HoldKeys :=
  ⟨held.sound.set slot bytes, held.isText, held.noNulls⟩

/-- More keys have no flag either. -/
protected theorem grow (held : keys.HoldKeys) (size : Nat) : (keys.grow size).HoldKeys :=
  ⟨held.sound.grow size, held.isText, held.noNulls⟩

/-- After a reset keys have no flag. -/
protected theorem reset (held : keys.HoldKeys) : keys.reset.HoldKeys :=
  ⟨held.sound.reset, held.isText, by simp [ByteCells.reset, NullMask.reset, held.noNulls]⟩

end HoldKeys

end ByteCells

/-! ### Child indexes -/

namespace ChildIndex

/-- New rows have the empty span, which also stands for rows that there are not. -/
@[simp] theorem span_grow (index : ChildIndex) (size row : Nat) :
    (index.grow size).span row = index.span row := by
  simp only [span, grow, growTo, Array.getD_eq_getD_getElem?, Array.getElem?_append,
    Array.getElem?_replicate]
  by_cases inside : row < index.spans.size
  · rw [if_pos inside]
  · rw [if_neg inside, Array.getElem?_eq_none (by omega)]
    split <;> rfl

/-- What taking child slots does, if it goes through: the row gets the slots behind those taken, no
other row changes, and the child column has room for them once it has grown as told. -/
theorem take_eq_ok {index : ChildIndex} {row count capacity : Nat} {taking : Taking}
    (taken : index.take row count capacity = .ok taking) :
    taking.offset = index.childCount ∧
      taking.index.spans = index.spans.setIfInBounds row ⟨index.childCount, count⟩ ∧
      taking.index.childCount = index.childCount + count ∧
      taking.index.growable = index.growable ∧
      (taking.growth = none → index.childCount + count ≤ capacity) ∧
      ∀ size, taking.growth = some size → index.childCount + count ≤ size := by
  unfold take at taken
  dsimp only at taken
  split at taken
  · next room =>
    cases taken
    exact ⟨rfl, rfl, rfl, rfl, fun _ => room, fun size none => by cases none⟩
  · split at taken
    · cases taken
      refine ⟨rfl, rfl, rfl, rfl, fun none => (by cases none), ?_⟩
      intro size grown
      cases grown
      exact Nat.le_max_left _ _
    · cases taken

/-- Taking child slots fails only where the child column must not grow. -/
theorem take_eq_error {index : ChildIndex} {row count capacity : Nat} {failure : Failure}
    (refused : index.take row count capacity = .error failure) :
    index.growable = false ∧ failure = .childOverflow (index.childCount + count) capacity := by
  unfold take at refused
  dsimp only at refused
  split at refused
  · cases refused
  · split at refused
    · cases refused
    · next fixed =>
      cases refused
      exact ⟨by simpa using fixed, rfl⟩

end ChildIndex

end Columnar
