/-!
# Null flags

A column flags its null rows. Beside the flags stands whether none was set since the last reset, so
that neither reading nor resetting a column without nulls looks at the flags. Flags are set row by
row and taken back all together.
-/

set_option autoImplicit false

namespace Columnar

/-- An array with copies of a value behind it, up to a size. -/
def growTo {α : Type} (values : Array α) (size : Nat) (fill : α) : Array α :=
  values ++ Array.replicate (size - values.size) fill

/-- Growing makes room for so many values, and never for fewer than there are. -/
@[simp] theorem size_growTo {α : Type} (values : Array α) (size : Nat) (fill : α) :
    (growTo values size fill).size = max values.size size := by
  simp only [growTo, Array.size_append, Array.size_replicate]
  omega

/-- Growing keeps the values that are there. -/
theorem getElem?_growTo_of_lt {α : Type} (values : Array α) (size : Nat) (fill : α) {row : Nat}
    (h : row < values.size) : (growTo values size fill)[row]? = values[row]? :=
  Array.getElem?_append_left h

/-- The null flags of a column. -/
structure NullMask where
  flags : Array Bool
  noNulls : Bool
deriving DecidableEq

namespace NullMask

/-- The flags of a column of so many rows, none of them null. -/
def ofSize (size : Nat) : NullMask := ⟨Array.replicate size false, true⟩

/-- How many rows have a flag. -/
def size (mask : NullMask) : Nat := mask.flags.size

/-- Flags a row as null. -/
def setNull (mask : NullMask) (row : Nat) : NullMask :=
  ⟨mask.flags.setIfInBounds row true, false⟩

/-- Whether a row is null. -/
def isNull (mask : NullMask) (row : Nat) : Bool :=
  !mask.noNulls && mask.flags.getD row false

/-- Flags for more rows, which are not null. -/
def grow (mask : NullMask) (size : Nat) : NullMask :=
  { mask with flags := growTo mask.flags size false }

/-- Takes all flags back. -/
def reset (mask : NullMask) : NullMask :=
  if mask.noNulls then mask else ⟨mask.flags.map fun _ => false, true⟩

@[simp] theorem size_ofSize (size : Nat) : (ofSize size).size = size :=
  Array.size_replicate

@[simp] theorem size_setNull (mask : NullMask) (row : Nat) :
    (mask.setNull row).size = mask.size :=
  Array.size_setIfInBounds

@[simp] theorem size_grow (mask : NullMask) (size : Nat) :
    (mask.grow size).size = max mask.size size :=
  size_growTo mask.flags size false

/-- A reset leaves as many flags, whether or not it goes through them. -/
@[simp] theorem size_reset (mask : NullMask) : mask.reset.size = mask.size := by
  unfold reset
  split
  · rfl
  · exact Array.size_map

/-- After a reset no row is null. -/
@[simp] theorem isNull_reset (mask : NullMask) (row : Nat) : mask.reset.isNull row = false := by
  unfold reset
  split
  · next noNulls => simp [isNull, noNulls]
  · simp [isNull]

/-- The row that was flagged is null. -/
theorem isNull_setNull_self (mask : NullMask) {row : Nat} (h : row < mask.size) :
    (mask.setNull row).isNull row = true := by
  have inside : row < mask.flags.size := h
  simp [setNull, isNull, Array.getD_eq_getD_getElem?, inside]

end NullMask

end Columnar
