import Columnar.Cell.Acceptance
/-!
# Kinds of values

A struct and a map take the values that have members, a list those that have items. All that a column
is told of a value that it does not take is the kind of the value.
-/

set_option autoImplicit false

namespace Columnar

namespace Column

/-- The members of an object. -/
def members? : Json → Option Json.Members
  | .object members => some members
  | _ => none

/-- The elements of an array. -/
def items? : Json → Option (List Json)
  | .array items => some items
  | _ => none

/-- Only an object has members. -/
theorem eq_object_of_members? {value : Json} {members : Json.Members}
    (opens : members? value = some members) : value = .object members := by
  cases value <;> cases opens
  rfl

/-- Only an array has items. -/
theorem eq_array_of_items? {value : Json} {items : List Json}
    (opens : items? value = some items) : value = .array items := by
  cases value <;> cases opens
  rfl

end Column

/-- Large integers are of the kind of other numbers; the kind of a value says all the same whether it
is null. -/
theorem Json.isNull_eq (value : Json) : value.isNull = (value.kind == .null) := by
  cases value with
  | int n => cases fits : fitsInt64 n <;> simp only [isNull, kind, fits] <;> rfl
  | _ => rfl

/-- Of values of one kind both are null or neither is. -/
theorem Json.isNull_congr {value value' : Json} (same : value.kind = value'.kind) :
    value.isNull = value'.isNull := by
  rw [isNull_eq, isNull_eq, same]

namespace Category

open Column (members? items?)

/-- A struct takes the values that have members. -/
theorem accepts_struct (value : Json) : struct.accepts value.kind = (members? value).isSome := by
  cases value with
  | int n => cases fits : fitsInt64 n <;> simp [Json.kind, fits] <;> rfl
  | _ => rfl

/-- A map takes the values that have members. -/
theorem accepts_map (value : Json) : map.accepts value.kind = (members? value).isSome :=
  accepts_struct value

/-- A list takes the values that have items. -/
theorem accepts_list (value : Json) : list.accepts value.kind = (items? value).isSome := by
  cases value with
  | int n => cases fits : fitsInt64 n <;> simp [Json.kind, fits] <;> rfl
  | _ => rfl

/-- A value of a kind that is not taken is refused for its kind. -/
theorem check_of_refused {category : Category} {value : Json}
    (refused : category.accepts value.kind = false) :
    category.check value = .error (category.mismatch value) := by
  rw [check, refused]
  rfl

/-- Values of one kind are refused with the same words. -/
theorem mismatch_congr {category : Category} {value value' : Json}
    (same : value.kind = value'.kind) : category.mismatch value = category.mismatch value' := by
  rw [mismatch, mismatch, same]

end Category

end Columnar
