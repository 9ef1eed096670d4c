import Columnar.Failure
/-!
# Which values a column takes

Booleans go into boolean columns, numbers of both kinds into integer and floating-point columns, texts
into all other primitive ones, objects into structs and maps, and arrays into lists. Null is not a
matter of category: it is dealt with before.
-/

set_option autoImplicit false

namespace Columnar

/-- Whether a primitive column takes values of a kind. -/
def Primitive.accepts : Primitive → ValueKind → Bool
  | .boolean, kind => kind == .boolean
  | .integer _, kind => kind == .integer || kind == .decimal
  | .real _, kind => kind == .integer || kind == .decimal
  | .text _, kind => kind == .string
  | .decimal, kind => kind == .string
  | .timestamp, kind => kind == .string
  | .binary, kind => kind == .string

/-- Whether a column of a category takes values of a kind. -/
def Category.accepts : Category → ValueKind → Bool
  | .primitive leaf, kind => leaf.accepts kind
  | .struct, kind => kind == .object
  | .map, kind => kind == .object
  | .list, kind => kind == .array

/-- The failure of a value that a column of a category does not take. -/
def Category.mismatch (category : Category) (value : Json) : Failure :=
  .typeMismatch category value.kind

/-- Passes a value that a column of a category takes. -/
def Category.check (category : Category) (value : Json) : Except Failure Unit :=
  if category.accepts value.kind then .ok () else .error (category.mismatch value)

end Columnar
