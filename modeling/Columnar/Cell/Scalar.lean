import Columnar.Cell.Acceptance
/-!
# Values of primitive cells

What a JSON value becomes in a primitive cell. Integers are cut to the width of their column, other
numbers lose their fraction first; floating-point columns of single width round once more. Each
function names the category that its failures speak of, which need not be one that it serves.
-/

set_option autoImplicit false

namespace Columnar

open Columnar.Number (Binary64)

/-- A 64-bit integer as far as a column width keeps it, in two's complement. -/
def IntWidth.wrap (n : Int64) : IntWidth → Int64
  | .tiny => n.toInt8.toInt64
  | .small => n.toInt16.toInt64
  | .regular => n.toInt32.toInt64
  | .big => n

/-- The cell of a 64-bit integer in a column of a category. -/
def Category.wrap (category : Category) (n : Int64) : Int64 :=
  match category with
  | .primitive (.integer width) => width.wrap n
  | _ => n

/-- The cell of a floating-point number in a column of a category. -/
def Category.roundReal (category : Category) (x : Binary64) : Binary64 :=
  match category with
  | .primitive (.real .single) => x.toSingle
  | _ => x

namespace Json

/-- The boolean in a boolean column. -/
def toBool (value : Json) : Except Failure Bool := do
  Category.check (.primitive .boolean) value
  match value with
  | .bool b => return b
  | _ => return false

/-- The integer part of a number, if 64 bits hold it. -/
def integerPart? : Json → Option Int64
  | .int n => if fitsInt64 n then some (Int64.ofInt n) else none
  | .real x =>
    if x.isFinite && fitsInt64 x.truncate then some (Int64.ofInt x.truncate) else none
  | _ => none

/-- Whether a value is a number. -/
def isNumber : Json → Bool
  | .int _ => true
  | .real _ => true
  | _ => false

/-- The integer in a column of a category. -/
def toInteger (value : Json) (category : Category) : Except Failure Int64 := do
  category.check value
  if value.isNumber then
    match value.integerPart? with
    | some n => return category.wrap n
    | none => .error (.numberOutOfRange category)
  else .error (category.mismatch value)

/-- The binary number nearest to a number; zero for anything else. -/
def nearestReal : Json → Binary64
  | .int n => Binary64.ofInt n
  | .real x => x
  | _ => Binary64.zero false

/-- The floating-point number in a column of a category. -/
def toReal (value : Json) (category : Category) : Except Failure Binary64 := do
  category.check value
  return category.roundReal value.nearestReal

/-- The text in a column of a category. -/
def toText (value : Json) (category : Category) : Except Failure String := do
  category.check value
  match value with
  | .text s => return s
  | _ => .error (category.mismatch value)

end Json

end Columnar
