import Columnar.Text.Blank
import Columnar.Text.Digits
/-!
# Decimal numbers with a fixed scale

A decimal column stores integers: a number at scale `s` is stored as that number times `10 ^ s`. Its
text is a literal with an optional point and an optional power of ten. Reading a literal at a
precision and a scale rounds half away from zero, and refuses what needs more digits than the
precision allows. Writing puts exactly `s` digits behind the point.
-/

set_option autoImplicit false

namespace Columnar.Number.Decimal

open Columnar.Text (trim digitsValue decimalDigits paddedDigits splitSign)

/-- A literal taken apart: its sign, the digits on both sides of the point, and its power of ten. -/
structure Literal where
  negative : Bool
  whole : List Char
  fraction : List Char
  exponent : Int
deriving DecidableEq

/-- Whether a character introduces the power of ten. -/
def isExponentMark (c : Char) : Bool :=
  c == 'e' || c == 'E'

/-- Reads a power of ten: an optional sign and one or more digits, of a value that a signed 32-bit
number can hold. -/
def exponent? (text : List Char) : Option Int :=
  let (negative, digits) := splitSign text
  if digits.isEmpty || !digits.all Char.isDigit then none
  else
    let value : Int := if negative then -(digitsValue digits : Int) else digitsValue digits
    if -0x80000000 ≤ value ∧ value < 0x80000000 then some value else none

/-- The power of ten behind a mantissa; none written means zero. -/
def optionalExponent? : List Char → Option Int
  | [] => some 0
  | _ :: text => exponent? text

/-- Takes a literal apart, once the blanks at its ends are gone. -/
def Literal.parse? (text : String) : Option Literal :=
  let (negative, unsigned) := splitSign (trim text.toList)
  let mantissa := unsigned.takeWhile (!isExponentMark ·)
  match optionalExponent? (unsigned.dropWhile (!isExponentMark ·)) with
  | none => none
  | some exponent =>
    let whole := mantissa.takeWhile (· != '.')
    let fraction := (mantissa.dropWhile (· != '.')).drop 1
    if (whole ++ fraction).isEmpty || !(whole ++ fraction).all Char.isDigit then none
    else some ⟨negative, whole, fraction, exponent⟩

/-- Why a literal gives no stored value. -/
inductive Refusal where
  /-- The text is no decimal literal, or has a digit string that 128 bits cannot hold. -/
  | malformed
  /-- The value needs more digits than the precision allows. -/
  | precisionExceeded
deriving DecidableEq

/-- The largest digit string that is read: the largest signed 128-bit number. -/
def largestDigits : Nat :=
  Nat.pow 2 127 - 1

/-- The value of a digit string of bounded size. -/
def boundedValue (digits : List Char) : Except Refusal Nat :=
  if digitsValue digits ≤ largestDigits then .ok (digitsValue digits) else .error .malformed

/-- The digits of a literal, without leading zeros and without the point. -/
def Literal.significant (literal : Literal) : List Char :=
  (literal.whole ++ literal.fraction).dropWhile (· == '0')

/-- How many places the digits of a literal move to the left to reach a scale. -/
def Literal.shift (literal : Literal) (scale : Nat) : Int :=
  scale - (literal.fraction.length - literal.exponent)

/-- Digits moved to the left are followed by zeros. -/
def raise (digits : List Char) (places precision : Nat) : Except Refusal Nat :=
  if precision < digits.length + places then .error .precisionExceeded
  else do
    let value ← boundedValue digits
    return value * Nat.pow 10 places

/-- Digits moved to the right lose their last ones, a half rounding up. -/
def lower (digits : List Char) (places precision : Nat) : Except Refusal Nat :=
  if digits.length < places then .ok 0
  else
    let kept := digits.take (digits.length - places)
    let dropped := digits.drop (digits.length - places)
    if precision < kept.length then .error .precisionExceeded
    else do
      let value ← boundedValue kept
      return value + (if dropped.head?.any ('5' ≤ ·) then 1 else 0)

/-- The magnitude of a literal at a scale, before the last check against the precision. -/
def Literal.magnitude (literal : Literal) (precision scale : Nat) : Except Refusal Nat :=
  let digits := literal.significant
  let shift := literal.shift scale
  if digits.isEmpty then .ok 0
  else if 0 ≤ shift then raise digits shift.toNat precision
  else lower digits (-shift).toNat precision

/-- The stored value of a literal at a precision and a scale. -/
def Literal.rescale (literal : Literal) (precision scale : Nat) : Except Refusal Int := do
  let magnitude ← literal.magnitude precision scale
  if Nat.pow 10 precision ≤ magnitude then .error .precisionExceeded
  else .ok (if literal.negative then -(magnitude : Int) else magnitude)

/-- The stored value of a text at a precision and a scale. -/
def parse (text : String) (precision scale : Nat) : Except Refusal Int :=
  match Literal.parse? text with
  | none => .error .malformed
  | some literal => literal.rescale precision scale

/-- The text of a stored value at a scale. -/
def format (unscaled : Int) (scale : Nat) : String :=
  let sign := if unscaled < 0 then ['-'] else []
  let digits := paddedDigits (scale + 1) unscaled.natAbs
  if scale = 0 then String.ofList (sign ++ digits)
  else
    let point := digits.length - scale
    String.ofList (sign ++ digits.take point ++ '.' :: digits.drop point)

end Columnar.Number.Decimal
