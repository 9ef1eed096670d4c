import Columnar.Json.Basic
import Columnar.Text.Digits
/-!
# Numbers in JSON text

A number literal that is an integer within the signed or unsigned 64-bit range stays an integer,
except a negative zero. Any other literal is read as a 64-bit significand, which takes up digits as
long as it can hold them, and a power of ten by which it is then multiplied or divided. A literal
beyond the largest binary number is no number.
-/

set_option autoImplicit false

namespace Columnar.Json

open Columnar.Number (Binary64 Ratio)
open Columnar.Text (digitsValue splitSign)

/-- A number literal taken apart: its sign, its digits before and behind the point, and the sign and
digits of its power of ten. -/
structure Numeral where
  negative : Bool
  whole : List Char
  fraction : Option (List Char)
  power : Option (Bool × List Char)
deriving DecidableEq

namespace Numeral

/-- The fraction in front of a text, if it begins with a point, and what follows. -/
def fraction? : List Char → Option (Option (List Char) × List Char)
  | '.' :: rest =>
    let digits := rest.takeWhile Char.isDigit
    if digits.isEmpty then none else some (some digits, rest.dropWhile Char.isDigit)
  | rest => some (none, rest)

/-- The power of ten that a whole text is, if there is any text. -/
def power? : List Char → Option (Option (Bool × List Char))
  | [] => some none
  | mark :: rest =>
    let (negative, digits) := splitSign rest
    if (mark = 'e' || mark = 'E') && !digits.isEmpty && digits.all Char.isDigit then
      some (some (negative, digits))
    else none

/-- Takes a literal apart: an optional minus, digits without a superfluous zero in front, an optional
fraction and an optional power of ten. -/
def parse? (literal : List Char) : Option Numeral :=
  let (negative, unsigned) :=
    match literal with
    | '-' :: rest => (true, rest)
    | _ => (false, literal)
  let whole := unsigned.takeWhile Char.isDigit
  if whole.isEmpty || (1 < whole.length && whole.head? == some '0') then none
  else do
    let (fraction, rest) ← fraction? (unsigned.dropWhile Char.isDigit)
    let power ← power? rest
    return ⟨negative, whole, fraction, power⟩

/-- Digits taken up by a significand as long as 64 bits hold it, and the digits left over. -/
def takeUp (significand : Nat) : List Char → Nat × List Char
  | [] => (significand, [])
  | c :: rest =>
    let next := 10 * significand + (c.toNat - 48)
    if next < Nat.pow 2 64 then takeUp next rest else (significand, c :: rest)

/-- The binary number nearest to a power of ten. -/
def powerOfTen (n : Nat) : Binary64 :=
  Binary64.ofNat (Nat.pow 10 n)

/-- A number divided by a power of ten, in steps that the largest power allows. -/
def scaleDown (x : Binary64) (power : Nat) : Binary64 :=
  if power ≤ 308 then x.div (powerOfTen power)
  else if x.isZero then x
  else scaleDown (x.div (powerOfTen 308)) (power - 308)
termination_by power

/-- A number multiplied by a power of ten, unless that is beyond the largest number. -/
def scaleUp (x : Binary64) (power : Nat) : Option Binary64 :=
  if x.isZero then some x
  else if 308 < power then none
  else
    let product := x.mul (powerOfTen power)
    if product.isFinite then some product else none

/-- The value of a significand and a power of ten. -/
def scaled (significand : Nat) (power : Int) : Option Binary64 :=
  let x := Binary64.ofNat significand
  if power < 0 then some (scaleDown x (-power).toNat) else scaleUp x power.toNat

/-- The power of ten that is written. -/
def writtenPower (numeral : Numeral) : Int :=
  match numeral.power with
  | none => 0
  | some (negative, digits) =>
    if negative then -(digitsValue digits : Int) else digitsValue digits

/-- The binary value of a literal, without its sign. -/
def magnitude (numeral : Numeral) : Option Binary64 :=
  let (leading, skipped) := takeUp 0 numeral.whole
  let fraction := numeral.fraction.getD []
  let (significand, dropped) := takeUp leading fraction
  let places : Int := (fraction.length : Int) - dropped.length
  scaled significand (skipped.length - places + numeral.writtenPower)

/-- The integer that a literal is, if it has neither fraction nor power and 64 bits hold it. -/
def integer? (numeral : Numeral) : Option Int :=
  let n := digitsValue numeral.whole
  if numeral.fraction.isSome || numeral.power.isSome then none
  else if numeral.negative then
    if n = 0 ∨ Nat.pow 2 63 < n then none else some (-(n : Int))
  else if n < Nat.pow 2 64 then some n
  else none

/-- The value of a literal. -/
def value? (numeral : Numeral) : Option Json :=
  match numeral.integer? with
  | some n => some (.int n)
  | none =>
    numeral.magnitude.map fun x => .real (if numeral.negative then x.neg else x)

end Numeral

end Columnar.Json
