import Columnar.Json.Basic
import Columnar.Number.Shortest
import Columnar.Text.Digits
import Columnar.Text.Hex
/-!
# Writing JSON text

Values are written without spaces. Texts escape quotes, backslashes and control characters only.
Binary numbers have their shortest digits: written out with a point for decimal exponents from -5
to 15, in scientific notation with a sign on the exponent otherwise.
-/

set_option autoImplicit false

namespace Columnar.Json

open Columnar.Number (Binary64 Scientific)
open Columnar.Text (decimalDigits)

/-- How one character of a text is written. -/
def textChar (c : Char) : List Char :=
  match c with
  | '"' => ['\\', '"']
  | '\\' => ['\\', '\\']
  | '\x08' => ['\\', 'b']
  | '\x0c' => ['\\', 'f']
  | '\n' => ['\\', 'n']
  | '\r' => ['\\', 'r']
  | '\t' => ['\\', 't']
  | _ =>
    if c.toNat < 0x20 then
      ['\\', 'u', '0', '0', Text.Hex.digit (c.toNat / 16), Text.Hex.digit (c.toNat % 16)]
    else [c]

/-- A text between quotes. -/
def textChars (value : String) : List Char :=
  '"' :: value.toList.flatMap textChar ++ ['"']

/-- An integer in decimal. -/
def intChars (n : Int) : List Char :=
  if n < 0 then '-' :: decimalDigits n.natAbs else decimalDigits n.natAbs

/-- The least decimal exponent of a number that is written out. -/
def leastPlainExponent : Int := -5

/-- The greatest decimal exponent of a number that is written out. -/
def greatestPlainExponent : Int := 15

/-- A positive number written out, with at least one digit on both sides of the point. -/
def plainChars (digits : List Char) (exponent : Int) : List Char :=
  if 0 ≤ exponent then digits ++ List.replicate exponent.toNat '0' ++ ['.', '0']
  else
    let places := (-exponent).toNat
    if places < digits.length then
      digits.take (digits.length - places) ++ '.' :: digits.drop (digits.length - places)
    else ['0', '.'] ++ List.replicate (places - digits.length) '0' ++ digits

/-- A positive number in scientific notation, given the exponent of its first digit. -/
def scientificChars (digits : List Char) (exponent : Int) : List Char :=
  let mantissa :=
    match digits with
    | first :: second :: rest => first :: '.' :: second :: rest
    | _ => digits
  let sign := if exponent < 0 then '-' else '+'
  mantissa ++ 'e' :: sign :: decimalDigits exponent.natAbs

/-- A positive number by its shortest digits. -/
def scientificForm (s : Scientific) : List Char :=
  let digits := decimalDigits s.digits
  let exponent := s.exponent + digits.length - 1
  if leastPlainExponent ≤ exponent ∧ exponent ≤ greatestPlainExponent then
    plainChars digits s.exponent
  else scientificChars digits exponent

/-- A finite binary number. -/
def realChars (x : Binary64) : List Char :=
  let unsigned := if x.isZero then ['0', '.', '0'] else scientificForm x.shortest
  if x.isNegative then '-' :: unsigned else unsigned

mutual

/-- The characters of a value. What is not finite is written as null. -/
def chars : Json → List Char
  | .null => ['n', 'u', 'l', 'l']
  | .bool true => ['t', 'r', 'u', 'e']
  | .bool false => ['f', 'a', 'l', 's', 'e']
  | .int n => intChars n
  | .real x => if x.isFinite then realChars x else ['n', 'u', 'l', 'l']
  | .text s => textChars s
  | .array items => '[' :: itemChars items ++ [']']
  | .object members => '{' :: memberChars members ++ ['}']
termination_by structural value => value

/-- The characters of the items of an array, with commas between them. -/
def itemChars : List Json → List Char
  | [] => []
  | [item] => chars item
  | item :: rest => chars item ++ ',' :: itemChars rest
termination_by structural items => items

/-- The characters of the members of an object, with commas between them. -/
def memberChars : List (String × Json) → List Char
  | [] => []
  | [(name, value)] => textChars name ++ ':' :: chars value
  | (name, value) :: rest => textChars name ++ ':' :: chars value ++ ',' :: memberChars rest
termination_by structural members => members

end

/-- The compact text of a value. -/
def render (value : Json) : String :=
  String.ofList value.chars

end Columnar.Json
