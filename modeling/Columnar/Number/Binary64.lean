import Columnar.Number.Rounding
/-!
# 64-bit binary floating-point numbers

A number is its 64 bits, so that a cell gives back exactly what was put into it, payloads of NaN
included. Arithmetic takes the bits apart, works on exact ratios and rounds once to nearest even.
-/

set_option autoImplicit false

namespace Columnar.Number

/-- A number of the 64-bit interchange format, as its bits. -/
structure Binary64 where
  bits : UInt64
deriving DecidableEq, Inhabited

namespace Binary64

/-- Whether the sign bit is set. -/
def isNegative (x : Binary64) : Bool :=
  Nat.pow 2 63 ≤ x.bits.toNat

/-- The eleven exponent bits. -/
def exponentField (x : Binary64) : Nat :=
  x.bits.toNat / Nat.pow 2 52 % Nat.pow 2 11

/-- The fifty-two fraction bits. -/
def fractionField (x : Binary64) : Nat :=
  x.bits.toNat % Nat.pow 2 52

/-- A number is finite when it is neither an infinity nor a NaN. -/
def isFinite (x : Binary64) : Bool :=
  x.exponentField ≠ 2047

/-- The magnitude of a finite number. -/
def magnitude (x : Binary64) : Dyadic :=
  if x.exponentField = 0 then ⟨x.fractionField, -1074⟩
  else ⟨Nat.pow 2 52 + x.fractionField, (x.exponentField : Int) - 1075⟩

/-- The number with the given sign and the given fields. -/
def ofFields (negative : Bool) (exponent fraction : Nat) : Binary64 :=
  ⟨UInt64.ofNat ((if negative then Nat.pow 2 63 else 0) + exponent * Nat.pow 2 52 + fraction)⟩

/-- Zero of either sign. -/
def zero (negative : Bool) : Binary64 :=
  ofFields negative 0 0

/-- Infinity of either sign. -/
def infinity (negative : Bool) : Binary64 :=
  ofFields negative 2047 0

/-- The number of a sign and a magnitude that the format holds. -/
def ofDyadic (negative : Bool) (d : Dyadic) : Binary64 :=
  if d.significand < Nat.pow 2 52 then ofFields negative 0 d.significand
  else ofFields negative (d.unit + 1075).toNat (d.significand - Nat.pow 2 52)

/-- The number of a sign nearest to a ratio; a ratio beyond the largest number gives an infinity. -/
def ofRatio (negative : Bool) (r : Ratio) : Binary64 :=
  match BinaryFormat.double.round r with
  | some d => ofDyadic negative d
  | none => infinity negative

/-- The number nearest to a natural number. -/
def ofNat (n : Nat) : Binary64 :=
  ofRatio false ⟨n, 1⟩

/-- The number nearest to an integer. -/
def ofInt (n : Int) : Binary64 :=
  ofRatio (decide (n < 0)) ⟨n.natAbs, 1⟩

/-- The number with the other sign. -/
def neg (x : Binary64) : Binary64 :=
  ofFields (!x.isNegative) x.exponentField x.fractionField

/-- Whether the number is zero of either sign. -/
def isZero (x : Binary64) : Bool :=
  x.exponentField == 0 && x.fractionField == 0

/-- The rounded product of two finite numbers. -/
def mul (x y : Binary64) : Binary64 :=
  let a := x.magnitude.ratio
  let b := y.magnitude.ratio
  ofRatio (x.isNegative != y.isNegative) ⟨a.num * b.num, a.den * b.den⟩

/-- The rounded quotient of two finite numbers, the second of which is not zero. -/
def div (x y : Binary64) : Binary64 :=
  let a := x.magnitude.ratio
  let b := y.magnitude.ratio
  ofRatio (x.isNegative != y.isNegative) ⟨a.num * b.den, a.den * b.num⟩

/-- The integer part of a finite number. -/
def truncate (x : Binary64) : Int :=
  let a := x.magnitude.ratio
  if x.isNegative then -((a.num / a.den : Nat) : Int) else ((a.num / a.den : Nat) : Int)

/-- A finite number rounded to the 32-bit format; one beyond its range becomes an infinity. -/
def toSingle (x : Binary64) : Binary64 :=
  match BinaryFormat.single.round x.magnitude.ratio with
  | some d => ofRatio x.isNegative d.ratio
  | none => infinity x.isNegative

end Binary64

end Columnar.Number
