/-!
# Rounding a ratio to a binary format

A binary floating-point format holds the numbers `m · 2 ^ u` with a significand `m` of bounded width
and a unit exponent `u` of bounded range. A ratio of natural numbers is rounded to the nearest of
them, a tie going to the even significand. All of it is exact arithmetic on natural numbers.
-/

set_option autoImplicit false

namespace Columnar.Number

/-- A binary format: the width of its significands in bits and the range of its unit exponents. -/
structure BinaryFormat where
  width : Nat
  minUnit : Int
  maxUnit : Int

/-- The 64-bit interchange format. -/
def BinaryFormat.double : BinaryFormat := ⟨53, -1074, 971⟩

/-- The 32-bit interchange format. -/
def BinaryFormat.single : BinaryFormat := ⟨24, -149, 104⟩

/-- The non-negative number `significand · 2 ^ unit`. -/
structure Dyadic where
  significand : Nat
  unit : Int
deriving DecidableEq

/-- The ratio of two natural numbers. -/
structure Ratio where
  num : Nat
  den : Nat

/-- The value of a dyadic number as a ratio. -/
def Dyadic.ratio (d : Dyadic) : Ratio :=
  ⟨d.significand * Nat.pow 2 d.unit.toNat, Nat.pow 2 (-d.unit).toNat⟩

/-- A ratio multiplied by a power of two. -/
def Ratio.scale (r : Ratio) (power : Int) : Ratio :=
  ⟨r.num * Nat.pow 2 power.toNat, r.den * Nat.pow 2 (-power).toNat⟩

/-- The natural number nearest to a ratio, a half going to the even neighbour. -/
def Ratio.nearest (r : Ratio) : Nat :=
  let q := r.num / r.den
  let rest := 2 * (r.num % r.den)
  if rest < r.den then q else if r.den < rest then q + 1 else q + q % 2

/-- The exponent of the largest power of two that does not exceed a positive ratio. -/
def Ratio.log2 (r : Ratio) : Int :=
  let guess : Int := (r.num.log2 : Int) - r.den.log2
  let scaled := r.scale (-guess)
  if scaled.den ≤ scaled.num then guess else guess - 1

/-- The member of a format nearest to a ratio, ties to even; none when it lies beyond the largest. -/
def BinaryFormat.round (format : BinaryFormat) (r : Ratio) : Option Dyadic :=
  if r.num = 0 then some ⟨0, format.minUnit⟩
  else
    let unit := max format.minUnit (r.log2 - (format.width - 1))
    let significand := (r.scale (-unit)).nearest
    let rounded : Dyadic :=
      if significand = Nat.pow 2 format.width then ⟨Nat.pow 2 (format.width - 1), unit + 1⟩
      else ⟨significand, unit⟩
    if format.maxUnit < rounded.unit then none else some rounded

end Columnar.Number
