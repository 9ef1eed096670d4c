import Columnar.Number.Binary64
/-!
# The shortest decimal digits of a binary number

A number is written with the fewest decimal digits that still read back as it. The reals that round
to a number form an interval, whose ends belong to it when the significand is even. For one, two, up
to seventeen digits the two neighbours of the number on that decimal grid are tested in exact
arithmetic; the first grid with a hit wins, and of two hits the nearer one, an exact tie going to the
even digit.
-/

set_option autoImplicit false

namespace Columnar.Number

/-- The positive number `digits · 10 ^ exponent`. -/
structure Scientific where
  digits : Nat
  exponent : Int
deriving DecidableEq

namespace Shortest

/-- The decimal digits of a natural number. -/
def digitCount (n : Nat) : Nat :=
  (Nat.toDigits 10 n).length

/-- The exponent of the largest power of ten that does not exceed a positive ratio. -/
def log10 (r : Ratio) : Int :=
  if r.den ≤ r.num then (digitCount (r.num / r.den) : Int) - 1
  else -(digitCount ((r.den - 1) / r.num) : Int)

/-- A number and the interval of the reals that round to it, all three in units of
`2 ^ (unit - 2)`. -/
structure Interval where
  value : Nat
  low : Nat
  high : Nat
  closed : Bool
  unit : Int

/-- The interval of a magnitude of the 64-bit format. Below a power of two the gap is half as wide. -/
def Interval.of (d : Dyadic) : Interval where
  value := 4 * d.significand
  low := if d.significand = Nat.pow 2 52 ∧ -1074 < d.unit then 4 * d.significand - 1
    else 4 * d.significand - 2
  high := 4 * d.significand + 2
  closed := d.significand % 2 == 0
  unit := d.unit

/-- The decimal grid of an exponent measured in the units of an interval: its spacing as a ratio. -/
def Interval.spacing (interval : Interval) (exponent : Int) : Ratio :=
  ⟨Nat.pow 10 exponent.toNat * Nat.pow 2 (2 - interval.unit).toNat,
    Nat.pow 10 (-exponent).toNat * Nat.pow 2 (interval.unit - 2).toNat⟩

/-- Whether a point of a grid lies in the interval. -/
def Interval.holds (interval : Interval) (spacing : Ratio) (point : Nat) : Bool :=
  let p := point * spacing.num
  let low := interval.low * spacing.den
  let high := interval.high * spacing.den
  if interval.closed then low ≤ p && p ≤ high else low < p && p < high

/-- The point of a grid that stands for the number, if one of its two neighbours there lies in the
interval: the nearer one that does, on a tie the even one. -/
def Interval.onGrid (interval : Interval) (exponent : Int) : Option Nat :=
  let spacing := interval.spacing exponent
  let scaled := interval.value * spacing.den
  let below := scaled / spacing.num
  let above := below + 1
  let lack := scaled - below * spacing.num
  let excess := above * spacing.num - scaled
  match interval.holds spacing below, interval.holds spacing above with
  | false, false => none
  | true, false => some below
  | false, true => some above
  | true, true =>
    if lack < excess then some below
    else if excess < lack then some above
    else some (if below % 2 = 0 then below else above)

/-- A point of a grid as digits and exponent. The neighbour above the last point of a decade is the
first of the next one: its zero goes into the exponent. -/
def point (digits : Nat) (exponent : Int) : Scientific :=
  if digits % 10 = 0 then ⟨digits / 10, exponent + 1⟩ else ⟨digits, exponent⟩

/-- The first hit on the grids of the given exponents. -/
def Interval.search (interval : Interval) : List Int → Option Scientific
  | [] => none
  | exponent :: rest =>
    match interval.onGrid exponent with
    | some digits => some (point digits exponent)
    | none => interval.search rest

/-- The grids with one, two, up to seventeen digits for a number of the given decimal exponent. -/
def grids (exponent : Int) : List Int :=
  (List.range 17).map fun (n : Nat) => exponent - n

end Shortest

/-- The shortest decimal form of a positive finite number. -/
def Binary64.shortest (x : Binary64) : Scientific :=
  let d := x.magnitude
  match (Shortest.Interval.of d).search (Shortest.grids (Shortest.log10 d.ratio)) with
  | some s => s
  | none => ⟨d.significand, 0⟩

end Columnar.Number
