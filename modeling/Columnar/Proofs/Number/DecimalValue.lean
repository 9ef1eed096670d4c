import Mathlib.Algebra.Order.Field.Power
import Mathlib.Algebra.Order.Floor.Semifield
import Mathlib.Data.Rat.Floor
import Mathlib.Tactic.FieldSimp
import Mathlib.Tactic.Positivity
import Columnar.Number.Decimal
import Columnar.Proofs.Text.Digits
/-!
# What a decimal literal is stored as

A literal denotes a rational number, and what is stored at a scale is that number times a power of ten,
a half rounded up, if the precision allows as many digits (`rescale_eq`). The reader never computes
with numbers larger than that: it moves the digits first, and gives up as soon as too many are left.
The second half of this file runs it on signed 128-bit words, where a number that does not fit has no
result, and finds that every number on the way does fit (`checkedRescale_eq`).
-/

set_option autoImplicit false

namespace Columnar.Number.Decimal

open Columnar.Text

/-! ### The number that a literal denotes -/

/-- The number that a literal denotes, its sign apart. -/
def Literal.size (literal : Literal) : ℚ :=
  (digitsValue literal.whole + digitsValue literal.fraction / 10 ^ literal.fraction.length) *
    10 ^ literal.exponent

/-- The number that a literal denotes. -/
def Literal.value (literal : Literal) : ℚ :=
  if literal.negative then -literal.size else literal.size

/-- The magnitude that a number is stored with at a scale: a half rounds up. -/
def magnitudeOf (q : ℚ) (scale : ℕ) : ℕ :=
  ⌊|q| * 10 ^ scale + 1 / 2⌋₊

/-- What is stored of a number at a precision and a scale. -/
def stored (q : ℚ) (precision scale : ℕ) : Except Refusal Int :=
  if magnitudeOf q scale < 10 ^ precision then
    .ok (if q < 0 then -(magnitudeOf q scale : Int) else magnitudeOf q scale)
  else .error .precisionExceeded

/-- The value that is stored has the magnitude of the rounded number. -/
theorem natAbs_of_stored {q : ℚ} {precision scale : ℕ} {unscaled : Int}
    (kept : stored q precision scale = .ok unscaled) : unscaled.natAbs = magnitudeOf q scale := by
  unfold stored at kept
  split at kept
  · cases kept
    split <;> omega
  · cases kept

/-- A ratio of numbers is rounded by one division of numbers. -/
theorem floor_add_half (n : ℕ) {d : ℕ} (positive : 0 < d) :
    ⌊(n : ℚ) / d + 1 / 2⌋₊ = (2 * n + d) / (2 * d) := by
  have whole : (n : ℚ) / d + 1 / 2 = ((2 * n + d : ℕ) : ℚ) / ((2 * d : ℕ) : ℚ) := by
    push_cast
    field_simp
  rw [whole, Nat.floor_div_eq_div]

namespace Literal

variable {literal : Literal} {scale : ℕ}

/-- The size of a literal is not negative. -/
theorem size_nonneg (literal : Literal) : 0 ≤ literal.size := by
  unfold size
  positivity

/-- The value of a literal has the size that its digits and power say; the sign comes on top. -/
theorem abs_value (literal : Literal) : |literal.value| = literal.size := by
  unfold value
  split
  · rw [abs_neg, abs_of_nonneg literal.size_nonneg]
  · rw [abs_of_nonneg literal.size_nonneg]

/-- At a scale, the digits of a literal are followed by as many zeros as it shifts them. -/
theorem scaled_eq (literal : Literal) (scale : ℕ) :
    |literal.value| * 10 ^ scale =
      digitsValue literal.significant * (10 : ℚ) ^ literal.shift scale := by
  have joined : digitsValue literal.significant =
      10 ^ literal.fraction.length * digitsValue literal.whole + digitsValue literal.fraction := by
    rw [significant, digitsValue_dropWhile_zero, digitsValue_append]
  have shifted : literal.shift scale = literal.exponent - literal.fraction.length + scale := by
    unfold shift
    omega
  have ten : (10 : ℚ) ≠ 0 := by norm_num
  rw [abs_value, size, joined, shifted, zpow_add₀ ten, zpow_sub₀ ten, zpow_natCast, zpow_natCast]
  push_cast
  field_simp

/-- If the digits move up nothing is rounded: zeros are put behind them. -/
theorem magnitudeOf_of_shift_nonneg (up : 0 ≤ literal.shift scale) :
    magnitudeOf literal.value scale =
      digitsValue literal.significant * 10 ^ (literal.shift scale).toNat := by
  have whole : |literal.value| * 10 ^ scale =
      ((digitsValue literal.significant * 10 ^ (literal.shift scale).toNat : ℕ) : ℚ) / (1 : ℕ) := by
    rw [scaled_eq, Nat.cast_one, div_one, ← Int.toNat_of_nonneg up, zpow_natCast, Int.toNat_natCast]
    push_cast
    rfl
  rw [magnitudeOf, whole, floor_add_half _ Nat.one_pos]
  omega

/-- If the digits move down the magnitude is the quotient by a power of ten, with a half rounded up,
in whole numbers alone. -/
theorem magnitudeOf_of_shift_neg (down : literal.shift scale < 0) :
    magnitudeOf literal.value scale =
      (2 * digitsValue literal.significant + 10 ^ (-literal.shift scale).toNat) /
        (2 * 10 ^ (-literal.shift scale).toNat) := by
  have ratio : |literal.value| * 10 ^ scale = (digitsValue literal.significant : ℚ) /
      ((10 ^ (-literal.shift scale).toNat : ℕ) : ℚ) := by
    have back : literal.shift scale = -((-literal.shift scale).toNat : ℤ) := by omega
    rw [scaled_eq, back, zpow_neg, zpow_natCast, Int.neg_neg, Int.toNat_natCast]
    push_cast
    rw [div_eq_mul_inv]
  rw [magnitudeOf, ratio, floor_add_half _ (Nat.pow_pos (by decide))]

end Literal

/-! ### Digits that are moved -/

/-- The largest precision leaves room in a signed 128-bit word. -/
theorem le_largestDigits {n precision : ℕ} (most : precision ≤ 38) (small : n ≤ 10 ^ precision) :
    n ≤ largestDigits := by
  have widest : 10 ^ precision ≤ 10 ^ 38 := Nat.pow_le_pow_right (by decide) most
  have room : 10 ^ 38 ≤ largestDigits := by decide
  omega

/-- Digits that a precision allows are read. -/
theorem boundedValue_eq {digits : List Char} {precision : ℕ} (most : precision ≤ 38)
    (all : ∀ c ∈ digits, c.isDigit = true) (few : digits.length ≤ precision) :
    boundedValue digits = .ok (digitsValue digits) := by
  have small : digitsValue digits < 10 ^ digits.length := digitsValue_lt all
  have narrow : 10 ^ digits.length ≤ 10 ^ precision := Nat.pow_le_pow_right (by decide) few
  rw [boundedValue, if_pos (le_largestDigits most (by omega))]

/-- A magnitude is found, or it is refused for having more digits than the precision allows. -/
def Settles (precision magnitude : ℕ) (result : Except Refusal ℕ) : Prop :=
  result = .ok magnitude ∨ result = .error .precisionExceeded ∧ 10 ^ precision ≤ magnitude

section

variable {first : Char} {rest : List Char} {precision : ℕ}

/-- Moving digits up by so many places gives the magnitude, or gives up where there would be more
digits than the precision allows. The first digit is not zero, so the number of digits tells how
large the number is. -/
theorem settles_raise (most : precision ≤ 38) (all : ∀ c ∈ first :: rest, c.isDigit = true)
    (significant : first ≠ '0') (places : ℕ) :
    Settles precision (digitsValue (first :: rest) * 10 ^ places)
      (raise (first :: rest) places precision) := by
  unfold raise
  split
  · next many =>
    right
    refine ⟨rfl, ?_⟩
    rw [List.length_cons] at many
    calc 10 ^ precision ≤ 10 ^ (rest.length + places) := Nat.pow_le_pow_right (by decide) (by omega)
      _ = 10 ^ rest.length * 10 ^ places := Nat.pow_add ..
      _ ≤ _ := Nat.mul_le_mul_right _ (pow_le_digitsValue (all first List.mem_cons_self) significant)
  · next few =>
    left
    rw [boundedValue_eq most all (by omega)]
    rfl

/-- The last digits are the remainder by a power of ten, and the others the quotient. -/
theorem digitsValue_take_drop {digits : List Char} (all : ∀ c ∈ digits, c.isDigit = true)
    {places : ℕ} (within : places ≤ digits.length) :
    digitsValue digits = 10 ^ places * digitsValue (digits.take (digits.length - places)) +
        digitsValue (digits.drop (digits.length - places)) ∧
      digitsValue (digits.drop (digits.length - places)) < 10 ^ places := by
  have length : (digits.drop (digits.length - places)).length = places := by
    rw [List.length_drop]
    omega
  constructor
  · conv_lhs => rw [← List.take_append_drop (digits.length - places) digits]
    rw [digitsValue_append, length]
  · conv_rhs => rw [← length]
    exact digitsValue_lt fun c among => all c (List.mem_of_mem_drop among)

/-- The first of the dropped digits says whether what is dropped is at least a half. -/
theorem any_head_drop {digits : List Char} (all : ∀ c ∈ digits, c.isDigit = true) {places : ℕ}
    (some : 0 < places) (within : places ≤ digits.length) :
    (digits.drop (digits.length - places)).head?.any ('5' ≤ ·) =
      decide (10 ^ places ≤ 2 * digitsValue (digits.drop (digits.length - places))) := by
  have length : (digits.drop (digits.length - places)).length = places := by
    rw [List.length_drop]
    omega
  have dropped : ∀ c ∈ digits.drop (digits.length - places), c.isDigit = true :=
    fun c among => all c (List.mem_of_mem_drop among)
  generalize digits.drop (digits.length - places) = back at length dropped
  subst length
  obtain ⟨first, rest, rfl⟩ := List.exists_cons_of_length_pos some
  have half := half_le_digitsValue_iff dropped
  simp only [List.length_cons, List.head?_cons, Option.any_some, half]

/-- Half a unit is rounded up to a whole one. -/
theorem div_add_half {kept dropped unit : ℕ} (part : dropped < unit) :
    (2 * (unit * kept + dropped) + unit) / (2 * unit) =
      kept + if unit ≤ 2 * dropped then 1 else 0 := by
  have regrouped : 2 * (unit * kept + dropped) + unit = 2 * dropped + unit + 2 * unit * kept := by
    ring
  rw [regrouped, Nat.add_mul_div_left _ _ (by omega), Nat.add_comm]
  congr 1
  split
  · exact Nat.div_eq_of_lt_le (by omega) (by omega)
  · exact Nat.div_eq_of_lt (by omega)

/-- If more digits are kept than a precision allows, the first of them is one digit too many. -/
theorem pow_le_digitsValue_take (all : ∀ c ∈ first :: rest, c.isDigit = true)
    (significant : first ≠ '0') {count : ℕ} (many : precision < ((first :: rest).take count).length) :
    10 ^ precision ≤ digitsValue ((first :: rest).take count) := by
  cases count with
  | zero => cases many
  | succ count =>
    rw [List.take_succ_cons, List.length_cons] at many
    rw [List.take_succ_cons]
    calc 10 ^ precision ≤ 10 ^ (rest.take count).length :=
          Nat.pow_le_pow_right (by decide) (Nat.le_of_lt_succ many)
      _ ≤ _ := pow_le_digitsValue (all first List.mem_cons_self) significant

/-- Moving digits down drops as many of them and rounds by the first one dropped. It gives the
magnitude, or gives up where more digits are left than the precision allows. -/
theorem settles_lower (most : precision ≤ 38) (all : ∀ c ∈ first :: rest, c.isDigit = true)
    (significant : first ≠ '0') {places : ℕ} (some : 0 < places) :
    Settles precision ((2 * digitsValue (first :: rest) + 10 ^ places) / (2 * 10 ^ places))
      (lower (first :: rest) places precision) := by
  unfold lower
  by_cases beyond : (first :: rest).length < places
  · -- Not one digit is left, so the number is below a tenth.
    rw [if_pos beyond]
    left
    have below : digitsValue (first :: rest) < 10 ^ (first :: rest).length := digitsValue_lt all
    have tenth : 10 ^ (first :: rest).length * 10 ≤ 10 ^ places := by
      rw [← Nat.pow_succ]
      exact Nat.pow_le_pow_right (by decide) beyond
    rw [Nat.div_eq_of_lt (by omega)]
  · have within : places ≤ (first :: rest).length := Nat.not_lt.mp beyond
    obtain ⟨parts, part⟩ := digitsValue_take_drop all within
    have half := any_head_drop all some within
    have kept : ∀ c ∈ (first :: rest).take ((first :: rest).length - places), c.isDigit = true :=
      fun c among => all c (List.mem_of_mem_take among)
    rw [if_neg beyond, parts, div_add_half part]
    dsimp only
    by_cases many : precision < ((first :: rest).take ((first :: rest).length - places)).length
    · rw [if_pos many]
      right
      exact ⟨rfl, Nat.le_add_right_of_le (pow_le_digitsValue_take all significant many)⟩
    · rw [if_neg many, boundedValue_eq most kept (Nat.not_lt.mp many)]
      left
      simp only [half, decide_eq_true_eq]
      rfl

end

/-- The magnitude of a literal is that of the number that it denotes. -/
theorem Literal.settles_magnitude {literal : Literal} {precision : ℕ} (most : precision ≤ 38)
    (digits : ∀ c ∈ literal.whole ++ literal.fraction, c.isDigit = true) (scale : ℕ) :
    Settles precision (magnitudeOf literal.value scale) (literal.magnitude precision scale) := by
  unfold magnitude
  dsimp only
  cases left : literal.significant with
  | nil =>
    left
    have zero : |literal.value| * 10 ^ scale = ((0 : ℕ) : ℚ) / ((1 : ℕ) : ℚ) := by
      rw [scaled_eq, left]
      simp [digitsValue]
    rw [magnitudeOf, zero, floor_add_half _ Nat.one_pos]
    rfl
  | cons first rest =>
    have all : ∀ c ∈ first :: rest, c.isDigit = true := fun c among =>
      digits c ((List.dropWhile_sublist _).subset (left ▸ among))
    have notZero : first ≠ '0' := ne_zero_of_dropWhile_zero left
    rw [List.isEmpty_cons, if_neg Bool.false_ne_true]
    by_cases up : 0 ≤ literal.shift scale
    · rw [if_pos up, magnitudeOf_of_shift_nonneg up, left]
      exact settles_raise most all notZero _
    · rw [if_neg up, magnitudeOf_of_shift_neg (Int.not_le.mp up), left]
      exact settles_lower most all notZero (by omega)

/-- A minus in front of zero makes no difference. -/
theorem Literal.signed_eq (literal : Literal) (scale : ℕ) :
    (if literal.negative then -(magnitudeOf literal.value scale : Int)
      else magnitudeOf literal.value scale) =
    if literal.value < 0 then -(magnitudeOf literal.value scale : Int)
      else magnitudeOf literal.value scale := by
  cases sign : literal.negative with
  | false =>
    have least : ¬ literal.value < 0 := by
      simpa [value, sign] using literal.size_nonneg
    rw [if_neg Bool.false_ne_true, if_neg least]
  | true =>
    rw [if_pos rfl]
    by_cases less : literal.value < 0
    · rw [if_pos less]
    · have zero : literal.value = 0 := by
        have most : literal.value ≤ 0 := by simpa [value, sign] using literal.size_nonneg
        exact le_antisymm most (not_lt.mp less)
      have nothing : magnitudeOf 0 scale = 0 := by norm_num [magnitudeOf]
      rw [zero, nothing, if_neg (lt_irrefl _)]
      rfl

/-- A literal is stored as the number that it denotes. -/
theorem Literal.rescale_eq {literal : Literal} {precision : ℕ} (most : precision ≤ 38)
    (digits : ∀ c ∈ literal.whole ++ literal.fraction, c.isDigit = true) (scale : ℕ) :
    literal.rescale precision scale = stored literal.value precision scale := by
  unfold rescale stored
  obtain found | ⟨refused, large⟩ := settles_magnitude most digits scale
  · rw [found, ← signed_eq]
    by_cases small : magnitudeOf literal.value scale < 10 ^ precision
    · rw [if_pos small]
      exact if_neg (Nat.not_le.mpr small)
    · rw [if_neg small]
      exact if_pos (Nat.not_lt.mp small)
  · rw [refused, if_neg (Nat.not_lt.mpr large)]
    rfl

/-! ### Words of 128 bits -/

/-- A number, if a signed 128-bit word can hold it. -/
def word? (n : ℕ) : Option ℕ :=
  if n ≤ largestDigits then some n else none

/-- `raise` on words: the digits, the power of ten and their product have to fit. -/
def checkedRaise (digits : List Char) (places precision : ℕ) : Option (Except Refusal ℕ) :=
  if precision < digits.length + places then some (.error .precisionExceeded)
  else do
    let value ← word? (digitsValue digits)
    let power ← word? (10 ^ places)
    let product ← word? (value * power)
    return .ok product

/-- `lower` on words: the digits that are kept have to fit, and so after a half is rounded up. -/
def checkedLower (digits : List Char) (places precision : ℕ) : Option (Except Refusal ℕ) :=
  if digits.length < places then some (.ok 0)
  else
    let kept := digits.take (digits.length - places)
    let dropped := digits.drop (digits.length - places)
    if precision < kept.length then some (.error .precisionExceeded)
    else do
      let value ← word? (digitsValue kept)
      let sum ← word? (value + if dropped.head?.any ('5' ≤ ·) then 1 else 0)
      return .ok sum

namespace Literal

/-- The magnitude of a literal at a scale, on words. -/
def checkedMagnitude (literal : Literal) (precision scale : ℕ) : Option (Except Refusal ℕ) :=
  let digits := literal.significant
  let shift := literal.shift scale
  if digits.isEmpty then some (.ok 0)
  else if 0 ≤ shift then checkedRaise digits shift.toNat precision
  else checkedLower digits (-shift).toNat precision

/-- The stored value of a literal at a precision and a scale, on words. -/
def checkedRescale (literal : Literal) (precision scale : ℕ) : Option (Except Refusal Int) := do
  match ← literal.checkedMagnitude precision scale with
  | .error refusal => return .error refusal
  | .ok magnitude =>
    let limit ← word? (10 ^ precision)
    if limit ≤ magnitude then return .error .precisionExceeded
    else return .ok (if literal.negative then -(magnitude : Int) else magnitude)

end Literal

/-- The stored value of a text at a precision and a scale, on words. -/
def checkedParse (text : String) (precision scale : ℕ) : Option (Except Refusal Int) :=
  match Literal.parse? text with
  | none => some (.error .malformed)
  | some literal => literal.checkedRescale precision scale

section

variable {precision : ℕ} (most : precision ≤ 38)
include most

/-- A number of at most 38 digits, or the first one above, fits into a word. -/
theorem word?_eq {n : ℕ} (small : n ≤ 10 ^ precision) : word? n = some n :=
  if_pos (le_largestDigits most small)

/-- Moving digits up stays within words: it gives up before any product is too large. -/
theorem checkedRaise_eq {digits : List Char} (all : ∀ c ∈ digits, c.isDigit = true) (places : ℕ) :
    checkedRaise digits places precision = some (raise digits places precision) := by
  unfold checkedRaise raise
  by_cases many : precision < digits.length + places
  · rw [if_pos many, if_pos many]
  · have room : 10 ^ digits.length * 10 ^ places ≤ 10 ^ precision := by
      rw [← Nat.pow_add]
      exact Nat.pow_le_pow_right (by decide) (Nat.not_lt.mp many)
    have value : digitsValue digits ≤ 10 ^ digits.length := (digitsValue_lt all).le
    have product : digitsValue digits * 10 ^ places ≤ 10 ^ precision :=
      (Nat.mul_le_mul_right _ value).trans room
    have power : 10 ^ places ≤ 10 ^ precision := Nat.pow_le_pow_right (by decide) (by omega)
    have front : digitsValue digits ≤ 10 ^ precision :=
      value.trans (Nat.pow_le_pow_right (by decide) (by omega))
    rw [if_neg many, if_neg many, word?_eq most front, word?_eq most power,
      boundedValue_eq most all (by omega)]
    simp only [Option.bind_eq_bind, Option.bind_some, word?_eq most product]
    rfl

/-- Moving digits down stays within words: what is kept has at most 38 digits, and rounding adds one
at most. -/
theorem checkedLower_eq {digits : List Char} (all : ∀ c ∈ digits, c.isDigit = true) (places : ℕ) :
    checkedLower digits places precision = some (lower digits places precision) := by
  unfold checkedLower lower
  dsimp only
  by_cases beyond : digits.length < places
  · rw [if_pos beyond, if_pos beyond]
  · rw [if_neg beyond, if_neg beyond]
    have kept : ∀ c ∈ digits.take (digits.length - places), c.isDigit = true :=
      fun c among => all c (List.mem_of_mem_take among)
    by_cases many : precision < (digits.take (digits.length - places)).length
    · rw [if_pos many, if_pos many]
    · have value : digitsValue (digits.take (digits.length - places)) < 10 ^ precision :=
        (digitsValue_lt kept).trans_le (Nat.pow_le_pow_right (by decide) (Nat.not_lt.mp many))
      have sum : digitsValue (digits.take (digits.length - places)) +
          (if (digits.drop (digits.length - places)).head?.any ('5' ≤ ·) then 1 else 0) ≤
            10 ^ precision := by
        split <;> omega
      rw [if_neg many, if_neg many, word?_eq most value.le,
        boundedValue_eq most kept (Nat.not_lt.mp many)]
      simp only [Option.bind_eq_bind, Option.bind_some, word?_eq most sum]
      rfl

namespace Literal

variable {literal : Literal} (digits : ∀ c ∈ literal.whole ++ literal.fraction, c.isDigit = true)
include digits

/-- The magnitude of a literal is computed within words, whichever way the digits move. -/
theorem checkedMagnitude_eq (scale : ℕ) :
    literal.checkedMagnitude precision scale = some (literal.magnitude precision scale) := by
  have all : ∀ c ∈ literal.significant, c.isDigit = true := fun c among =>
    digits c ((List.dropWhile_sublist _).subset among)
  unfold checkedMagnitude magnitude
  dsimp only
  split
  · rfl
  · split
    · exact checkedRaise_eq most all _
    · exact checkedLower_eq most all _

/-- No number on the way to a stored value exceeds a word. -/
theorem checkedRescale_eq (scale : ℕ) :
    literal.checkedRescale precision scale = some (literal.rescale precision scale) := by
  unfold checkedRescale rescale
  rw [checkedMagnitude_eq most digits]
  cases literal.magnitude precision scale with
  | error refusal => rfl
  | ok magnitude =>
    simp only [Option.bind_eq_bind, Option.bind_some, word?_eq most le_rfl]
    by_cases exceeds : 10 ^ precision ≤ magnitude
    · rw [if_pos exceeds]
      exact congrArg some (if_pos exceeds).symm
    · rw [if_neg exceeds]
      exact congrArg some (if_neg exceeds).symm

end Literal

end

end Columnar.Number.Decimal
