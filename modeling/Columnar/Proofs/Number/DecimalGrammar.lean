import Mathlib.Data.List.TakeWhile
import Columnar.Proofs.Number.DecimalValue
/-!
# Which texts are decimal literals

The grammar of decimal literals, in relations between a text and what it spells: a sign that may be left
out, digits with at most one point, and a power of ten that may be left out. The reader takes a text
apart from left to right, and accepts exactly the texts of the grammar (`parse?_eq_some_iff`). So what
is refused as malformed does not depend on precision and scale, and what is accepted is stored as the
number that it denotes.
-/

set_option autoImplicit false

namespace Columnar.Number.Decimal

open Columnar.Text

/-! ### The grammar -/

/-- A sign that may be left out, and whether it is a minus. -/
inductive SpellsSign : List Char → Bool → Prop where
  | absent : SpellsSign [] false
  | plus : SpellsSign ['+'] false
  | minus : SpellsSign ['-'] true

/-- Digits with at most one point, and at least one digit before it or behind it. -/
inductive SpellsMantissa : List Char → List Char → List Char → Prop where
  | plain {whole : List Char} (some : whole ≠ []) (digits : ∀ c ∈ whole, c.isDigit = true) :
    SpellsMantissa whole whole []
  | pointed {whole fraction : List Char} (some : whole ++ fraction ≠ [])
    (digits : ∀ c ∈ whole ++ fraction, c.isDigit = true) :
    SpellsMantissa (whole ++ '.' :: fraction) whole fraction

/-- The number that digits with a sign write. -/
def signedValue (negative : Bool) (digits : List Char) : Int :=
  if negative then -(digitsValue digits : Int) else digitsValue digits

/-- A power of ten that may be left out, and otherwise fits a signed 32-bit number. -/
inductive SpellsPower : List Char → Int → Prop where
  | absent : SpellsPower [] 0
  | present {mark : Char} {sign digits : List Char} {negative : Bool} (marked : mark = 'e' ∨ mark = 'E')
    (signed : SpellsSign sign negative) (some : digits ≠ []) (all : ∀ c ∈ digits, c.isDigit = true)
    (least : -2 ^ 31 ≤ signedValue negative digits) (most : signedValue negative digits < 2 ^ 31) :
    SpellsPower (mark :: (sign ++ digits)) (signedValue negative digits)

/-- A decimal literal. -/
inductive Spells : List Char → Literal → Prop where
  | intro {sign mantissa power whole fraction : List Char} {negative : Bool} {exponent : Int}
    (signed : SpellsSign sign negative) (digits : SpellsMantissa mantissa whole fraction)
    (raised : SpellsPower power exponent) :
    Spells (sign ++ (mantissa ++ power)) ⟨negative, whole, fraction, exponent⟩

/-! ### Signs -/

/-- A text that does not start with a sign. -/
def Unsigned (text : List Char) : Prop :=
  ∀ c, text.head? = some c → c ≠ '-' ∧ c ≠ '+'

/-- A text that begins with no sign is taken for positive, and nothing is taken off it. -/
theorem splitSign_of_unsigned {text : List Char} (bare : Unsigned text) :
    splitSign text = (false, text) := by
  unfold splitSign
  split
  · exact absurd rfl (bare '-' rfl).1
  · exact absurd rfl (bare '+' rfl).2
  · rfl

/-- A sign is taken off the text behind it, if that has no sign of its own. -/
theorem SpellsSign.splitSign_append {sign rest : List Char} {negative : Bool}
    (signed : SpellsSign sign negative) (bare : Unsigned rest) :
    splitSign (sign ++ rest) = (negative, rest) := by
  cases signed with
  | absent => exact splitSign_of_unsigned bare
  | plus => rfl
  | minus => rfl

/-- What is split off in front of a text is a sign. -/
theorem exists_spellsSign (text : List Char) :
    ∃ sign, SpellsSign sign (splitSign text).1 ∧ text = sign ++ (splitSign text).2 := by
  unfold splitSign
  split
  · exact ⟨_, .minus, rfl⟩
  · exact ⟨_, .plus, rfl⟩
  · exact ⟨_, .absent, rfl⟩

/-- A text that begins with a digit begins with no sign. -/
theorem unsigned_of_isDigit {digits rest : List Char} (some : digits ≠ [])
    (all : ∀ c ∈ digits, c.isDigit = true) : Unsigned (digits ++ rest) := by
  obtain ⟨first, others, rfl⟩ := List.exists_cons_of_ne_nil some
  intro c head
  cases head
  have digit := all first List.mem_cons_self
  exact ⟨ne_of_isDigit digit rfl, ne_of_isDigit digit rfl⟩

/-- What the reader refuses as a number: no digits at all, or something else among them. -/
theorem refusesDigits_eq_false_iff {digits : List Char} :
    (digits.isEmpty || !digits.all Char.isDigit) = false ↔
      digits ≠ [] ∧ ∀ c ∈ digits, c.isDigit = true := by
  simp

/-! ### Powers of ten -/

/-- A power of ten is marked by either case of the letter. -/
theorem isExponentMark_iff {c : Char} : isExponentMark c = true ↔ c = 'e' ∨ c = 'E' := by
  simp [isExponentMark]

/-- How a power of ten is read: a sign that may be left out, then digits alone, and a value of 32
bits. -/
theorem exponent?_eq (text : List Char) :
    exponent? text =
      if (splitSign text).2.isEmpty || !(splitSign text).2.all Char.isDigit then none
      else if -2 ^ 31 ≤ signedValue (splitSign text).1 (splitSign text).2 ∧
          signedValue (splitSign text).1 (splitSign text).2 < 2 ^ 31 then
        some (signedValue (splitSign text).1 (splitSign text).2)
      else none := rfl

/-- A power of ten is read exactly where a sign, which may be left out, and digits spell a value of
32 bits. -/
theorem exponent?_eq_some_iff {text : List Char} {exponent : Int} :
    exponent? text = some exponent ↔
      ∃ sign digits negative, SpellsSign sign negative ∧ text = sign ++ digits ∧ digits ≠ [] ∧
        (∀ c ∈ digits, c.isDigit = true) ∧ exponent = signedValue negative digits ∧
        -2 ^ 31 ≤ exponent ∧ exponent < 2 ^ 31 := by
  rw [exponent?_eq]
  constructor
  · intro read
    obtain ⟨sign, signed, parts⟩ := exists_spellsSign text
    split at read
    · cases read
    · next number =>
      obtain ⟨some, all⟩ := refusesDigits_eq_false_iff.mp (Bool.eq_false_iff.mpr number)
      split at read
      · next range =>
        rw [Option.some.injEq] at read
        subst read
        exact ⟨sign, _, _, signed, parts, some, all, rfl, range.1, range.2⟩
      · cases read
  · rintro ⟨sign, digits, negative, signed, rfl, some, all, rfl, least, most⟩
    have bare : Unsigned digits := by
      rw [← List.append_nil digits]
      exact unsigned_of_isDigit some all
    rw [signed.splitSign_append bare, refusesDigits_eq_false_iff.mpr ⟨some, all⟩, if_neg Bool.false_ne_true, if_pos ⟨least, most⟩]

/-- Behind the mantissa, the reader accepts powers of ten. -/
theorem optionalExponent?_eq_some_iff {text : List Char} {exponent : Int}
    (marked : ∀ c, text.head? = some c → isExponentMark c = true) :
    optionalExponent? text = some exponent ↔ SpellsPower text exponent := by
  cases text with
  | nil =>
    constructor
    · intro none
      cases none
      exact .absent
    · intro spelled
      cases spelled
      rfl
  | cons mark rest =>
    rw [optionalExponent?, exponent?_eq_some_iff]
    constructor
    · rintro ⟨sign, digits, negative, signed, rfl, some, all, rfl, least, most⟩
      exact .present (isExponentMark_iff.mp (marked mark rfl)) signed some all least most
    · intro spelled
      cases spelled with
      | present _ signed some all least most =>
        exact ⟨_, _, _, signed, rfl, some, all, rfl, least, most⟩

/-- A power of ten that is there begins with its mark. -/
theorem SpellsPower.head_isExponentMark {power : List Char} {exponent : Int}
    (raised : SpellsPower power exponent) :
    ∀ c, power.head? = some c → isExponentMark c = true := by
  intro c head
  cases raised with
  | absent => cases head
  | present marked =>
    cases head
    exact isExponentMark_iff.mpr marked

/-! ### Mantissas -/

/-- A mantissa is cut at its point. -/
theorem spellsMantissa_iff {mantissa whole fraction : List Char} :
    SpellsMantissa mantissa whole fraction ↔
      mantissa.takeWhile (· != '.') = whole ∧ (mantissa.dropWhile (· != '.')).drop 1 = fraction ∧
        whole ++ fraction ≠ [] ∧ ∀ c ∈ whole ++ fraction, c.isDigit = true := by
  constructor
  · intro spelled
    cases spelled with
    | plain some digits =>
      have noPoint : ∀ c ∈ mantissa, (c != '.') = true :=
        fun c among => bne_iff_ne.mpr (ne_of_isDigit (digits c among) rfl)
      rw [List.takeWhile_eq_self_iff.mpr noPoint, List.dropWhile_eq_nil_iff.mpr noPoint]
      simpa using ⟨some, digits⟩
    | pointed some digits =>
      -- No digit is a point, so the first point is the one between the digits.
      have noPoint : ∀ c ∈ whole, (c != '.') = true := fun c among =>
        bne_iff_ne.mpr (ne_of_isDigit (digits c (List.mem_append_left _ among)) rfl)
      rw [List.takeWhile_append_of_pos noPoint, List.dropWhile_append_of_pos noPoint]
      refine ⟨?_, rfl, some, digits⟩
      simp
  · rintro ⟨rfl, rfl, some, digits⟩
    have parts := List.takeWhile_append_dropWhile (p := (· != '.')) (l := mantissa)
    have head := List.head?_dropWhile_not (· != '.') mantissa
    cases behind : mantissa.dropWhile (· != '.') with
    | nil =>
      rw [behind, List.append_nil] at parts
      rw [behind] at some digits
      simp only [List.drop_nil, List.append_nil, parts] at some digits ⊢
      exact .plain some digits
    | cons point rest =>
      rw [behind] at parts head some digits
      have same : point = '.' := by simpa using head
      subst same
      conv => arg 1; rw [← parts]
      exact .pointed some digits

/-- There is no mark of a power among the digits and the point, so the reader can split the text at
the first mark. -/
theorem SpellsMantissa.not_isExponentMark {mantissa whole fraction : List Char}
    (spelled : SpellsMantissa mantissa whole fraction) :
    ∀ c ∈ mantissa, (!isExponentMark c) = true := by
  have ofDigit : ∀ c : Char, c.isDigit = true → (!isExponentMark c) = true := by
    intro c digit
    have lower : c ≠ 'e' := ne_of_isDigit digit rfl
    have upper : c ≠ 'E' := ne_of_isDigit digit rfl
    simp [isExponentMark, lower, upper]
  intro c among
  cases spelled with
  | plain _ digits => exact ofDigit c (digits c among)
  | pointed _ digits =>
    simp only [List.mem_append, List.mem_cons] at among
    obtain before | rfl | behind := among
    · exact ofDigit c (digits c (List.mem_append_left _ before))
    · rfl
    · exact ofDigit c (digits c (List.mem_append_right _ behind))

/-- Digits and point begin with no sign, so the reader takes off the sign of the literal and no
more. -/
theorem SpellsMantissa.unsigned {mantissa whole fraction rest : List Char}
    (spelled : SpellsMantissa mantissa whole fraction) : Unsigned (mantissa ++ rest) := by
  cases spelled with
  | plain some digits => exact unsigned_of_isDigit some digits
  | pointed some digits =>
    cases whole with
    | nil =>
      intro c head
      cases head
      decide
    | cons first others =>
      rw [List.append_assoc]
      exact unsigned_of_isDigit (List.cons_ne_nil _ _)
        fun c among => digits c (List.mem_append_left _ among)

/-! ### Literals -/

/-- What stands behind the mantissa starts with a mark. -/
theorem isExponentMark_of_head_dropWhile {text : List Char} {c : Char}
    (head : (text.dropWhile (!isExponentMark ·)).head? = some c) : isExponentMark c = true := by
  have stop := List.head?_dropWhile_not (!isExponentMark ·) text
  rw [head] at stop
  simpa using stop

/-- A mantissa and a power of ten are told apart by the mark. -/
theorem SpellsMantissa.split_append {mantissa whole fraction power : List Char} {exponent : Int}
    (digits : SpellsMantissa mantissa whole fraction) (raised : SpellsPower power exponent) :
    (mantissa ++ power).takeWhile (!isExponentMark ·) = mantissa ∧
      (mantissa ++ power).dropWhile (!isExponentMark ·) = power := by
  rw [List.takeWhile_append_of_pos digits.not_isExponentMark,
    List.dropWhile_append_of_pos digits.not_isExponentMark]
  cases power with
  | nil => simp
  | cons mark rest => simp [raised.head_isExponentMark mark rfl]

/-- The reader takes apart exactly the decimal literals, blanks at their ends apart. -/
theorem parse?_eq_some_iff {text : String} {literal : Literal} :
    Literal.parse? text = some literal ↔ Spells (trim text.toList) literal := by
  unfold Literal.parse?
  generalize trim text.toList = core
  dsimp only
  constructor
  · intro read
    obtain ⟨sign, signed, parts⟩ := exists_spellsSign core
    have halves := List.takeWhile_append_dropWhile (p := (!isExponentMark ·))
      (l := (splitSign core).2)
    split at read
    · cases read
    · next exponent raised =>
      split at read
      · cases read
      · next number =>
        obtain ⟨some, all⟩ := refusesDigits_eq_false_iff.mp (Bool.eq_false_iff.mpr number)
        cases read
        rw [optionalExponent?_eq_some_iff fun c => isExponentMark_of_head_dropWhile] at raised
        have spelled := Spells.intro signed (spellsMantissa_iff.mpr ⟨rfl, rfl, some, all⟩) raised
        rwa [halves, ← parts] at spelled
  · intro spelled
    cases spelled with
    | intro signed digits raised =>
      -- The cuts that the reader makes are the seams of the text: sign, mark and point.
      obtain ⟨front, back⟩ := digits.split_append raised
      obtain ⟨before, behind, some, all⟩ := spellsMantissa_iff.mp digits
      have power := (optionalExponent?_eq_some_iff raised.head_isExponentMark).mpr raised
      have number := refusesDigits_eq_false_iff.mpr ⟨some, all⟩
      rw [signed.splitSign_append digits.unsigned]
      dsimp only
      rw [front, back, power]
      dsimp only
      rw [before, behind, number]
      rfl

/-- A literal that was spelled has nothing but digits on either side of its point. -/
theorem Spells.digits {text : List Char} {literal : Literal} (spelled : Spells text literal) :
    ∀ c ∈ literal.whole ++ literal.fraction, c.isDigit = true := by
  cases spelled with
  | intro _ digits _ => exact (spellsMantissa_iff.mp digits).2.2.2

/-! ### What texts are stored as -/

/-- The number that a text denotes, blanks at its ends apart. -/
def Denotes (text : String) (q : ℚ) : Prop :=
  ∃ literal, Spells (trim text.toList) literal ∧ literal.value = q

section

variable {text : String} {precision : ℕ}

/-- A text denotes one number at most. -/
theorem denotes_iff {literal : Literal} (spelled : Spells (trim text.toList) literal) (q : ℚ) :
    Denotes text q ↔ q = literal.value := by
  constructor
  · rintro ⟨other, spelled', rfl⟩
    rw [← parse?_eq_some_iff] at spelled spelled'
    rw [spelled, Option.some.injEq] at spelled'
    rw [spelled']
  · rintro rfl
    exact ⟨literal, spelled, rfl⟩

/-- A text of the grammar is stored as the number that it spells. -/
theorem parse_of_spells {literal : Literal} (most : precision ≤ 38)
    (spelled : Spells (trim text.toList) literal) (scale : ℕ) :
    parse text precision scale = stored literal.value precision scale := by
  rw [parse, parse?_eq_some_iff.mpr spelled]
  exact Literal.rescale_eq most spelled.digits scale

/-- A text outside the grammar is refused as malformed, before precision and scale are looked at. -/
theorem parse_of_not_spells (none : ¬ ∃ literal, Spells (trim text.toList) literal)
    (precision scale : ℕ) : parse text precision scale = .error .malformed := by
  cases read : Literal.parse? text with
  | none => rw [parse, read]
  | some literal => exact absurd ⟨literal, parse?_eq_some_iff.mp read⟩ none

/-- A number can be too large for its precision, but is never malformed. -/
theorem stored_ne_malformed (q : ℚ) (precision scale : ℕ) :
    stored q precision scale ≠ .error .malformed := by
  unfold stored
  split <;> simp

/-- A text is refused as malformed exactly if it is outside the grammar. -/
theorem parse_eq_malformed_iff (most : precision ≤ 38) (scale : ℕ) :
    parse text precision scale = .error .malformed ↔
      ¬ ∃ literal, Spells (trim text.toList) literal := by
  constructor
  · rintro refused ⟨literal, spelled⟩
    rw [parse_of_spells most spelled] at refused
    exact stored_ne_malformed _ _ _ refused
  · exact fun none => parse_of_not_spells none precision scale

end

/-- The texts that are refused as malformed are those outside the grammar, at any precision and
scale. -/
theorem malformed_iff_not_spelled (text : String) {precision precision' : ℕ} (most : precision ≤ 38)
    (most' : precision' ≤ 38) (scale scale' : ℕ) :
    (parse text precision scale = .error .malformed ↔
      ¬ ∃ literal, Spells (trim text.toList) literal) ∧
    (parse text precision scale = .error .malformed ↔
      parse text precision' scale' = .error .malformed) := by
  refine ⟨parse_eq_malformed_iff most scale, ?_⟩
  rw [parse_eq_malformed_iff most scale, parse_eq_malformed_iff most' scale']

/-- A power of ten that is out of range, at two precisions and scales. -/
theorem malformed_iff_not_spelled_power :
    parse "1e2147483648" 10 2 = .error .malformed ∧
      (¬ ∃ literal, Spells (trim "1e2147483648".toList) literal) ∧
      parse "1e2147483648" 0 255 = .error .malformed := by
  have most : 10 ≤ 38 := by decide
  have most' : 0 ≤ 38 := by decide
  have refused : parse "1e2147483648" 10 2 = .error .malformed := by decide +kernel
  obtain ⟨outside, same⟩ := malformed_iff_not_spelled "1e2147483648" most most' 2 255
  exact ⟨refused, outside.mp refused, same.mp refused⟩

/-- Run on words of 128 bits the reader has a result for every text, and it is the same. -/
theorem checkedParse_eq (text : String) {precision : ℕ} (most : precision ≤ 38) (scale : ℕ) :
    checkedParse text precision scale = some (parse text precision scale) := by
  cases read : Literal.parse? text with
  | none => rw [checkedParse, parse, read]
  | some literal =>
    rw [checkedParse, parse, read]
    exact Literal.checkedRescale_eq most (parse?_eq_some_iff.mp read).digits scale

/-- On no text does a number on the way exceed a signed 128-bit word. What is not refused as malformed
denotes one number, and is stored as that number. -/
theorem accepted_text_stored (text : String) {precision : ℕ} (most : precision ≤ 38) (scale : ℕ) :
    checkedParse text precision scale = some (parse text precision scale) ∧
    (parse text precision scale ≠ .error .malformed →
      ∃ q, (∀ r, Denotes text r ↔ r = q) ∧
        parse text precision scale = stored q precision scale) := by
  refine ⟨checkedParse_eq text most scale, ?_⟩
  intro accepted
  have inside := mt (parse_eq_malformed_iff most scale).mpr accepted
  obtain ⟨literal, spelled⟩ := not_not.mp inside
  exact ⟨literal.value, denotes_iff spelled, parse_of_spells most spelled scale⟩

/-- Rounding up carries into one digit more than the precision allows. -/
theorem accepted_text_stored_carry :
    checkedParse "-999.95" 4 1 = some (parse "-999.95" 4 1) ∧
      parse "-999.95" 4 1 ≠ .error .malformed ∧
      ∃ q, (∀ r, Denotes "-999.95" r ↔ r = q) ∧ parse "-999.95" 4 1 = stored q 4 1 := by
  have most : 4 ≤ 38 := by decide
  have accepted : parse "-999.95" 4 1 ≠ .error .malformed := by decide +kernel
  obtain ⟨fits, kept⟩ := accepted_text_stored "-999.95" most 1
  exact ⟨fits, accepted, kept accepted⟩

end Columnar.Number.Decimal
