import Columnar.Proofs.Number.DecimalGrammar
/-!
# Decimal text reads back

A stored decimal is written as a plain literal: a sign if it is negative, digits, and a point with as
many digits behind it as the scale says. Read at the same scale the digits need not be moved, so the
value that was written is read again (`parse_format`). Among all texts that read as a value, the one
that is written is the only canonical one (`eq_format_of_canonical`).
-/

set_option autoImplicit false

namespace Columnar.Number.Decimal

open Columnar.Text

/-- A literal without a power of ten. -/
def plainText (negative : Bool) (whole fraction : List Char) : List Char :=
  (if negative then ['-'] else []) ++ (whole ++ if fraction.isEmpty then [] else '.' :: fraction)

/-- The digits that a stored value is written with. -/
def writtenDigits (unscaled : Int) (scale : Nat) : List Char :=
  paddedDigits (scale + 1) unscaled.natAbs

/-- How many of the digits stand in front of the point. -/
def wholePlaces (unscaled : Int) (scale : Nat) : Nat :=
  (writtenDigits unscaled scale).length - scale

/-! ### Reading a plain literal -/

section

variable {negative : Bool} {whole fraction : List Char}

/-- A plain text spells the literal of its sign and digits, without a power of ten. -/
theorem spells_plainText (digits : ∀ c ∈ whole ++ fraction, c.isDigit = true) (some : whole ≠ []) :
    Spells (plainText negative whole fraction) ⟨negative, whole, fraction, 0⟩ := by
  have signed : SpellsSign (if negative then ['-'] else []) negative := by
    cases negative with
    | false => exact .absent
    | true => exact .minus
  have mantissa : SpellsMantissa (whole ++ if fraction.isEmpty then [] else '.' :: fraction)
      whole fraction := by
    cases fraction with
    | nil =>
      rw [List.append_nil] at digits
      simpa using SpellsMantissa.plain some digits
    | cons first others => exact .pointed (List.append_ne_nil_of_left_ne_nil some _) digits
  have spelled := Spells.intro signed mantissa .absent
  rwa [List.append_nil] at spelled

/-- A plain text has no blanks, so nothing of it is trimmed away. -/
theorem isBlank_of_mem_plainText (digits : ∀ c ∈ whole ++ fraction, c.isDigit = true) {c : Char}
    (among : c ∈ plainText negative whole fraction) : isBlank c = false := by
  obtain sign | among := List.mem_append.mp among
  · cases negative with
    | false => cases sign
    | true =>
      rw [List.mem_singleton.mp sign]
      rfl
  · obtain before | behind := List.mem_append.mp among
    · exact isBlank_of_isDigit (digits c (List.mem_append_left _ before))
    · cases fraction with
      | nil => cases behind
      | cons first others =>
        obtain rfl | behind := List.mem_cons.mp behind
        · rfl
        · exact isBlank_of_isDigit (digits c (List.mem_append_right _ behind))

/-- A plain literal is taken apart into its sign and its digits. -/
theorem parse?_plainText (digits : ∀ c ∈ whole ++ fraction, c.isDigit = true) (some : whole ≠ []) :
    Literal.parse? (String.ofList (plainText negative whole fraction)) =
      .some ⟨negative, whole, fraction, 0⟩ := by
  rw [parse?_eq_some_iff, String.toList_ofList,
    trim_of_forall fun c among => isBlank_of_mem_plainText digits among]
  exact spells_plainText digits some

/-- A plain literal with as many places as the scale has the magnitude of its digits. -/
theorem magnitudeOf_plain (negative : Bool) (whole fraction : List Char) :
    magnitudeOf (Literal.value ⟨negative, whole, fraction, 0⟩) fraction.length =
      digitsValue (whole ++ fraction) := by
  have still : Literal.shift ⟨negative, whole, fraction, 0⟩ fraction.length = 0 := by
    simp [Literal.shift]
  rw [Literal.magnitudeOf_of_shift_nonneg still.ge, still, Literal.significant,
    digitsValue_dropWhile_zero]
  simp

/-- Such a literal is stored as its digits, with its sign, if the precision allows as many. -/
theorem rescale_plain {precision : ℕ} (most : precision ≤ 38)
    (digits : ∀ c ∈ whole ++ fraction, c.isDigit = true)
    (small : digitsValue (whole ++ fraction) < 10 ^ precision) :
    Literal.rescale ⟨negative, whole, fraction, 0⟩ precision fraction.length =
      .ok (signedValue negative (whole ++ fraction)) := by
  rw [Literal.rescale_eq most digits, stored, ← Literal.signed_eq, magnitudeOf_plain, if_pos small]
  rfl

end

/-! ### Reading what was written -/

/-- The canonical text of a number at a scale: a minus if it is negative, digits without a superfluous
zero in front, and as many behind the point as the scale says, without a point if that is none. -/
def Canonical (negative : Bool) (scale : ℕ) (text : List Char) : Prop :=
  ∃ whole fraction, text = plainText negative whole fraction ∧
    (∀ c ∈ whole ++ fraction, c.isDigit = true) ∧ fraction.length = scale ∧
    whole ≠ [] ∧ (whole.head? = some '0' → whole = ['0'])

/-- A value is written as plain text: the digits of its magnitude, filled up to one more than the
scale, with the point before the last of them. -/
theorem format_eq (unscaled : Int) (scale : ℕ) :
    format unscaled scale = String.ofList (plainText (decide (unscaled < 0))
      ((writtenDigits unscaled scale).take (wholePlaces unscaled scale))
      ((writtenDigits unscaled scale).drop (wholePlaces unscaled scale))) := by
  have sign : (if decide (unscaled < 0) = true then ['-'] else []) =
      if unscaled < 0 then ['-'] else [] := by simp
  have longer : scale + 1 ≤ (writtenDigits unscaled scale).length := le_length_paddedDigits _ _
  rw [plainText, sign, format]
  by_cases whole : scale = 0
  · have all : wholePlaces unscaled scale = (writtenDigits unscaled scale).length := by
      rw [wholePlaces, whole, Nat.sub_zero]
    rw [if_pos whole, all, List.take_length, List.drop_length]
    simp [writtenDigits]
  · have some : ((writtenDigits unscaled scale).drop (wholePlaces unscaled scale)).isEmpty = false := by
      rw [List.isEmpty_eq_false_iff, ← List.length_pos_iff, List.length_drop, wholePlaces]
      omega
    rw [if_neg whole, some]
    simp [writtenDigits, wholePlaces]

/-- A stored value is written as a plain literal. -/
theorem exists_plainText_format (unscaled : Int) (scale : ℕ) :
    ∃ whole fraction,
      format unscaled scale = String.ofList (plainText (decide (unscaled < 0)) whole fraction) ∧
      whole ++ fraction = writtenDigits unscaled scale ∧ fraction.length = scale ∧ whole ≠ [] := by
  have longer : scale + 1 ≤ (writtenDigits unscaled scale).length := le_length_paddedDigits _ _
  refine ⟨_, _, format_eq unscaled scale, List.take_append_drop _ _, ?_, ?_⟩
  · rw [List.length_drop, wholePlaces]
    omega
  · rw [← List.length_pos_iff, List.length_take, wholePlaces]
    omega

/-- All that is written besides sign and point are digits. -/
theorem isDigit_of_writtenDigits {whole fraction : List Char} {unscaled : Int} {scale : ℕ}
    (written : whole ++ fraction = writtenDigits unscaled scale) :
    ∀ c ∈ whole ++ fraction, c.isDigit = true := by
  rw [written]
  exact fun c among => isDigit_of_mem_paddedDigits among

/-- The sign and the digits that a value is written with give the value. -/
theorem signedValue_writtenDigits (unscaled : Int) (scale : ℕ) :
    signedValue (decide (unscaled < 0)) (writtenDigits unscaled scale) = unscaled := by
  have value : digitsValue (writtenDigits unscaled scale) = unscaled.natAbs :=
    digitsValue_paddedDigits _ _
  rw [signedValue, value]
  by_cases negative : unscaled < 0
  · rw [decide_eq_true negative, if_pos rfl]
    omega
  · rw [decide_eq_false negative, if_neg Bool.false_ne_true]
    omega

/-- A stored value that its precision allows reads back from its text. -/
theorem parse_format {unscaled : Int} {precision : ℕ} (most : precision ≤ 38)
    (small : unscaled.natAbs < 10 ^ precision) (scale : ℕ) :
    parse (format unscaled scale) precision scale = .ok unscaled := by
  obtain ⟨whole, fraction, text, written, rfl, some⟩ := exists_plainText_format unscaled scale
  have digits := isDigit_of_writtenDigits written
  have value : digitsValue (whole ++ fraction) = unscaled.natAbs := by
    rw [written]
    exact digitsValue_paddedDigits _ _
  rw [parse, text, parse?_plainText digits some]
  dsimp only
  rw [rescale_plain most digits (by rw [value]; exact small), written, signedValue_writtenDigits]

/-- What is read is a value that the precision allows. -/
theorem natAbs_lt_of_parse {text : String} {precision scale : Nat} {unscaled : Int}
    (read : parse text precision scale = .ok unscaled) : unscaled.natAbs < 10 ^ precision := by
  unfold parse at read
  split at read
  · cases read
  · next literal _ =>
    unfold Literal.rescale at read
    cases found : literal.magnitude precision scale with
    | error refusal =>
      rw [found] at read
      cases read
    | ok magnitude =>
      rw [found] at read
      simp only [bind, Except.bind] at read
      split at read
      · cases read
      · next inside =>
        cases read
        have less : magnitude < 10 ^ precision := Nat.not_le.mp inside
        split <;> omega

/-- The text of a stored value is canonical. -/
theorem canonical_toList_format (unscaled : Int) (scale : ℕ) :
    Canonical (decide (unscaled < 0)) scale (format unscaled scale).toList := by
  obtain ⟨whole, fraction, text, written, places, some⟩ := exists_plainText_format unscaled scale
  refine ⟨whole, fraction, by rw [text, String.toList_ofList], isDigit_of_writtenDigits written,
    places, some, ?_⟩
  intro zero
  have fills : Fills (scale + 1) (whole ++ fraction) := by
    rw [written]
    exact fills_paddedDigits (Nat.succ_pos scale) _
  obtain ⟨rest, rfl⟩ := List.head?_eq_some_iff.mp zero
  have length := fills.significant rfl
  rw [List.length_append, List.length_cons] at length
  rw [List.length_eq_zero_iff.mp (by omega : rest.length = 0)]

/-- A canonical text is the one that its value is written with. -/
theorem eq_format_of_canonical {text : String} {precision scale : ℕ} {unscaled : Int}
    (most : precision ≤ 38) (canonical : Canonical (decide (unscaled < 0)) scale text.toList)
    (read : parse text precision scale = .ok unscaled) : text = format unscaled scale := by
  obtain ⟨whole, fraction, plain, digits, rfl, some, least⟩ := canonical
  have same : text = String.ofList (plainText (decide (unscaled < 0)) whole fraction) := by
    rw [← plain, String.ofList_toList]
  have value : digitsValue (whole ++ fraction) = unscaled.natAbs := by
    rw [same, parse, parse?_plainText digits some] at read
    dsimp only at read
    rw [Literal.rescale_eq most digits] at read
    rw [natAbs_of_stored read, magnitudeOf_plain]
  have fills : Fills (fraction.length + 1) (whole ++ fraction) := by
    refine ⟨digits, ?_, ?_⟩
    · have positive := List.length_pos_iff.mpr some
      rw [List.length_append]
      omega
    · intro zero
      rw [List.head?_append_of_ne_nil _ some] at zero
      rw [least zero, List.length_append, List.length_singleton, Nat.add_comm]
  have written : whole ++ fraction = writtenDigits unscaled fraction.length := by
    rw [writtenDigits, ← value]
    exact fills.eq_paddedDigits (Nat.succ_pos _)
  obtain ⟨whole', fraction', text', written', places', -⟩ :=
    exists_plainText_format unscaled fraction.length
  obtain ⟨rfl, rfl⟩ := List.append_inj' (written.trans written'.symm) places'.symm
  rw [same, text']

/-- Stored values and their texts belong together: what the precision allows reads back from its text,
and whatever text a value was read from, its own text is the only canonical one that reads as it. -/
theorem format_canonical {precision : ℕ} (most : precision ≤ 38) (scale : ℕ) :
    (∀ unscaled : Int, unscaled.natAbs < 10 ^ precision →
      parse (format unscaled scale) precision scale = .ok unscaled) ∧
    ∀ text unscaled, parse text precision scale = .ok unscaled →
      parse (format unscaled scale) precision scale = .ok unscaled ∧
      Canonical (decide (unscaled < 0)) scale (format unscaled scale).toList ∧
      ∀ other : String, Canonical (decide (unscaled < 0)) scale other.toList →
        parse other precision scale = .ok unscaled → other = format unscaled scale := by
  refine ⟨fun unscaled small => parse_format most small scale, ?_⟩
  intro text unscaled read
  refine ⟨parse_format most (natAbs_lt_of_parse read) scale, canonical_toList_format unscaled scale, ?_⟩
  intro other canonical again
  exact eq_format_of_canonical most canonical again

/-- A negative value that is all fraction, read from a text that has to be rounded. -/
theorem format_canonical_fraction :
    parse " -.0005e0" 5 3 = .ok (-1) ∧ format (-1) 3 = "-0.001" ∧
      parse "-0.001" 5 3 = .ok (-1) ∧ Canonical true 3 "-0.001".toList := by
  have read : parse " -.0005e0" 5 3 = .ok (-1) := by decide +kernel
  have text : format (-1) 3 = "-0.001" := by decide +kernel
  have most : 5 ≤ 38 := by decide
  have written := (format_canonical most 3).2 _ _ read
  rw [text] at written
  exact ⟨read, text, written.1, written.2.1⟩

end Columnar.Number.Decimal
