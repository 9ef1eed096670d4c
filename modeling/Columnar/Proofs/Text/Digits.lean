import Mathlib.Algebra.GroupWithZero.Nat
import Columnar.Text.Blank
import Columnar.Text.Digits
/-!
# Reading and writing decimal digits

A number is read from the digits that write it, with zeros in front of them or without, and fewer
digits write a smaller number. So a number is written in one way only, once a width is filled and no
zero in front is superfluous (`Fills.eq_paddedDigits`). Digits are no blanks, so a reader that skips
blanks stops at them.
-/

set_option autoImplicit false

namespace Columnar.Text

/-- The digits are ten characters in a row. -/
theorem isDigit_iff (c : Char) : c.isDigit = true ↔ 48 ≤ c.toNat ∧ c.toNat ≤ 57 := by
  simp only [Char.isDigit, Bool.and_eq_true, decide_eq_true_eq]
  exact and_congr UInt32.le_iff_toNat_le UInt32.le_iff_toNat_le

/-- The value of digits is that of reading them in base ten from the left. -/
theorem digitsValue_eq (digits : List Char) : digitsValue digits = Nat.ofDigitChars 10 digits 0 := rfl

/-- Digits in front count by as many powers of ten as there are digits behind them. -/
theorem digitsValue_append (front back : List Char) :
    digitsValue (front ++ back) = 10 ^ back.length * digitsValue front + digitsValue back := by
  rw [digitsValue_eq, Nat.ofDigitChars_append, Nat.ofDigitChars_eq_ofDigitChars_zero]
  rfl

@[simp] theorem digitsValue_decimalDigits (n : Nat) : digitsValue (decimalDigits n) = n :=
  Nat.ofDigitChars_ten_toDigits

@[simp] theorem digitsValue_paddedDigits (width n : Nat) : digitsValue (paddedDigits width n) = n := by
  have zeros : digitsValue (List.replicate (width - (decimalDigits n).length) '0') = 0 := by
    rw [digitsValue_eq, Nat.ofDigitChars_replicate_zero, Nat.mul_zero]
  rw [paddedDigits, digitsValue_append, zeros, digitsValue_decimalDigits, Nat.mul_zero, Nat.zero_add]

/-- Digits write a number with no more places than there are of them. -/
theorem digitsValue_lt {digits : List Char} (all : ∀ c ∈ digits, c.isDigit = true) :
    digitsValue digits < 10 ^ digits.length := by
  induction digits with
  | nil => exact Nat.one_pos
  | cons c rest ih =>
    have others := ih fun other among => all other (List.mem_cons_of_mem _ among)
    have range := (isDigit_iff c).mp (all c List.mem_cons_self)
    have value : digitsValue [c] = c.toNat - 48 := Nat.zero_add _
    rw [← List.singleton_append, digitsValue_append, value, List.singleton_append,
      List.length_cons, Nat.pow_succ]
    have most : 10 ^ rest.length * (c.toNat - 48) ≤ 10 ^ rest.length * 9 :=
      Nat.mul_le_mul_left _ (by omega)
    omega

/-- Digits that do not start with a zero write a number with as many places as there are of them. -/
theorem pow_le_digitsValue {first : Char} {rest : List Char} (digit : first.isDigit = true)
    (significant : first ≠ '0') : 10 ^ rest.length ≤ digitsValue (first :: rest) := by
  have range := (isDigit_iff first).mp digit
  have other : first.toNat ≠ 48 := fun same => significant (Char.toNat_inj.mp same)
  have value : digitsValue [first] = first.toNat - 48 := Nat.zero_add _
  rw [← List.singleton_append, digitsValue_append]
  calc 10 ^ rest.length = 10 ^ rest.length * 1 := (Nat.mul_one _).symm
    _ ≤ 10 ^ rest.length * digitsValue [first] := Nat.mul_le_mul_left _ (by omega)
    _ ≤ _ := Nat.le_add_right _ _

/-- The first of some digits says whether they write at least half of what they have room for. -/
theorem half_le_digitsValue_iff {first : Char} {rest : List Char}
    (all : ∀ c ∈ first :: rest, c.isDigit = true) :
    10 ^ (rest.length + 1) ≤ 2 * digitsValue (first :: rest) ↔ '5' ≤ first := by
  have range := (isDigit_iff first).mp (all first List.mem_cons_self)
  have others : digitsValue rest < 10 ^ rest.length :=
    digitsValue_lt fun c among => all c (List.mem_cons_of_mem _ among)
  have value : digitsValue [first] = first.toNat - 48 := Nat.zero_add _
  have order : '5' ≤ first ↔ 53 ≤ first.toNat := UInt32.le_iff_toNat_le
  rw [order, ← List.singleton_append, digitsValue_append, value, Nat.pow_succ]
  constructor
  · intro half
    refine Nat.not_lt.mp fun less => ?_
    have most : 10 ^ rest.length * (first.toNat - 48) ≤ 10 ^ rest.length * 4 :=
      Nat.mul_le_mul_left _ (by omega)
    omega
  · intro enough
    have least : 10 ^ rest.length * 5 ≤ 10 ^ rest.length * (first.toNat - 48) :=
      Nat.mul_le_mul_left _ (by omega)
    omega

/-- Leading zeros count for nothing. -/
theorem digitsValue_dropWhile_zero (digits : List Char) :
    digitsValue (digits.dropWhile (· == '0')) = digitsValue digits := by
  induction digits with
  | nil => rfl
  | cons c rest ih =>
    rw [List.dropWhile_cons]
    split
    · next zero =>
      rw [ih, beq_iff_eq.mp zero]
      rfl
    · rfl

/-- What is left without leading zeros does not start with a zero. -/
theorem ne_zero_of_dropWhile_zero {digits rest : List Char} {first : Char}
    (left : digits.dropWhile (· == '0') = first :: rest) : first ≠ '0' := by
  intro zero
  have head := List.head?_dropWhile_not (· == '0') digits
  rw [left] at head
  simp [zero] at head

/-- A number is written in nothing but digits, the zeros in front of it included. -/
theorem isDigit_of_mem_paddedDigits {width n : Nat} {c : Char} (among : c ∈ paddedDigits width n) :
    c.isDigit = true := by
  obtain zero | digit := List.mem_append.mp among
  · rw [List.eq_of_mem_replicate zero]
    rfl
  · exact Nat.isDigit_of_mem_toDigits (by decide) (by decide) digit

/-- A number has at most so many digits when it is below that power of ten. -/
theorem length_decimalDigits_le {n width : Nat} (positive : 0 < width) :
    (decimalDigits n).length ≤ width ↔ n < 10 ^ width :=
  Nat.length_toDigits_le_iff (by decide) positive

/-- Zeros in front fill a number to its width. -/
theorem le_length_paddedDigits (width n : Nat) : width ≤ (paddedDigits width n).length := by
  rw [paddedDigits, List.length_append, List.length_replicate]
  omega

/-- A number has as many digits as it is padded to if it has no more by itself. -/
theorem length_paddedDigits {width n : Nat} (positive : 0 < width) (small : n < 10 ^ width) :
    (paddedDigits width n).length = width := by
  have least := (length_decimalDigits_le positive).mpr small
  rw [paddedDigits, List.length_append, List.length_replicate]
  omega

/-- A number is written in one digit at least. -/
theorem paddedDigits_ne_nil (width n : Nat) : paddedDigits width n ≠ [] := by
  intro none
  have some : 0 < (decimalDigits n).length := Nat.length_toDigits_pos
  have nothing := congrArg List.length none
  rw [paddedDigits, List.length_append, List.length_nil] at nothing
  omega

/-- A number is as long as its width, or longer if its own digits are more. -/
theorem length_paddedDigits_eq_max (width n : Nat) :
    (paddedDigits width n).length = max width (decimalDigits n).length := by
  rw [paddedDigits, List.length_append, List.length_replicate]
  omega

/-- Digits are determined by their value and their number. -/
theorem eq_of_digitsValue_eq {digits other : List Char} (all : ∀ c ∈ digits, c.isDigit = true)
    (all' : ∀ c ∈ other, c.isDigit = true) (length : digits.length = other.length)
    (value : digitsValue digits = digitsValue other) : digits = other := by
  induction digits generalizing other with
  | nil => exact (List.length_eq_zero_iff.mp length.symm).symm
  | cons c rest ih =>
    obtain ⟨c', rest', rfl⟩ := List.exists_cons_of_length_eq_add_one length.symm
    have length' : rest.length = rest'.length := Nat.succ_inj.mp length
    have small := digitsValue_lt fun other among => all other (List.mem_cons_of_mem _ among)
    have small' := digitsValue_lt fun other among => all' other (List.mem_cons_of_mem _ among)
    have range := (isDigit_iff c).mp (all c List.mem_cons_self)
    have range' := (isDigit_iff c').mp (all' c' List.mem_cons_self)
    have one : digitsValue [c] = c.toNat - 48 := Nat.zero_add _
    have one' : digitsValue [c'] = c'.toNat - 48 := Nat.zero_add _
    rw [← List.singleton_append, ← List.singleton_append (l := rest'), digitsValue_append,
      digitsValue_append, ← length'] at value
    rw [← length'] at small'
    have positive : 0 < 10 ^ rest.length := Nat.pow_pos (by decide)
    have front := congrArg (· / 10 ^ rest.length) value
    have back := congrArg (· % 10 ^ rest.length) value
    simp only [Nat.mul_add_div positive, Nat.div_eq_of_lt small, Nat.div_eq_of_lt small',
      Nat.mul_add_mod, Nat.mod_eq_of_lt small, Nat.mod_eq_of_lt small'] at front back
    have same : c = c' := Char.toNat_inj.mp (by omega)
    rw [same, ih (fun other among => all other (List.mem_cons_of_mem _ among))
      (fun other among => all' other (List.mem_cons_of_mem _ among)) length' back]

/-- Digits up to a width, or more of them without a superfluous zero in front. -/
structure Fills (width : Nat) (digits : List Char) : Prop where
  isDigit : ∀ c ∈ digits, c.isDigit = true
  width_le : width ≤ digits.length
  significant : digits.head? = some '0' → digits.length = width

/-- A number that is written to a width fills it, and has no superfluous zero. -/
theorem fills_paddedDigits {width : Nat} (positive : 0 < width) (n : Nat) :
    Fills width (paddedDigits width n) := by
  refine ⟨fun c among => isDigit_of_mem_paddedDigits among, le_length_paddedDigits width n, ?_⟩
  intro zero
  obtain ⟨rest, padded⟩ := List.head?_eq_some_iff.mp zero
  have least := le_length_paddedDigits width n
  have length := length_paddedDigits_eq_max width n
  have value : digitsValue rest = n := by
    have whole := digitsValue_paddedDigits width n
    rwa [padded, ← List.singleton_append, digitsValue_append, show digitsValue ['0'] = 0 from rfl,
      Nat.mul_zero, Nat.zero_add] at whole
  have digits : ∀ c ∈ rest, c.isDigit = true := by
    intro c among
    have within : c ∈ paddedDigits width n := by
      rw [padded]
      exact List.mem_cons_of_mem _ among
    exact isDigit_of_mem_paddedDigits within
  have small : n < 10 ^ rest.length := value ▸ digitsValue_lt digits
  rw [padded, List.length_cons] at least length ⊢
  -- With more digits than the width, the others would be enough to write the number.
  by_cases others : 0 < rest.length
  · have fewer := (length_decimalDigits_le others).mpr small
    omega
  · omega

/-- Only one string of digits fills a width with a number. -/
theorem Fills.eq_paddedDigits {width : Nat} {digits : List Char} (fills : Fills width digits)
    (positive : 0 < width) : digits = paddedDigits width (digitsValue digits) := by
  have small := digitsValue_lt fills.isDigit
  have least := fills.width_le
  refine eq_of_digitsValue_eq fills.isDigit (fun c among => isDigit_of_mem_paddedDigits among) ?_
    (digitsValue_paddedDigits width _).symm
  have most := (length_decimalDigits_le (by omega)).mpr small
  rw [length_paddedDigits_eq_max]
  by_cases exact : digits.length = width
  · omega
  · obtain ⟨first, rest, rfl⟩ := List.exists_cons_of_length_pos (l := digits) (by omega)
    have notZero : first ≠ '0' := fun zero => exact (fills.significant (by rw [zero]; rfl))
    have large : 10 ^ rest.length ≤ digitsValue (first :: rest) :=
      pow_le_digitsValue (fills.isDigit first List.mem_cons_self) notZero
    have many : ¬ (decimalDigits (digitsValue (first :: rest))).length ≤ rest.length := by
      rw [length_decimalDigits_le (by rw [List.length_cons] at least exact; omega)]
      omega
    rw [List.length_cons] at least exact most ⊢
    omega

/-- A digit is different from any character that is none. -/
theorem ne_of_isDigit {c other : Char} (digit : c.isDigit = true) (sign : other.isDigit = false) :
    c ≠ other := by
  rintro rfl
  rw [digit] at sign
  cases sign

/-! ### Blanks -/

/-- No digit is a blank. -/
theorem isBlank_of_isDigit {c : Char} (digit : c.isDigit = true) : isBlank c = false := by
  have range := (isDigit_iff c).mp digit
  simp only [isBlank, Bool.or_eq_false_iff, Bool.and_eq_false_iff, decide_eq_false_iff_not,
    beq_eq_false_iff_ne]
  omega

/-- A text that begins with no blank loses nothing in front. -/
theorem trimStart_of_head {text : List Char}
    (first : ∀ c, text.head? = some c → isBlank c = false) : trimStart text = text := by
  cases text with
  | nil => rfl
  | cons c rest =>
    have solid : isBlank c = false := first c rfl
    rw [trimStart, List.dropWhile_cons, solid]
    rfl

/-- A text without a blank at either end is trimmed already. -/
theorem trim_of_ends {text : List Char} (first : ∀ c, text.head? = some c → isBlank c = false)
    (last : ∀ c, text.getLast? = some c → isBlank c = false) : trim text = text := by
  have back : trimStart text.reverse = text.reverse :=
    trimStart_of_head fun c found => last c (by rw [← found, List.head?_reverse])
  rw [trim, trimStart_of_head first, trimEnd, ← trimStart, back, List.reverse_reverse]

/-- Blanks in the middle stay. -/
theorem trim_append {front back : List Char} (middle : List Char) (some : front ≠ [])
    (some' : back ≠ []) (first : ∀ c ∈ front, isBlank c = false)
    (last : ∀ c ∈ back, isBlank c = false) :
    trim (front ++ (middle ++ back)) = front ++ (middle ++ back) := by
  refine trim_of_ends (fun c found => first c ?_) fun c found => last c ?_
  · obtain ⟨c', others, rfl⟩ := List.exists_cons_of_ne_nil some
    cases found
    exact List.mem_cons_self
  · rw [← List.append_assoc, List.getLast?_append, List.getLast?_eq_some_getLast some'] at found
    cases found
    exact List.getLast_mem some'

/-- A text without blanks stays as it is. -/
theorem trim_of_forall {text : List Char} (solid : ∀ c ∈ text, isBlank c = false) :
    trim text = text :=
  trim_of_ends (fun c found => solid c (List.mem_of_head? found))
    fun c found => solid c (List.mem_of_getLast? found)

/-- A number loses nothing in front when blanks are taken off, whatever follows it. -/
theorem trimStart_paddedDigits (width n : Nat) (rest : List Char) :
    trimStart (paddedDigits width n ++ rest) = paddedDigits width n ++ rest := by
  obtain ⟨first, others, same⟩ := List.exists_cons_of_ne_nil (paddedDigits_ne_nil width n)
  have digit : first.isDigit = true := isDigit_of_mem_paddedDigits (same ▸ List.mem_cons_self)
  refine trimStart_of_head fun c found => ?_
  rw [same] at found
  cases found
  exact isBlank_of_isDigit digit

end Columnar.Text
