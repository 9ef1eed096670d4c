import Columnar.Json.Printer
import Columnar.Proofs.Text.Digits
/-!
# The text of a value is one line

Control characters of texts and names are escaped, and nothing else that is written has any
(`unbroken_chars`). Below 128 a byte of UTF-8 is the character that it stands for, so no byte of a
value that is written is a control character either, the line feed among them
(`notMem_toUTF8_render`).
-/

set_option autoImplicit false

namespace Columnar.Json

open Columnar.Number (Binary64 Scientific)
open Columnar.Text (decimalDigits)

/-- A text has no control characters. -/
def Unbroken (text : List Char) : Prop :=
  ∀ c ∈ text, 0x20 ≤ c.toNat

instance : DecidablePred Unbroken :=
  fun text => List.decidableBAll (fun c : Char => 0x20 ≤ c.toNat) text

namespace Unbroken

variable {front back : List Char}

/-- Two texts without control characters make one without any. -/
theorem append (first : Unbroken front) (second : Unbroken back) : Unbroken (front ++ back) := by
  intro c among
  obtain inFront | inBack := List.mem_append.mp among
  · exact first c inFront
  · exact second c inBack

/-- A printed character in front brings in no control character. -/
theorem cons {c : Char} (first : 0x20 ≤ c.toNat) (rest : Unbroken back) : Unbroken (c :: back) := by
  rintro other (_ | ⟨_, among⟩)
  · exact first
  · exact rest other among

/-- No first part of a text has control characters that the text does not have. -/
theorem take (whole : Unbroken back) (n : Nat) : Unbroken (back.take n) :=
  fun c among => whole c (List.mem_of_mem_take among)

/-- No last part of a text has control characters that the text does not have. -/
theorem drop (whole : Unbroken back) (n : Nat) : Unbroken (back.drop n) :=
  fun c among => whole c (List.mem_of_mem_drop among)

/-- A printed character many times over is no control character. -/
theorem replicate {c : Char} (printed : 0x20 ≤ c.toNat) (n : Nat) :
    Unbroken (List.replicate n c) := by
  intro other among
  rw [List.eq_of_mem_replicate among]
  exact printed

end Unbroken

/-! ### Texts -/

/-- The sixteen digits are printed characters. -/
theorem le_toNat_hexDigit {n : Nat} (small : n < 16) : 0x20 ≤ (Text.Hex.digit n).toNat := by
  have all : ∀ m ∈ List.range 16, 0x20 ≤ (Text.Hex.digit m).toNat := by decide
  exact all n (List.mem_range.mpr small)

/-- A control character is written by characters that are none. -/
theorem unbroken_textChar (c : Char) : Unbroken (textChar c) := by
  unfold textChar
  split
  case h_8 =>
    by_cases control : c.toNat < 0x20
    · rw [if_pos control]
      have high : 0x20 ≤ (Text.Hex.digit (c.toNat / 16)).toNat := le_toNat_hexDigit (by omega)
      have low : 0x20 ≤ (Text.Hex.digit (c.toNat % 16)).toNat := le_toNat_hexDigit (by omega)
      have prelude : Unbroken ['\\', 'u', '0', '0'] := by decide
      exact prelude.append (.cons high (.cons low (by decide)))
    · rw [if_neg control]
      exact .cons (Nat.not_lt.mp control) (by decide)
  all_goals decide

/-- A text is written without control characters: its own are escaped. -/
theorem unbroken_textChars (value : String) : Unbroken (textChars value) := by
  have written : Unbroken (value.toList.flatMap textChar) := by
    intro c among
    obtain ⟨source, -, inside⟩ := List.mem_flatMap.mp among
    exact unbroken_textChar source c inside
  exact .cons (by decide) (written.append (by decide))

/-! ### Numbers -/

/-- Decimal digits are printed characters. -/
theorem unbroken_decimalDigits (n : Nat) : Unbroken (decimalDigits n) := by
  intro c among
  have digit : c.isDigit = true := Nat.isDigit_of_mem_toDigits (by decide) (by decide) among
  have range := (Text.isDigit_iff c).mp digit
  omega

/-- An integer is written in digits behind a sign. -/
theorem unbroken_intChars (n : Int) : Unbroken (intChars n) := by
  unfold intChars
  split
  · exact .cons (by decide) (unbroken_decimalDigits _)
  · exact unbroken_decimalDigits _

section

variable {digits : List Char}

/-- A number without an exponent is written in digits, zeros and a point. -/
theorem unbroken_plainChars (whole : Unbroken digits) (exponent : Int) :
    Unbroken (plainChars digits exponent) := by
  have zeros (n : Nat) : Unbroken (List.replicate n '0') := .replicate (by decide) n
  unfold plainChars
  dsimp only
  split
  · exact (whole.append (zeros _)).append (by decide)
  · split
    · exact (whole.take _).append (.cons (by decide) (whole.drop _))
    · have point : Unbroken ['0', '.'] := by decide
      exact (point.append (zeros _)).append whole

/-- The mantissa has the digits, and a point at most. -/
theorem unbroken_scientificChars (whole : Unbroken digits) (exponent : Int) :
    Unbroken (scientificChars digits exponent) := by
  have power : Unbroken
      ('e' :: (if exponent < 0 then '-' else '+') :: decimalDigits exponent.natAbs) := by
    refine .cons (by decide) (.cons ?_ (unbroken_decimalDigits _))
    split <;> decide
  unfold scientificChars
  dsimp only
  split
  · next first second rest =>
    have one : Unbroken [first] := whole.take 1
    have others : Unbroken (second :: rest) := whole.drop 1
    exact (one.append (.cons (by decide) others)).append power
  · exact whole.append power

end

/-- A number is written without control characters whether its exponent is spelled out or not. -/
theorem unbroken_scientificForm (s : Scientific) : Unbroken (scientificForm s) := by
  have digits := unbroken_decimalDigits s.digits
  unfold scientificForm
  dsimp only
  split
  · exact unbroken_plainChars digits _
  · exact unbroken_scientificChars digits _

/-- Any floating-point number is written without control characters: a sign, digits, a point and an
exponent. -/
theorem unbroken_realChars (x : Binary64) : Unbroken (realChars x) := by
  have unsigned : Unbroken (if x.isZero then ['0', '.', '0'] else scientificForm x.shortest) := by
    split
    · decide
    · exact unbroken_scientificForm _
  unfold realChars
  dsimp only
  split
  · exact .cons (by decide) unsigned
  · exact unsigned

/-! ### Values -/

mutual

/-- What is written of a value has no control characters. -/
theorem unbroken_chars : ∀ value : Json, Unbroken value.chars
  | .null => by decide
  | .bool true => by decide
  | .bool false => by decide
  | .int n => unbroken_intChars n
  | .real x => by
    rw [chars]
    split
    · exact unbroken_realChars x
    · decide
  | .text s => unbroken_textChars s
  | .array items => .cons (by decide) ((unbroken_itemChars items).append (by decide))
  | .object members => .cons (by decide) ((unbroken_memberChars members).append (by decide))

/-- The items of an array are written without control characters, and so are the commas between
them. -/
theorem unbroken_itemChars : ∀ items : List Json, Unbroken (itemChars items)
  | [] => by decide
  | [item] => unbroken_chars item
  | item :: next :: rest =>
    (unbroken_chars item).append (.cons (by decide) (unbroken_itemChars (next :: rest)))

/-- The members of an object are written without control characters, in names, values and
punctuation. -/
theorem unbroken_memberChars : ∀ members : List (String × Json), Unbroken (memberChars members)
  | [] => by decide
  | [(name, value)] => (unbroken_textChars name).append (.cons (by decide) (unbroken_chars value))
  | (name, value) :: next :: rest =>
    ((unbroken_textChars name).append (.cons (by decide) (unbroken_chars value))).append
      (.cons (by decide) (unbroken_memberChars (next :: rest)))

end

/-! ### Bytes -/

/-- A byte from the upper half is no control character. -/
theorem le_toNat_ofNat {n : Nat} (least : 0x80 ≤ n) (most : n < 0x100) :
    0x80 ≤ (UInt8.ofNat n).toNat := by
  rw [UInt8.toNat_ofNat', Nat.mod_eq_of_lt most]
  exact least

/-- A byte of a character that is no part of a longer code is that character. -/
theorem toNat_eq_of_mem_utf8EncodeChar {c : Char} {byte : UInt8}
    (among : byte ∈ String.utf8EncodeChar c) (single : byte.toNat < 0x80) :
    byte.toNat = c.toNat := by
  unfold String.utf8EncodeChar at among
  dsimp only at among
  split at among
  · next small =>
    rw [List.mem_singleton] at among
    rw [among, UInt8.toNat_ofNat', Nat.mod_eq_of_lt (by omega)]
    rfl
  -- Every byte of a longer code has its high bit set.
  · have high : 0x80 ≤ byte.toNat := by
      split at among
      · simp only [List.mem_cons, List.not_mem_nil, or_false] at among
        obtain rfl | rfl := among <;> exact le_toNat_ofNat (by omega) (by omega)
      · split at among
        · simp only [List.mem_cons, List.not_mem_nil, or_false] at among
          obtain rfl | rfl | rfl := among <;> exact le_toNat_ofNat (by omega) (by omega)
        · simp only [List.mem_cons, List.not_mem_nil, or_false] at among
          obtain rfl | rfl | rfl | rfl := among <;> exact le_toNat_ofNat (by omega) (by omega)
    omega

/-- No byte of a value that is written is a control character. -/
theorem notMem_toUTF8_render (value : Json) {byte : UInt8} (control : byte.toNat < 0x20) :
    byte ∉ value.render.toUTF8.data.toList := by
  intro among
  rw [String.toUTF8_eq_toByteArray, render, String.toByteArray_ofList, List.utf8Encode,
    List.data_toByteArray, List.toList_toArray] at among
  obtain ⟨c, written, inside⟩ := List.mem_flatMap.mp among
  have same := toNat_eq_of_mem_utf8EncodeChar inside (by omega)
  have printed := unbroken_chars value c written
  omega

end Columnar.Json
