/-!
# Bytes as hexadecimal text

Two digits stand for one byte. Writing uses lower-case digits, reading takes either case, and reading
gives back every byte string that was written (`decode?_encode`).
-/

set_option autoImplicit false

namespace Columnar.Text.Hex

/-- The lower-case digit of a number below sixteen. -/
def digit (n : Nat) : Char :=
  if n < 10 then Char.ofNat (48 + n) else Char.ofNat (87 + n)

/-- The value of one hexadecimal digit of either case. -/
def digitValue? (c : Char) : Option Nat :=
  if '0' ≤ c ∧ c ≤ '9' then some (c.toNat - 48)
  else if 'a' ≤ c ∧ c ≤ 'f' then some (c.toNat - 87)
  else if 'A' ≤ c ∧ c ≤ 'F' then some (c.toNat - 55)
  else none

/-- The two digits of each byte, the high half first. -/
def encodeBytes : List UInt8 → List Char
  | [] => []
  | b :: rest => digit (b.toNat / 16) :: digit (b.toNat % 16) :: encodeBytes rest

/-- The bytes of a text of digit pairs; a text of odd length or with any other character has none. -/
def decodeChars? : List Char → Option (List UInt8)
  | [] => some []
  | [_] => none
  | high :: low :: rest =>
    match digitValue? high, digitValue? low, decodeChars? rest with
    | some h, some l, some bytes => some (UInt8.ofNat (16 * h + l) :: bytes)
    | _, _, _ => none

/-- The hexadecimal text of a byte string. -/
def encode (bytes : ByteArray) : String :=
  String.ofList (encodeBytes bytes.data.toList)

/-- The byte string that a hexadecimal text stands for, if it is one. -/
def decode? (text : String) : Option ByteArray :=
  (decodeChars? text.toList).map fun bytes => ⟨bytes.toArray⟩

/-- Each of the sixteen digits reads as the value it was written for. -/
theorem digitValue?_digit {n : Nat} (h : n < 16) : digitValue? (digit n) = some n := by
  have all : ∀ m ∈ List.range 16, digitValue? (digit m) = some m := by decide
  exact all n (List.mem_range.mpr h)

/-- Any bytes come back from their digits. -/
@[simp] theorem decodeChars?_encodeBytes (bytes : List UInt8) :
    decodeChars? (encodeBytes bytes) = some bytes := by
  induction bytes with
  | nil => rfl
  | cons b rest ih =>
    have hb : b.toNat < 256 := b.toNat_lt_size
    have high : b.toNat / 16 < 16 := by omega
    have low : b.toNat % 16 < 16 := by omega
    have whole : 16 * (b.toNat / 16) + b.toNat % 16 = b.toNat := by omega
    simp only [encodeBytes, decodeChars?, digitValue?_digit high, digitValue?_digit low, ih, whole,
      UInt8.ofNat_toNat]

/-- Reading gives back what was written. -/
@[simp] theorem decode?_encode (bytes : ByteArray) : decode? (encode bytes) = some bytes := by
  simp [decode?, encode]

end Columnar.Text.Hex
