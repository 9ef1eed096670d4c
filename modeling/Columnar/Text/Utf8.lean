/-!
# Reading bytes as text

Text cells are stored as UTF-8. A cell whose bytes are not UTF-8 is still readable: each longest run
of bytes that begins a character but does not complete one gives a single replacement character. On
bytes that are UTF-8 this is the plain decoding (`decode_toUTF8`).
-/

set_option autoImplicit false

namespace Columnar.Text.Utf8

/-- The character that stands for bytes that are no text. -/
def replacement : Char := '\ufffd'

/-- A character that has begun: the bits read, how many bytes are missing, and the range that the
next of them must lie in. -/
structure Begun where
  bits : Nat
  missing : Nat
  low : Nat
  high : Nat

/-- What a byte at the start of a character gives: the whole character, a replacement for it, or the
beginning of a longer one. -/
def start (byte : UInt8) : List Char × Option Begun :=
  let b := byte.toNat
  if b < 0x80 then ([Char.ofNat b], none)
  else if 0xc2 ≤ b ∧ b ≤ 0xdf then ([], some ⟨b - 0xc0, 1, 0x80, 0xbf⟩)
  else if b = 0xe0 then ([], some ⟨0, 2, 0xa0, 0xbf⟩)
  else if b = 0xed then ([], some ⟨0xd, 2, 0x80, 0x9f⟩)
  else if 0xe1 ≤ b ∧ b ≤ 0xef then ([], some ⟨b - 0xe0, 2, 0x80, 0xbf⟩)
  else if b = 0xf0 then ([], some ⟨0, 3, 0x90, 0xbf⟩)
  else if 0xf1 ≤ b ∧ b ≤ 0xf3 then ([], some ⟨b - 0xf0, 3, 0x80, 0xbf⟩)
  else if b = 0xf4 then ([], some ⟨4, 3, 0x80, 0x8f⟩)
  else ([replacement], none)

/-- What a byte gives after a character has begun. One that cannot continue it cuts it off and starts
the next character. -/
def proceed (begun : Begun) (byte : UInt8) : List Char × Option Begun :=
  let b := byte.toNat
  if begun.low ≤ b ∧ b ≤ begun.high then
    let bits := 64 * begun.bits + (b - 0x80)
    if begun.missing ≤ 1 then ([Char.ofNat bits], none)
    else ([], some ⟨bits, begun.missing - 1, 0x80, 0xbf⟩)
  else
    let (chars, next) := start byte
    (replacement :: chars, next)

/-- The characters of a byte string, with replacements where it is no text. -/
def decodeBytes : Option Begun → List UInt8 → List Char
  | none, [] => []
  | some _, [] => [replacement]
  | none, b :: rest => (start b).1 ++ decodeBytes (start b).2 rest
  | some begun, b :: rest => (proceed begun b).1 ++ decodeBytes (proceed begun b).2 rest

/-- The text of a byte string, with replacements where it is no text. -/
def decode (bytes : ByteArray) : String :=
  match String.fromUTF8? bytes with
  | some text => text
  | none => String.ofList (decodeBytes none bytes.data.toList)

/-- Text that was stored as UTF-8 reads back as itself. -/
@[simp] theorem decode_toUTF8 (text : String) : decode text.toUTF8 = text := by
  have valid : String.fromUTF8? text.toUTF8 = some text := by
    simp only [String.fromUTF8?, String.toUTF8_eq_toByteArray, dif_pos text.isValidUTF8]
    rfl
  simp only [decode, valid]

end Columnar.Text.Utf8
