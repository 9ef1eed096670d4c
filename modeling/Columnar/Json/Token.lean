import Columnar.Json.Numeral
import Columnar.Text.Hex
/-!
# Tokens of JSON text

JSON text is cut into tokens one character at a time. Between tokens there may be spaces, tabs and
line ends. A text token has its escapes resolved; a code unit of a surrogate pair is refused without
its partner, and so is a control character that is not escaped.
-/

set_option autoImplicit false

namespace Columnar.Json

/-- A token: punctuation, a text, or any other scalar value. -/
inductive Token where
  | openArray
  | closeArray
  | openObject
  | closeObject
  | comma
  | colon
  | text (value : String)
  | scalar (value : Json)

/-- Where a text stands between two of its characters. Characters read so far are in reverse. -/
inductive Scan where
  /-- Between two tokens. -/
  | between
  /-- In `true`, `false` or `null`. -/
  | word (letters : List Char)
  | numeral (chars : List Char)
  | text (chars : List Char)
  /-- Behind the backslash of an escape. -/
  | escape (chars : List Char)
  /-- In the four digits of a code unit, perhaps the second of a surrogate pair. -/
  | unit (chars : List Char) (high : Option Nat) (missing value : Nat)
  /-- Behind the first code unit of a surrogate pair. -/
  | pair (chars : List Char) (high : Nat)
  /-- Behind the backslash between the code units of a surrogate pair. -/
  | pairEscape (chars : List Char) (high : Nat)

namespace Scan

/-- Space, tab, line feed and carriage return separate tokens. -/
def isSeparator (c : Char) : Bool :=
  c == ' ' || c == '\t' || c == '\n' || c == '\r'

/-- Whether a character can stand inside a number literal. -/
def isNumeralChar (c : Char) : Bool :=
  c.isDigit || c == '-' || c == '+' || c == '.' || c == 'e' || c == 'E'

/-- The value that a word stands for. -/
def wordValue? (word : String) : Option Json :=
  if word = "null" then some .null
  else if word = "true" then some (.bool true)
  else if word = "false" then some (.bool false)
  else none

/-- The character that an escape of one letter stands for. -/
def escaped? (c : Char) : Option Char :=
  match c with
  | '"' | '\\' | '/' => some c
  | 'b' => some '\x08'
  | 'f' => some '\x0c'
  | 'n' => some '\n'
  | 'r' => some '\r'
  | 't' => some '\t'
  | _ => none

/-- The first character of a token, or a separator. -/
def start? (c : Char) : Option (List Token × Scan) :=
  match c with
  | '[' => some ([.openArray], .between)
  | ']' => some ([.closeArray], .between)
  | '{' => some ([.openObject], .between)
  | '}' => some ([.closeObject], .between)
  | ',' => some ([.comma], .between)
  | ':' => some ([.colon], .between)
  | '"' => some ([], .text [])
  | _ =>
    if isSeparator c then some ([], .between)
    else if c.isDigit || c == '-' then some ([], .numeral [c])
    else if c.isAlpha then some ([], .word [c])
    else none

/-- The token of a word that has ended. -/
def endWord? (letters : List Char) : Option Token :=
  (wordValue? (String.ofList letters.reverse)).map .scalar

/-- The token of a number literal that has ended. -/
def endNumeral? (chars : List Char) : Option Token := do
  let numeral ← Numeral.parse? chars.reverse
  return .scalar (← numeral.value?)

/-- What a complete code unit gives: a character, the first or the second half of a pair. -/
def endUnit? (chars : List Char) (high : Option Nat) (value : Nat) : Option Scan :=
  match high with
  | some h =>
    if 0xdc00 ≤ value ∧ value ≤ 0xdfff then
      some (.text (Char.ofNat (0x10000 + (h - 0xd800) * 0x400 + (value - 0xdc00)) :: chars))
    else none
  | none =>
    if 0xd800 ≤ value ∧ value ≤ 0xdbff then some (.pair chars value)
    else if 0xdc00 ≤ value ∧ value ≤ 0xdfff then none
    else some (.text (Char.ofNat value :: chars))

/-- One character further: the tokens that it ends or is, and where the text stands behind it. -/
def next? (scan : Scan) (c : Char) : Option (List Token × Scan) :=
  match scan with
  | .between => start? c
  | .word letters =>
    if c.isAlpha then some ([], .word (c :: letters))
    else do
      let token ← endWord? letters
      let (tokens, scan) ← start? c
      return (token :: tokens, scan)
  | .numeral chars =>
    if isNumeralChar c then some ([], .numeral (c :: chars))
    else do
      let token ← endNumeral? chars
      let (tokens, scan) ← start? c
      return (token :: tokens, scan)
  | .text chars =>
    if c = '"' then some ([.text (String.ofList chars.reverse)], .between)
    else if c = '\\' then some ([], .escape chars)
    else if c.toNat < 0x20 then none
    else some ([], .text (c :: chars))
  | .escape chars =>
    if c = 'u' then some ([], .unit chars none 4 0)
    else (escaped? c).map fun d => ([], .text (d :: chars))
  | .unit chars high missing value => do
    let digit ← Text.Hex.digitValue? c
    let value := 16 * value + digit
    if missing ≤ 1 then return ([], ← endUnit? chars high value)
    else return ([], .unit chars high (missing - 1) value)
  | .pair chars high => if c = '\\' then some ([], .pairEscape chars high) else none
  | .pairEscape chars high => if c = 'u' then some ([], .unit chars (some high) 4 0) else none

/-- The last token of a text that ends here. -/
def finish? : Scan → Option (List Token)
  | .between => some []
  | .word letters => (endWord? letters).map ([·])
  | .numeral chars => (endNumeral? chars).map ([·])
  | _ => none

/-- The tokens of the rest of a text. -/
def tokens? (scan : Scan) : List Char → Option (List Token)
  | [] => scan.finish?
  | c :: rest => do
    let (tokens, scan) ← scan.next? c
    return tokens ++ (← scan.tokens? rest)

end Scan

end Columnar.Json
