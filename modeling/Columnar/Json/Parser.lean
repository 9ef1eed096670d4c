import Columnar.Json.Token
/-!
# Reading JSON text

The tokens of a text are put together by a machine that holds the arrays and objects still open, the
innermost first. Text with more than 127 of them open at once is refused, as is anything that is not
exactly one value.
-/

set_option autoImplicit false

namespace Columnar.Json

/-- An open array or object around the value that is being read. Items are in reverse. -/
inductive Frame where
  | array (items : List Json)
  | object (members : Members) (name : String)

/-- What the machine expects next. -/
inductive Reading where
  /-- A value. -/
  | expectValue (outer : List Frame)
  /-- The first item of an array, or its end. -/
  | firstItem (outer : List Frame)
  /-- A comma or the end of an array. -/
  | afterItem (items : List Json) (outer : List Frame)
  /-- The first name of an object, or its end. -/
  | firstName (outer : List Frame)
  /-- A name. -/
  | expectName (members : Members) (outer : List Frame)
  /-- The colon behind a name. -/
  | expectColon (members : Members) (name : String) (outer : List Frame)
  /-- A comma or the end of an object. -/
  | afterMember (members : Members) (outer : List Frame)
  /-- Nothing. -/
  | done (value : Json)

namespace Reading

/-- How many arrays and objects may be open at once. -/
def depthLimit : Nat := 127

/-- A value that is complete goes into the innermost open array or object. -/
def deliver (value : Json) : List Frame → Reading
  | [] => .done value
  | .array items :: outer => .afterItem (value :: items) outer
  | .object members name :: outer => .afterMember (members.insert name value) outer

/-- The token of a value, or its first one. -/
def value? (outer : List Frame) (token : Token) : Option Reading :=
  match token with
  | .scalar value => some (deliver value outer)
  | .text value => some (deliver (.text value) outer)
  | .openArray => if outer.length < depthLimit then some (.firstItem outer) else none
  | .openObject => if outer.length < depthLimit then some (.firstName outer) else none
  | _ => none

/-- One token further. -/
def next? (reading : Reading) (token : Token) : Option Reading :=
  match reading, token with
  | .expectValue outer, token => value? outer token
  | .firstItem outer, .closeArray => some (deliver (.array []) outer)
  | .firstItem outer, token => value? (.array [] :: outer) token
  | .afterItem items outer, .comma => some (.expectValue (.array items :: outer))
  | .afterItem items outer, .closeArray => some (deliver (.array items.reverse) outer)
  | .firstName outer, .closeObject => some (deliver (.object []) outer)
  | .firstName outer, .text name => some (.expectColon [] name outer)
  | .expectName members outer, .text name => some (.expectColon members name outer)
  | .expectColon members name outer, .colon => some (.expectValue (.object members name :: outer))
  | .afterMember members outer, .comma => some (.expectName members outer)
  | .afterMember members outer, .closeObject => some (deliver (.object members) outer)
  | _, _ => none

end Reading

/-- The value that a text is. -/
def parse? (source : String) : Option Json := do
  let tokens ← Scan.tokens? .between source.toList
  match ← tokens.foldlM Reading.next? (.expectValue []) with
  | .done value => some value
  | _ => none

/-- The value that a byte string is, as UTF-8. -/
def parseBytes? (bytes : List UInt8) : Option Json := do
  parse? (← String.fromUTF8? ⟨bytes.toArray⟩)

end Columnar.Json
