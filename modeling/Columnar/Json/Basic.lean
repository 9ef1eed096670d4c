import Columnar.Number.Binary64
/-!
# JSON values

A JSON value as records carry it. A number written as an integer stays an integer as long as 64 bits
hold it, and is binary otherwise. The members of an object keep the order in which their names first
appeared; a name given twice keeps its first place and its last value.
-/

set_option autoImplicit false

namespace Columnar

open Columnar.Number (Binary64)

/-- A JSON value. -/
inductive Json where
  | null
  | bool (value : Bool)
  | int (value : Int)
  | real (value : Binary64)
  | text (value : String)
  | array (items : List Json)
  | object (members : List (String × Json))
deriving Inhabited

namespace Json

/-- The members of an object in order. -/
abbrev Members := List (String × Json)

/-- Gives a name a value: in its place if the name is there, else behind all others. -/
def Members.insert (name : String) (value : Json) : Members → Members
  | [] => [(name, value)]
  | (other, old) :: rest =>
    if other = name then (other, value) :: rest else (other, old) :: Members.insert name value rest

/-- The members of a list of pairs, a repeated name keeping its first place and its last value. -/
def Members.ofList (pairs : List (String × Json)) : Members :=
  pairs.foldl (fun members pair => members.insert pair.1 pair.2) []

/-- The value under a name. -/
def Members.get? (members : Members) (name : String) : Option Json :=
  members.lookup name

/-- The object with the members of a list of pairs. -/
def objectOf (pairs : List (String × Json)) : Json :=
  .object (Members.ofList pairs)

/-- Whether a value is null. -/
def isNull : Json → Bool
  | .null => true
  | _ => false

end Json

/-- The kinds of JSON value that conversion tells apart. -/
inductive ValueKind where
  | null
  | boolean
  /-- A number written as an integer that a signed 64-bit number holds. -/
  | integer
  /-- Any other number. -/
  | decimal
  | string
  | array
  | object
deriving DecidableEq

/-- The name of a kind. -/
def ValueKind.name : ValueKind → String
  | .null => "null"
  | .boolean => "boolean"
  | .integer => "integer"
  | .decimal => "decimal number"
  | .string => "string"
  | .array => "array"
  | .object => "object"

/-- Whether a signed 64-bit number holds an integer. -/
def fitsInt64 (n : Int) : Bool :=
  decide (-0x8000000000000000 ≤ n) && decide (n < 0x8000000000000000)

/-- The kind of a value. -/
def Json.kind : Json → ValueKind
  | .null => .null
  | .bool _ => .boolean
  | .int n => if fitsInt64 n then .integer else .decimal
  | .real _ => .decimal
  | .text _ => .string
  | .array _ => .array
  | .object _ => .object

end Columnar
