import Columnar.Column.Kind
import Columnar.DataType.Expression
import Columnar.Json.Basic
import Columnar.Text.Quoted
/-!
# Failures

Everything that can go wrong, by its cause. A failure inside a struct field or a map entry is wrapped
once for each name on the way to the cell, so that its message spells out the path. Every failure
belongs to one of five classes, by which a session picks what to do about it.
-/

set_option autoImplicit false

namespace Columnar

/-- What is wrong with a node of a type. -/
inductive TypeDefect where
  /-- A struct has two fields of this name. -/
  | duplicateField (name : String)
  /-- The category calls for another number of child types. -/
  | childCount (expected actual : Nat)
  /-- The precision or the scale of a decimal is out of range. -/
  | decimalBounds
  /-- There is no child type at this position. -/
  | missingChild (index : Nat)
deriving DecidableEq

/-- What can go wrong. -/
inductive Failure where
  /-- The type of the records is no struct. -/
  | rootNotStruct (type : DataType)
  /-- No category has this name. -/
  | unknownCategory (name : String)
  /-- A type of this category cannot be made from its name alone. -/
  | bareComposite (category : Category)
  /-- A node of the type is ill-formed. -/
  | invalidType (node : DataType) (defect : TypeDefect)
  /-- A batch was asked for that can hold no row. -/
  | zeroCapacity
  /-- A batch has another type than the records written to it. -/
  | typesDiffer (expected actual : DataType)
  /-- A batch has no room for another row. -/
  | batchFull (capacity : Nat)
  /-- A line is not JSON. -/
  | malformedRecord (line : Nat)
  /-- A record is not an object. -/
  | notAnObject (line : Nat) (actual : ValueKind)
  /-- The input could not be read on. -/
  | unreadableInput
  /-- A column of this category takes no value of this kind. -/
  | typeMismatch (expected : Category) (actual : ValueKind)
  /-- A number has no place in an integer column of this category. -/
  | numberOutOfRange (expected : Category)
  /-- A text is no decimal literal. -/
  | invalidDecimal (text : String)
  /-- A text is no date-time. -/
  | invalidTimestamp (text : String)
  /-- A text is no hexadecimal byte string. -/
  | invalidBinary (text : String)
  /-- Something is wrong under this field name or map key. -/
  | inField (name : String) (cause : Failure)
  /-- A column stores its cells in another way than the type of the value asks for. -/
  | columnMismatch (expected : ColumnKind)
  /-- A child column that may not grow has too few slots. -/
  | childOverflow (needed capacity : Nat)
  /-- A consumer refused a batch for a reason of its own. -/
  | consumerRefused (reason : String)
  /-- A consumer came upon a failure that does not concern output. -/
  | consumerFailed (cause : Failure)
  /-- The output could not be written. -/
  | unwritableOutput
deriving DecidableEq

/-- The classes of failures. -/
inductive FailureClass where
  | schema
  | parse
  | conversion
  | sink
  | io
deriving DecidableEq

/-- The reason that a message gives for a defect of a node. -/
def TypeDefect.reason (node : DataType) : TypeDefect → String
  | duplicateField name => "duplicate field name " ++ name
  | childCount expected actual =>
    node.category.name ++ " expects " ++ toString expected ++ " children, got " ++ toString actual
  | decimalBounds => "decimal precision must be 1..=38 and scale <= precision"
  | missingChild index => "missing child type " ++ toString index

namespace Failure

/-- The message of a failure. -/
def message : Failure → String
  | rootNotStruct type => "Root type must be struct, got " ++ type.expression
  | unknownCategory name => "Unknown type category: " ++ name
  | bareComposite category =>
    "Invalid schema " ++ category.name ++ ": composite type needs children"
  | invalidType node defect =>
    "Invalid schema " ++ node.expression ++ ": " ++ defect.reason node
  | zeroCapacity => "Batch capacity must be greater than zero"
  | typesDiffer expected actual =>
    "Batch schema " ++ actual.expression ++ " does not match converter schema "
      ++ expected.expression
  | batchFull capacity => "Batch is full, capacity " ++ toString capacity
  | malformedRecord line => "Failed to parse record at line " ++ toString line
  | notAnObject line actual =>
    "Record at line " ++ toString line ++ " is not a JSON object, got " ++ actual.name
  | unreadableInput => "Failed to read input"
  | typeMismatch expected actual => "Expected " ++ expected.name ++ ", but got " ++ actual.name
  | numberOutOfRange expected => "Expected " ++ expected.name ++ ", but got out of range number"
  | invalidDecimal text => "Invalid decimal literal: " ++ Text.quoted text
  | invalidTimestamp text => "Invalid timestamp: " ++ Text.quoted text
  | invalidBinary text => "Invalid hex binary: " ++ Text.quoted text
  | inField name cause => "Field " ++ name ++ ": " ++ cause.message
  | columnMismatch expected =>
    "Column vector does not match converter, expected " ++ expected.name
  | childOverflow needed capacity =>
    "Child vector overflow: " ++ toString needed ++ " slots needed, capacity "
      ++ toString capacity
  | consumerRefused reason => "Batch sink failed: " ++ reason
  | consumerFailed cause => "Batch sink failed: " ++ cause.message
  | unwritableOutput => "Failed to write output"

/-- The class of a failure; a name on the way to a cell does not change it. -/
def classOf : Failure → FailureClass
  | rootNotStruct _ | unknownCategory _ | bareComposite _ | invalidType _ _ | zeroCapacity
  | typesDiffer _ _ => .schema
  | malformedRecord _ | notAnObject _ _ => .parse
  | batchFull _ | typeMismatch _ _ | numberOutOfRange _ | invalidDecimal _ | invalidTimestamp _
  | invalidBinary _ | columnMismatch _ | childOverflow _ _ => .conversion
  | inField _ cause => cause.classOf
  | consumerRefused _ | consumerFailed _ | unwritableOutput => .sink
  | unreadableInput => .io

/-- Whether a value could not be stored in its cell. Only such a failure may turn a cell null. -/
def isCellFailure : Failure → Bool
  | typeMismatch _ _ | numberOutOfRange _ | invalidDecimal _ | invalidTimestamp _
  | invalidBinary _ => true
  | inField _ cause => cause.isCellFailure
  | _ => false

/-- Whether a child column had too few slots. -/
def isChildOverflow : Failure → Bool
  | childOverflow _ _ => true
  | inField _ cause => cause.isChildOverflow
  | _ => false

end Failure

end Columnar
