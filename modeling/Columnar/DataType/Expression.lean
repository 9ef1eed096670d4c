import Columnar.DataType.Basic
/-!
# Type expressions

The text of a type, such as `struct<id:bigint,tags:array<string>>`.
-/

set_option autoImplicit false

namespace Columnar.DataType

mutual

/-- The expression of a type. Only decimals and bounded texts show their attributes, and only structs
the names of their fields. -/
def expression : DataType → String
  | leaf .decimal attributes _ =>
    "decimal(" ++ toString attributes.precision ++ "," ++ toString attributes.scale ++ ")"
  | leaf (.text .char) attributes _ => "char(" ++ toString attributes.maxLength ++ ")"
  | leaf (.text .varchar) attributes _ => "varchar(" ++ toString attributes.maxLength ++ ")"
  | leaf kind _ _ => kind.name
  | struct _ fields => "struct<" ++ String.intercalate "," (namedExpressions fields) ++ ">"
  | list _ element fields =>
    "array<" ++ String.intercalate "," (expression element :: expressions fields) ++ ">"
  | map _ key value fields =>
    "map<" ++ String.intercalate "," (expression key :: expression value :: expressions fields)
      ++ ">"
termination_by structural type => type

/-- The expressions of the types of fields. -/
def expressions : List (String × DataType) → List String
  | [] => []
  | (_, type) :: rest => expression type :: expressions rest
termination_by structural fields => fields

/-- The names of fields with the expressions of their types. -/
def namedExpressions : List (String × DataType) → List String
  | [] => []
  | (name, type) :: rest => (name ++ ":" ++ expression type) :: namedExpressions rest
termination_by structural fields => fields

end

end Columnar.DataType
