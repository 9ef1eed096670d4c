import Columnar.Failure
/-!
# Events of a session

What a session reports while it runs, in the order in which it happens.
-/

set_option autoImplicit false

namespace Columnar

/-- What a session has done so far: rows that the consumer took, batches that it took, and input that
was left out. -/
structure Totals where
  records : Nat
  batches : Nat
  skipped : Nat
deriving DecidableEq

/-- The totals of a session that has done nothing. -/
def Totals.zero : Totals := ⟨0, 0, 0⟩

/-- Something worth reporting. -/
inductive Event where
  | handingOver (rows : Nat) (childCounts : List Nat)
  | skipping (failure : Failure)
  | feedFailed (failure : Failure) (afterLine : Nat)
  | growing (line : Nat)
  | deferring (failure : Failure) (line : Nat)
  | drained (totals : Totals)
deriving DecidableEq

/-- How much an event matters. -/
inductive EventLevel where
  | debug
  | info
  | warn
deriving DecidableEq

/-- The name of a level. -/
def EventLevel.name : EventLevel → String
  | .debug => "DEBUG"
  | .info => "INFO"
  | .warn => "WARN"

namespace Event

/-- The level of an event. -/
def level : Event → EventLevel
  | handingOver _ _ | growing _ | deferring _ _ => .debug
  | drained _ => .info
  | skipping _ | feedFailed _ _ => .warn

/-- The message of an event. -/
def message : Event → String
  | handingOver _ _ => "Handing batch to sink"
  | skipping failure => "Skipping record: " ++ failure.message
  | feedFailed failure _ => "Record source failed: " ++ failure.message
  | growing _ => "Growing child vectors for oversized record"
  | deferring failure _ => "Deferring record to the next batch: " ++ failure.message
  | drained _ => "Ingestion drained"

/-- The values that come with an event, in order. -/
def values : Event → List (String × String)
  | handingOver rows childCounts =>
    [("rows", toString rows),
      ("child_counts", "[" ++ String.intercalate ", " (childCounts.map toString) ++ "]")]
  | skipping _ => []
  | feedFailed _ afterLine => [("after_line", toString afterLine)]
  | growing line => [("line", toString line)]
  | deferring _ line => [("line", toString line)]
  | drained totals =>
    [("records", toString totals.records), ("batches", toString totals.batches),
      ("skipped", toString totals.skipped)]

/-- The line that reports an event. -/
def render (event : Event) : String :=
  String.intercalate " "
    (event.level.name :: event.message ::
      event.values.map fun value => value.1 ++ "=" ++ value.2)

end Event

end Columnar
