import Columnar.Feed.Basic
/-!
# Records that are already values

A feed of values that are at hand. Each value counts as a line.
-/

set_option autoImplicit false

namespace Columnar

/-- Values still to be given, and how many were given. -/
structure ValueQueue where
  values : List Json
  line : Nat

namespace ValueQueue

/-- The queue of some values. -/
def ofList (values : List Json) : ValueQueue := ⟨values, 0⟩

/-- Gives the next value. -/
def poll (queue : ValueQueue) : Polled × ValueQueue :=
  match queue.values with
  | [] => (.exhausted, queue)
  | value :: rest => (.record value, ⟨rest, queue.line + 1⟩)

/-- Queues of values as a feed. -/
def feed : FiniteFeed ValueQueue where
  poll := poll
  line := ValueQueue.line
  remaining queue := queue.values.length
  remaining_lt queue h := by
    cases queue with
    | mk values line =>
      cases values with
      | nil => exact absurd rfl h
      | cons value rest => exact Nat.lt_succ_self rest.length

end ValueQueue

end Columnar
