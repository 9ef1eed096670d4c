import Columnar.Failure
/-!
# Feeds of records

A feed gives records one by one when it is polled. What is not a record of JSON is reported and the
feed goes on; any other failure ends it. A feed is finite when some number falls with every poll that
gives anything.
-/

set_option autoImplicit false

namespace Columnar

/-- What a poll gives. -/
inductive Polled where
  | record (value : Json)
  | failed (failure : Failure)
  | exhausted

/-- A feed with states of a type: how it is polled, and the number of the line that the last record
stood in. -/
structure Feed (σ : Type) where
  poll : σ → Polled × σ
  line : σ → Nat

/-- A feed that ends: a bound on the polls to come falls as long as there is something to give. -/
structure FiniteFeed (σ : Type) extends Feed σ where
  remaining : σ → Nat
  remaining_lt : ∀ state : σ, (poll state).1 ≠ .exhausted →
    remaining (poll state).2 < remaining state

end Columnar
