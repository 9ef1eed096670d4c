import Columnar.Attempt
import Columnar.RecordBatch
/-!
# Consumers of batches

A consumer takes batches one after the other. It sees a batch while it takes it and keeps nothing of
it but its own state.
-/

set_option autoImplicit false

namespace Columnar

/-- A consumer with states of a type. -/
structure Consumer (τ : Type) where
  accept : RecordBatch → τ → Attempt τ

/-- The failure of a session whose consumer failed: one that concerns the output stays as it is, any
other is wrapped. -/
def Failure.ofConsumer (failure : Failure) : Failure :=
  if failure.classOf = .sink then failure else .consumerFailed failure

end Columnar
