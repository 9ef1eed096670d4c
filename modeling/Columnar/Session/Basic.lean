import Columnar.RecordEncoder
import Columnar.Session.Event
import Columnar.Session.Options
/-!
# Sessions

A session turns the records of a feed into rows of one batch, which it hands to a consumer whenever it
is full, and once more at the end. Between two steps it awaits a record, holds one to convert, has a
full batch, or is drained.
-/

set_option autoImplicit false

namespace Columnar

/-- A record that was polled and is no row yet, with the number of its line. -/
structure PendingRecord where
  line : Nat
  record : Json.Members

/-- Where a session stands. -/
inductive Phase where
  | awaitingRecord
  | convertingRow (pending : PendingRecord)
  | batchFull
  | drained

/-- Whether a session has come to its end. -/
def Phase.isDrained : Phase → Bool
  | .drained => true
  | _ => false

/-- A session: its encoder and options, the batch being filled, where it stands and what it has
done. -/
structure Session where
  encoder : RecordEncoder
  options : Options
  batch : RecordBatch
  phase : Phase
  totals : Totals

namespace Session

/-- A new session for records of a type. Faults of the type and of the options show here. -/
def start (type : DataType) (options : Options) : Except Failure Session := do
  let encoder ← RecordEncoder.ofType type options.onCellFailure
  let batch ← encoder.allocateBatch options.capacity
  let batch := if options.onOverflow = .defer then batch.setGrowable false else batch
  return ⟨encoder, options, batch, .awaitingRecord, .zero⟩

/-- A session that stands elsewhere. -/
def withPhase (session : Session) (phase : Phase) : Session :=
  { session with phase }

/-- A session with its batch changed. -/
def withBatch (session : Session) (batch : RecordBatch) : Session :=
  { session with batch }

/-- A session that has left out one more piece of input. -/
def countSkipped (session : Session) : Session :=
  { session with totals := { session.totals with skipped := session.totals.skipped + 1 } }

/-- A session whose batch was taken by the consumer: its rows are counted, and it is empty again. -/
def handedOver (session : Session) : Session :=
  { session with
    totals :=
      { session.totals with
        records := session.totals.records + session.batch.size
        batches := session.totals.batches + 1 }
    batch := session.batch.reset }

/-- A session whose record has become a row of a batch. -/
def rowCommitted (session : Session) (batch : RecordBatch) : Session :=
  { session with batch, phase := if batch.isFull then .batchFull else .awaitingRecord }

end Session

end Columnar
