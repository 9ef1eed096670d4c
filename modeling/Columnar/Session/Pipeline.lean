import Columnar.Consumer.Basic
import Columnar.Feed.Basic
import Columnar.Session.Basic
/-!
# The steps of a session

A pipeline is a session between a feed and a consumer, with the events reported so far. Each step
polls one record, converts one, or hands a batch over. A record whose children find no room is put off
to the next batch, unless the batch is empty: then the child columns grow for it. A failure drains the
session; batches handed over before stand.
-/

set_option autoImplicit false

namespace Columnar

/-- A session, the states of its feed and its consumer, and its events in order. -/
structure Pipeline (σ τ : Type) where
  session : Session
  feed : σ
  consumer : τ
  log : List Event

namespace Pipeline

variable {σ τ : Type}

/-- Reports an event. -/
def report (pipeline : Pipeline σ τ) (event : Event) : Pipeline σ τ :=
  { pipeline with log := pipeline.log ++ [event] }

/-- A pipeline with its session changed. -/
def withSession (pipeline : Pipeline σ τ) (session : Session) : Pipeline σ τ :=
  { pipeline with session }

/-- Hands the batch to the consumer and empties it. -/
def handOver (consumer : Consumer τ) (pipeline : Pipeline σ τ) : Attempt (Pipeline σ τ) :=
  let batch := pipeline.session.batch
  let pipeline := pipeline.report (.handingOver batch.size batch.childCounts)
  let taken := consumer.accept batch pipeline.consumer
  let pipeline := { pipeline with consumer := taken.state }
  match taken.failure with
  | some failure => .failed pipeline failure.ofConsumer
  | none => .ok (pipeline.withSession pipeline.session.handedOver)

/-- Leaves out input that is not a record, or fails with what is wrong with it. -/
def reject (pipeline : Pipeline σ τ) (failure : Failure) (policy : RecordPolicy) :
    Attempt (Pipeline σ τ) :=
  match policy with
  | .skip =>
    .ok ((pipeline.report (.skipping failure)).withSession pipeline.session.countSkipped)
  | .abort => .failed pipeline failure

/-- Ends a session whose feed is exhausted: the rows that are left are handed over. -/
def finish (consumer : Consumer τ) (pipeline : Pipeline σ τ) : Attempt (Pipeline σ τ) :=
  let flushed :=
    if pipeline.session.batch.isEmpty then .ok pipeline else pipeline.handOver consumer
  match flushed.failure with
  | some _ => flushed
  | none =>
    let pipeline := flushed.state
    .ok ((pipeline.report (.drained pipeline.session.totals)).withSession
      (pipeline.session.withPhase .drained))

/-- Polls the feed. -/
def awaitRecord (feed : Feed σ) (consumer : Consumer τ) (pipeline : Pipeline σ τ) :
    Attempt (Pipeline σ τ) :=
  let before := feed.line pipeline.feed
  let (polled, state) := feed.poll pipeline.feed
  let line := feed.line state
  let pipeline := { pipeline with feed := state }
  match polled with
  | .exhausted => pipeline.finish consumer
  | .record (.object members) =>
    .ok (pipeline.withSession (pipeline.session.withPhase (.convertingRow ⟨line, members⟩)))
  | .record value =>
    pipeline.reject (.notAnObject line value.kind) pipeline.session.options.onNotObject
  | .failed failure =>
    if failure.classOf = .parse then
      pipeline.reject failure pipeline.session.options.onMalformed
    else .failed (pipeline.report (.feedFailed failure before)) failure

/-- Writes a record into an empty batch whose child columns may grow for it. -/
def convertGrowing (pipeline : Pipeline σ τ) (pending : PendingRecord) (batch : RecordBatch) :
    Attempt (Pipeline σ τ) :=
  let pipeline := pipeline.report (.growing pending.line)
  let written := pipeline.session.encoder.write pending.record (batch.setGrowable true)
  let batch := written.state.setGrowable false
  match written.failure with
  | some failure => .failed (pipeline.withSession (pipeline.session.withBatch batch)) failure
  | none => .ok (pipeline.withSession (pipeline.session.rowCommitted batch))

/-- Puts a record off to the next batch and hands over this one. -/
def deferRecord (consumer : Consumer τ) (pipeline : Pipeline σ τ) (pending : PendingRecord)
    (batch : RecordBatch) (failure : Failure) : Attempt (Pipeline σ τ) :=
  ((pipeline.report (.deferring failure pending.line)).withSession
    (pipeline.session.withBatch batch)).handOver consumer

/-- Writes the record that the session holds. -/
def convertRow (consumer : Consumer τ) (pipeline : Pipeline σ τ) (pending : PendingRecord) :
    Attempt (Pipeline σ τ) :=
  let session := pipeline.session
  let written := session.encoder.write pending.record session.batch
  match written.failure with
  | none => .ok (pipeline.withSession (session.rowCommitted written.state))
  | some failure =>
    if session.options.onOverflow = .defer ∧ failure.isChildOverflow = true then
      let batch := written.state.restore session.batch.childCounts
      if batch.isEmpty then pipeline.convertGrowing pending batch
      else pipeline.deferRecord consumer pending batch failure
    else .failed (pipeline.withSession (session.withBatch written.state)) failure

/-- Hands over a full batch. -/
def handOverFull (consumer : Consumer τ) (pipeline : Pipeline σ τ) : Attempt (Pipeline σ τ) :=
  (pipeline.handOver consumer).map fun pipeline =>
    pipeline.withSession (pipeline.session.withPhase .awaitingRecord)

/-- What a session does next, by where it stands. -/
def transition (feed : Feed σ) (consumer : Consumer τ) (pipeline : Pipeline σ τ) :
    Attempt (Pipeline σ τ) :=
  match pipeline.session.phase with
  | .awaitingRecord => pipeline.awaitRecord feed consumer
  | .convertingRow pending => pipeline.convertRow consumer pending
  | .batchFull => pipeline.handOverFull consumer
  | .drained => .ok pipeline

/-- One step. After a failure the session is drained. -/
def step (feed : Feed σ) (consumer : Consumer τ) (pipeline : Pipeline σ τ) :
    Attempt (Pipeline σ τ) :=
  let attempt := pipeline.transition feed consumer
  match attempt.failure with
  | some failure =>
    .failed (attempt.state.withSession (attempt.state.session.withPhase .drained)) failure
  | none => attempt

end Pipeline

end Columnar
