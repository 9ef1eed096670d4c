import Columnar.Session.Pipeline
/-!
# Running a session

A session is run by taking steps until it is drained or fails. On a finite feed this comes to an end:
polls use up the feed, and between two polls a session takes at most three steps, to put a record off,
to write it, and to hand over the batch that it fills.
-/

set_option autoImplicit false

namespace Columnar.Pipeline

variable {σ τ : Type}

/-- How many steps may lie between a phase and the next poll. -/
def pace (pipeline : Pipeline σ τ) : Nat :=
  match pipeline.session.phase with
  | .awaitingRecord => 0
  | .batchFull => 1
  | .convertingRow _ => if pipeline.session.batch.isEmpty then 2 else 3
  | .drained => 0

/-- A bound on the steps that a pipeline with a finite feed can still take. -/
def stepsLeft (feed : FiniteFeed σ) (pipeline : Pipeline σ τ) : Nat :=
  4 * feed.remaining pipeline.feed + pipeline.pace

/-- No phase is further than three steps from the next poll. -/
theorem pace_le (pipeline : Pipeline σ τ) : pipeline.pace ≤ 3 := by
  unfold pace
  split <;> (try split) <;> omega

/-- Handing a batch over polls nothing. -/
theorem feed_handOver (consumer : Consumer τ) (pipeline : Pipeline σ τ) :
    (pipeline.handOver consumer).state.feed = pipeline.feed := by
  unfold handOver
  dsimp only
  split <;> rfl

/-- Handing a batch over leaves the phase, whether the consumer takes the batch or not. -/
theorem phase_handOver (consumer : Consumer τ) (pipeline : Pipeline σ τ) :
    (pipeline.handOver consumer).state.session.phase = pipeline.session.phase := by
  unfold handOver
  dsimp only
  split <;> rfl

/-- Once a batch is handed over without a failure there is an empty one to go on with. -/
theorem isEmpty_handOver (consumer : Consumer τ) (pipeline : Pipeline σ τ)
    (h : (pipeline.handOver consumer).failure = none) :
    (pipeline.handOver consumer).state.session.batch.isEmpty = true := by
  unfold handOver at h ⊢
  dsimp only at h ⊢
  split at h
  · exact absurd h (by simp [Attempt.failed])
  · rfl

/-- A session that finishes without a failure is drained. -/
theorem phase_finish (consumer : Consumer τ) (pipeline : Pipeline σ τ)
    (h : (pipeline.finish consumer).failure = none) :
    (pipeline.finish consumer).state.session.phase = .drained := by
  unfold finish at h ⊢
  dsimp only at h ⊢
  split at h
  · next failed => rw [failed] at h; exact absurd h (by simp)
  · rfl

/-- A poll that does not end the session uses up some of the feed. -/
theorem remaining_awaitRecord (feed : FiniteFeed σ) (consumer : Consumer τ)
    (pipeline : Pipeline σ τ)
    (ok : (pipeline.awaitRecord feed.toFeed consumer).failure = none)
    (going : (pipeline.awaitRecord feed.toFeed consumer).state.session.phase.isDrained = false) :
    feed.remaining (pipeline.awaitRecord feed.toFeed consumer).state.feed <
      feed.remaining pipeline.feed := by
  have fewer := feed.remaining_lt pipeline.feed
  unfold awaitRecord at ok going ⊢
  generalize feed.poll pipeline.feed = answer at ok going fewer ⊢
  obtain ⟨polled, state⟩ := answer
  dsimp only at ok going fewer ⊢
  cases polled with
  | exhausted =>
    dsimp only at ok going
    rw [phase_finish consumer _ ok] at going
    exact absurd going (by simp [Phase.isDrained])
  | record value =>
    have less := fewer (by simp)
    cases value <;> dsimp only [reject] <;> (try split) <;> exact less
  | failed failure =>
    have less := fewer (by simp)
    dsimp only [reject]
    split <;> (try split) <;> exact less

/-- After a row the next poll is at most one step away. -/
theorem pace_rowCommitted (pipeline : Pipeline σ τ) (session : Session) (batch : RecordBatch) :
    (pipeline.withSession (session.rowCommitted batch)).pace ≤ 1 := by
  by_cases full : batch.isFull = true <;>
    simp [pace, withSession, Session.rowCommitted, full]

/-- Growing the child columns for a record commits it. -/
theorem pace_convertGrowing (pipeline : Pipeline σ τ) (pending : PendingRecord)
    (batch : RecordBatch) (ok : (pipeline.convertGrowing pending batch).failure = none) :
    (pipeline.convertGrowing pending batch).state.pace ≤ 1 := by
  revert ok
  unfold convertGrowing
  dsimp only
  split
  · intro ok; exact absurd ok (by simp [Attempt.failed])
  · intro _; exact pace_rowCommitted _ _ _

/-- A record that was put off stays with the session, whose batch is then empty. -/
theorem pace_deferRecord (consumer : Consumer τ) (pipeline : Pipeline σ τ)
    (pending : PendingRecord) (batch : RecordBatch) (failure : Failure)
    (phase : pipeline.session.phase = .convertingRow pending)
    (ok : (pipeline.deferRecord consumer pending batch failure).failure = none) :
    (pipeline.deferRecord consumer pending batch failure).state.pace = 2 := by
  unfold deferRecord at ok ⊢
  have empty := isEmpty_handOver consumer _ ok
  have kept := phase_handOver consumer
    ((pipeline.report (.deferring failure pending.line)).withSession
      (pipeline.session.withBatch batch))
  rw [show (withSession (pipeline.report (.deferring failure pending.line))
    (pipeline.session.withBatch batch)).session.phase = .convertingRow pending from phase] at kept
  simp [pace, kept, empty]

/-- Writing a record takes at least one step off the way to the next poll. -/
theorem pace_convertRow (consumer : Consumer τ) (pipeline : Pipeline σ τ)
    (pending : PendingRecord) (phase : pipeline.session.phase = .convertingRow pending)
    (ok : (pipeline.convertRow consumer pending).failure = none) :
    (pipeline.convertRow consumer pending).state.pace < pipeline.pace := by
  have two : 2 ≤ pipeline.pace := by
    simp only [pace, phase]
    split <;> omega
  revert ok
  unfold convertRow
  dsimp only
  split
  · intro _
    exact Nat.lt_of_le_of_lt (pace_rowCommitted _ _ _) two
  · next failure written =>
    split
    · split
      · intro ok
        exact Nat.lt_of_le_of_lt (pace_convertGrowing _ _ _ ok) two
      · next filled =>
        intro ok
        rw [pace_deferRecord consumer pipeline pending _ failure phase ok]
        have size := pipeline.session.encoder.size_write_of_failure pending.record
          pipeline.session.batch failure written
        have same : (pipeline.session.encoder.write pending.record
            pipeline.session.batch).state.isEmpty = pipeline.session.batch.isEmpty := by
          simp only [RecordBatch.isEmpty, size]
        have filled : pipeline.session.batch.isEmpty = false := by
          rw [← same]
          exact Bool.eq_false_iff.mpr filled
        simp [pace, phase, filled]
    · intro ok; exact absurd ok (by simp [Attempt.failed])

/-- Writing a record does not touch the feed. -/
theorem feed_convertRow (consumer : Consumer τ) (pipeline : Pipeline σ τ)
    (pending : PendingRecord) :
    (pipeline.convertRow consumer pending).state.feed = pipeline.feed := by
  unfold convertRow
  dsimp only
  split
  · rfl
  · split
    · split
      · unfold convertGrowing
        dsimp only
        split <;> rfl
      · exact feed_handOver _ _
    · rfl

/-- A step that neither fails nor drains the session leaves fewer steps to take. -/
theorem stepsLeft_step (feed : FiniteFeed σ) (consumer : Consumer τ) (pipeline : Pipeline σ τ)
    (ok : (pipeline.step feed.toFeed consumer).failure = none)
    (going : (pipeline.step feed.toFeed consumer).state.session.phase.isDrained = false) :
    (pipeline.step feed.toFeed consumer).state.stepsLeft feed < pipeline.stepsLeft feed := by
  revert ok going
  unfold step
  dsimp only
  split
  · intro ok; exact absurd ok (by simp [Attempt.failed])
  · unfold transition
    split
    · intro ok going
      have fewer := remaining_awaitRecord feed consumer pipeline ok going
      have most := (pipeline.awaitRecord feed.toFeed consumer).state.pace_le
      unfold stepsLeft
      omega
    · next pending phase =>
      intro ok _
      have closer := pace_convertRow consumer pipeline pending phase ok
      unfold stepsLeft
      rw [feed_convertRow]
      omega
    · next phase =>
      intro ok _
      have same : (pipeline.handOverFull consumer).state.feed = pipeline.feed :=
        feed_handOver consumer pipeline
      have here : pipeline.pace = 1 := by simp [pace, phase]
      have there : (pipeline.handOverFull consumer).state.pace = 0 := by
        simp [pace, handOverFull, Attempt.map, withSession, Session.withPhase]
      unfold stepsLeft
      rw [same, here, there]
      omega
    · next phase =>
      intro _ going
      simp [Attempt.ok, phase, Phase.isDrained] at going

/-- Takes steps until the session is drained or fails. -/
def run (feed : FiniteFeed σ) (consumer : Consumer τ) (pipeline : Pipeline σ τ) :
    Attempt (Pipeline σ τ) :=
  let attempt := pipeline.step feed.toFeed consumer
  if _stop : attempt.failure.isSome ∨ attempt.state.session.phase.isDrained then attempt
  else attempt.state.run feed consumer
termination_by pipeline.stepsLeft feed
decreasing_by
  simp only [not_or, Bool.not_eq_true, Option.isSome_eq_false_iff, Option.isNone_iff_eq_none]
    at _stop
  exact stepsLeft_step feed consumer pipeline _stop.1 _stop.2

end Columnar.Pipeline
