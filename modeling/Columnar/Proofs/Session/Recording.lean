import Columnar.Session.Run
/-!
# Sessions under observation

What a feed gave and what a consumer took in the course of a session are no part of its state. Here a
feed notes what its polls gave, and a consumer the batches that it took, or all that it was offered.
Observed like this a session does exactly what it does otherwise (`step_observed`), so what is proved
of the notes holds of every session.
-/

set_option autoImplicit false

namespace Columnar

/-- A feed that notes what its polls gave, in order. -/
def Feed.recorded {σ : Type} (feed : Feed σ) : Feed (σ × List Polled) where
  poll state :=
    let answer := feed.poll state.1
    (answer.1, (answer.2, state.2 ++ [answer.1]))
  line state := feed.line state.1

/-- A finite feed that notes what its polls gave. -/
def FiniteFeed.recorded {σ : Type} (feed : FiniteFeed σ) : FiniteFeed (σ × List Polled) where
  toFeed := feed.toFeed.recorded
  remaining state := feed.remaining state.1
  remaining_lt state := feed.remaining_lt state.1

namespace Consumer

/-- A consumer does what another one does, and takes notes. -/
def Observes {τ β : Type} (observer : Consumer (τ × β)) (consumer : Consumer τ) : Prop :=
  ∀ batch state, (observer.accept batch state).map Prod.fst = consumer.accept batch state.1

/-- A consumer that notes the batches that it took, in order. -/
def recorded {τ : Type} (consumer : Consumer τ) : Consumer (τ × List RecordBatch) where
  accept batch state :=
    let taken := consumer.accept batch state.1
    ⟨(taken.state, if taken.failure.isNone then state.2 ++ [batch] else state.2), taken.failure⟩

/-- A consumer that notes the batches that it was offered, in order, whether it took them or not. -/
def watched {τ : Type} (consumer : Consumer τ) : Consumer (τ × List RecordBatch) where
  accept batch state :=
    let taken := consumer.accept batch state.1
    ⟨(taken.state, state.2 ++ [batch]), taken.failure⟩

/-- To note what was taken does not change what a consumer does. -/
theorem observes_recorded {τ : Type} (consumer : Consumer τ) :
    consumer.recorded.Observes consumer :=
  fun _ _ => rfl

/-- Nor does it change anything to note what was offered. -/
theorem observes_watched {τ : Type} (consumer : Consumer τ) : consumer.watched.Observes consumer :=
  fun _ _ => rfl

end Consumer

/-- A part of a state goes on like the whole if it does so in each of two operations in a row. -/
theorem Attempt.map_andThen {σ τ : Type} {part : σ → τ} {attempt : Attempt σ}
    {next : σ → Attempt σ} {next' : τ → Attempt τ}
    (same : ∀ state, (next state).map part = next' (part state)) :
    (attempt.andThen next).map part = (attempt.map part).andThen next' := by
  obtain ⟨state, failure⟩ := attempt
  cases failure with
  | none => exact same state
  | some failure => rfl

namespace Pipeline

variable {σ τ α β : Type}

/-- A pipeline without the notes. -/
def forget (pipeline : Pipeline (σ × α) (τ × β)) : Pipeline σ τ :=
  ⟨pipeline.session, pipeline.feed.1, pipeline.consumer.1, pipeline.log⟩

/-- A number of steps, up to the first failure. -/
def steps (feed : Feed σ) (consumer : Consumer τ) : Nat → Pipeline σ τ → Attempt (Pipeline σ τ)
  | 0, pipeline => .ok pipeline
  | n + 1, pipeline => (pipeline.step feed consumer).andThen (steps feed consumer n)

/-- A pipeline after a number of steps, failed ones too. -/
def advance (feed : Feed σ) (consumer : Consumer τ) : Nat → Pipeline σ τ → Pipeline σ τ
  | 0, pipeline => pipeline
  | n + 1, pipeline => advance feed consumer n (pipeline.step feed consumer).state

/-- A pipeline whose session has come to its end. -/
def ended (pipeline : Pipeline σ τ) : Pipeline σ τ :=
  (pipeline.report (.drained pipeline.session.totals)).withSession
    (pipeline.session.withPhase .drained)

/-- A session ends once the rows that are left were handed over. -/
theorem finish_eq (consumer : Consumer τ) (pipeline : Pipeline σ τ) :
    pipeline.finish consumer =
      (if pipeline.session.batch.isEmpty then .ok pipeline else pipeline.handOver consumer).andThen
        fun pipeline => .ok pipeline.ended := rfl

/-- Ending a session keeps what handing a batch over keeps and the last event and phase leave. -/
theorem state_finish {P : Pipeline σ τ → Prop} (consumer : Consumer τ) {pipeline : Pipeline σ τ}
    (before : P pipeline) (handed : P (pipeline.handOver consumer).state)
    (ends : ∀ other : Pipeline σ τ, P other → P other.ended) :
    P (pipeline.finish consumer).state := by
  rw [finish_eq]
  refine Attempt.state_andThen ?_ (ends _)
  split
  · exact before
  · exact handed

section

variable (feed : Feed σ) {consumer : Consumer τ} {observer : Consumer (τ × β)}

/-- Handing a batch over does the same without the notes, those of the feed and those of the
consumer. -/
theorem handOver_observed (observes : observer.Observes consumer)
    (pipeline : Pipeline (σ × α) (τ × β)) :
    (pipeline.handOver observer).map forget = pipeline.forget.handOver consumer := by
  have same : pipeline.forget.session = pipeline.session := rfl
  have taken := observes pipeline.session.batch pipeline.consumer
  unfold handOver
  rw [same]
  simp only [report, forget, ← taken, Attempt.failure_map]
  cases (observer.accept pipeline.session.batch pipeline.consumer).failure <;> rfl

/-- A session comes to the same end without the notes. -/
theorem finish_observed (observes : observer.Observes consumer)
    (pipeline : Pipeline (σ × α) (τ × β)) :
    (pipeline.finish observer).map forget = pipeline.forget.finish consumer := by
  have empty : pipeline.forget.session.batch.isEmpty = pipeline.session.batch.isEmpty := rfl
  rw [finish_eq, finish_eq, empty]
  cases pipeline.session.batch.isEmpty with
  | true => rfl
  | false =>
    have handed := handOver_observed observes pipeline
    simp only [Bool.false_eq_true, if_false, ← handed]
    exact Attempt.map_andThen fun _ => rfl

/-- To leave out a piece of input, or to fail for it, has to do with no notes. -/
theorem reject_forget (pipeline : Pipeline (σ × α) (τ × β)) (failure : Failure)
    (policy : RecordPolicy) :
    (pipeline.reject failure policy).map forget = pipeline.forget.reject failure policy := by
  cases policy <;> rfl

/-- A poll gives the same without the notes. -/
theorem awaitRecord_observed (observes : observer.Observes consumer)
    (pipeline : Pipeline (σ × List Polled) (τ × β)) :
    (pipeline.awaitRecord feed.recorded observer).map forget =
      pipeline.forget.awaitRecord feed consumer := by
  obtain ⟨session, ⟨state, noted⟩, consumed, log⟩ := pipeline
  simp only [awaitRecord, Feed.recorded, forget]
  cases polled : (feed.poll state).1 with
  | exhausted => exact finish_observed observes _
  | record value =>
    cases value with
    | object members => rfl
    | null | bool | int | real | text | array => exact reject_forget _ _ _
  | failed failure =>
    by_cases parse : failure.classOf = .parse
    · simp only [if_pos parse]
      exact reject_forget _ _ _
    · simp only [if_neg parse]
      rfl

/-- A second trial has to do with no notes. -/
theorem convertGrowing_forget (pipeline : Pipeline (σ × α) (τ × β)) (pending : PendingRecord)
    (batch : RecordBatch) :
    (pipeline.convertGrowing pending batch).map forget =
      pipeline.forget.convertGrowing pending batch := by
  have same : pipeline.forget.session = pipeline.session := rfl
  unfold convertGrowing
  simp only [report, same]
  split <;> rfl

/-- A record is converted in the same way without the notes, also if it is put off and a batch is
handed over for it. -/
theorem convertRow_observed (observes : observer.Observes consumer)
    (pipeline : Pipeline (σ × α) (τ × β)) (pending : PendingRecord) :
    (pipeline.convertRow observer pending).map forget =
      pipeline.forget.convertRow consumer pending := by
  have same : pipeline.forget.session = pipeline.session := rfl
  unfold convertRow
  rw [same]
  dsimp only
  split
  · rfl
  · split
    · split
      · exact convertGrowing_forget _ _ _
      · exact handOver_observed observes _
    · rfl

/-- A step under observation is the step that is observed. -/
theorem step_observed (observes : observer.Observes consumer)
    (pipeline : Pipeline (σ × List Polled) (τ × β)) :
    (pipeline.step feed.recorded observer).map forget = pipeline.forget.step feed consumer := by
  have transitions : (pipeline.transition feed.recorded observer).map forget =
      pipeline.forget.transition feed consumer := by
    have same : pipeline.forget.session = pipeline.session := rfl
    unfold transition
    rw [same]
    cases pipeline.session.phase with
    | awaitingRecord => exact awaitRecord_observed feed observes pipeline
    | convertingRow pending => exact convertRow_observed observes pipeline pending
    | batchFull =>
      have handed := handOver_observed observes pipeline
      simp only [handOverFull, ← handed]
      rfl
    | drained => rfl
  unfold step
  rw [← transitions]
  simp only [Attempt.failure_map]
  split <;> rfl

/-- Any number of steps under observation, failed ones too, are the steps that are observed. -/
theorem advance_observed (observes : observer.Observes consumer) (n : Nat) :
    ∀ pipeline : Pipeline (σ × List Polled) (τ × β),
      (pipeline.advance feed.recorded observer n).forget =
        pipeline.forget.advance feed consumer n := by
  induction n with
  | zero => exact fun _ => rfl
  | succ n ih =>
    intro pipeline
    rw [advance, advance, ← step_observed feed observes]
    exact ih _

variable (consumer)

/-- Any number of steps under observation are the steps that are observed. -/
theorem steps_recorded (n : Nat) :
    ∀ pipeline : Pipeline (σ × List Polled) (τ × List RecordBatch),
      (pipeline.steps feed.recorded consumer.recorded n).map forget =
        pipeline.forget.steps feed consumer n := by
  induction n with
  | zero => exact fun _ => rfl
  | succ n ih =>
    intro pipeline
    rw [steps, steps, ← step_observed feed consumer.observes_recorded]
    exact Attempt.map_andThen ih

end

/-- No more steps are taken after an attempt that failed or drained the session. -/
def Over (attempt : Attempt (Pipeline σ τ)) : Prop :=
  attempt.failure.isSome ∨ attempt.state.session.phase.isDrained

/-- A run is over after a step that fails or drains the session. -/
theorem run_of_stop {feed : FiniteFeed σ} {consumer : Consumer τ} {pipeline : Pipeline σ τ}
    (stop : (pipeline.step feed.toFeed consumer).failure.isSome ∨
      (pipeline.step feed.toFeed consumer).state.session.phase.isDrained) :
    pipeline.run feed consumer = pipeline.step feed.toFeed consumer := by
  rw [run]
  exact dif_pos stop

/-- After any other step a run goes on as from where that step leads. -/
theorem run_of_going {feed : FiniteFeed σ} {consumer : Consumer τ} {pipeline : Pipeline σ τ}
    (going : ¬((pipeline.step feed.toFeed consumer).failure.isSome ∨
      (pipeline.step feed.toFeed consumer).state.session.phase.isDrained)) :
    pipeline.run feed consumer = (pipeline.step feed.toFeed consumer).state.run feed consumer := by
  conv => lhs; rw [run]
  exact dif_neg going

/-- Steps that are not the last of a run get fewer. -/
theorem stepsLeft_of_going {feed : FiniteFeed σ} {consumer : Consumer τ} {pipeline : Pipeline σ τ}
    (going : ¬Over (pipeline.step feed.toFeed consumer)) :
    (pipeline.step feed.toFeed consumer).state.stepsLeft feed < pipeline.stepsLeft feed := by
  rw [Over, not_or, Option.not_isSome_iff_eq_none, Bool.not_eq_true] at going
  exact stepsLeft_step feed consumer pipeline going.1 going.2

/-- A step after which a record is awaited is not the last of a run. -/
theorem run_of_awaiting {feed : FiniteFeed σ} {consumer : Consumer τ} {pipeline next : Pipeline σ τ}
    (step : pipeline.step feed.toFeed consumer = .ok next)
    (phase : next.session.phase = .awaitingRecord) :
    pipeline.run feed consumer = next.run feed consumer ∧
      next.stepsLeft feed < pipeline.stepsLeft feed := by
  have going : ¬Over (pipeline.step feed.toFeed consumer) := by
    rw [step]
    simp [Over, phase, Phase.isDrained]
  have fewer := stepsLeft_of_going going
  rw [run_of_going going]
  rw [step] at fewer ⊢
  exact ⟨rfl, fewer⟩

/-- A run under observation is the run that is observed. -/
theorem run_observed (feed : FiniteFeed σ) {consumer : Consumer τ} {observer : Consumer (τ × β)}
    (observes : observer.Observes consumer) (pipeline : Pipeline (σ × List Polled) (τ × β)) :
    (pipeline.run feed.recorded observer).map forget = pipeline.forget.run feed consumer := by
  induction pipeline using run.induct feed.recorded observer with
  | case1 pipeline attempt stop =>
    have same := step_observed feed.toFeed observes pipeline
    rw [run_of_stop stop, run_of_stop (by rw [← same]; exact stop), ← same]
    rfl
  | case2 pipeline attempt going ih =>
    have same := step_observed feed.toFeed observes pipeline
    have goes : ¬((pipeline.forget.step feed.toFeed consumer).failure.isSome ∨
        (pipeline.forget.step feed.toFeed consumer).state.session.phase.isDrained) := by
      rw [← same]
      exact going
    rw [run_of_going going, run_of_going goes, ← same]
    exact ih

/-- A whole run does the same without the notes of what was polled and what was taken. -/
theorem run_recorded (feed : FiniteFeed σ) (consumer : Consumer τ)
    (pipeline : Pipeline (σ × List Polled) (τ × List RecordBatch)) :
    (pipeline.run feed.recorded consumer.recorded).map forget =
      pipeline.forget.run feed consumer :=
  run_observed feed consumer.observes_recorded pipeline

end Pipeline

end Columnar
