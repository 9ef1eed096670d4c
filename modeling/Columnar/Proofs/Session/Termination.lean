import Mathlib.Algebra.BigOperators.Group.Finset.Piecewise
import Columnar.Feed.Values
import Columnar.Proofs.Session.Outcomes
/-!
# Sessions come to an end

A session is run by steps until it fails or is drained. On a feed that gives something for `n` polls
that takes at most `3 * n + 1` steps, since between two polls a session takes at most two: a record
that is put off finds an empty batch, which holds it and does not become full by it (`leg_step`). On
any feed, what the steps between two polls still may do falls with each of them, so a record is tried
in at most two steps and put off in at most one (`pays_converting`, `pays_deferrals`).
-/

set_option autoImplicit false

namespace Columnar

/-- A feed gives something in each of a number of polls, and is exhausted in the next. -/
def Feed.EndsAfter {σ : Type} (feed : Feed σ) : Nat → σ → Prop
  | 0, state => (feed.poll state).1 = .exhausted
  | n + 1, state => (feed.poll state).1 ≠ .exhausted ∧ feed.EndsAfter n (feed.poll state).2

/-- Whether a record was put off in an event. -/
def Event.isDeferral : Event → Bool
  | .deferring _ _ => true
  | .handingOver _ _ | .skipping _ | .feedFailed _ _ | .growing _ | .drained _ => false

namespace Pipeline

variable {σ τ : Type} {type : DataType} {options : Options} {written : List Json.Members}
  {feed : Feed σ} {consumer : Consumer τ} {pipeline : Pipeline σ τ}

/-! ### Runs on any feed -/

/-- What it comes to to take steps until one fails or drains the session, whether the feed is known
to be finite or not. -/
inductive Runs (feed : Feed σ) (consumer : Consumer τ) :
    Pipeline σ τ → Attempt (Pipeline σ τ) → Prop
  | stops {pipeline : Pipeline σ τ} (stop : Over (pipeline.step feed consumer)) :
      Runs feed consumer pipeline (pipeline.step feed consumer)
  | goes {pipeline : Pipeline σ τ} {attempt : Attempt (Pipeline σ τ)}
      (going : ¬Over (pipeline.step feed consumer))
      (later : Runs feed consumer (pipeline.step feed consumer).state attempt) :
      Runs feed consumer pipeline attempt

/-- On a finite feed, that is what a run comes to. -/
theorem Runs.run_eq {finite : FiniteFeed σ} {attempt : Attempt (Pipeline σ τ)}
    (runs : Runs finite.toFeed consumer pipeline attempt) :
    pipeline.run finite consumer = attempt := by
  induction runs with
  | stops stop => exact run_of_stop stop
  | goes going later ih => exact (run_of_going going).trans ih

/-- On a finite feed there is something that taking steps comes to: what a run gives. The induction
is that of the run itself. -/
theorem runs_run (finite : FiniteFeed σ) (consumer : Consumer τ) (pipeline : Pipeline σ τ) :
    Runs finite.toFeed consumer pipeline (pipeline.run finite consumer) := by
  induction pipeline using run.induct finite consumer with
  | case1 pipeline attempt stop =>
    rw [run_of_stop stop]
    exact .stops stop
  | case2 pipeline attempt going ih =>
    rw [run_of_going going]
    exact .goes going ih

/-! ### The steps to the next poll -/

/-- How many steps a session takes to its next poll at most. -/
def leg (pipeline : Pipeline σ τ) : Nat :=
  match pipeline.session.phase with
  | .awaitingRecord => 0
  | .convertingRow _ =>
    if pipeline.session.batch.isEmpty ∧ 1 < pipeline.session.batch.capacity then 1 else 2
  | .batchFull => 1
  | .drained => 0

/-- A session takes two steps to its next poll at most. -/
theorem leg_le (pipeline : Pipeline σ τ) : pipeline.leg ≤ 2 := by
  unfold leg
  split <;> (try split) <;> omega

/-- A poll that does not end the session is one of those after which the feed has something to give. -/
theorem leg_awaitRecord {polls : Nat} (ends : feed.EndsAfter polls pipeline.feed)
    (phase : pipeline.session.phase = .awaitingRecord)
    (going : ¬Over (pipeline.awaitRecord feed consumer)) :
    ∃ polls', feed.EndsAfter polls' (pipeline.awaitRecord feed consumer).state.feed ∧
      3 * polls' + (pipeline.awaitRecord feed consumer).state.leg < 3 * polls + pipeline.leg := by
  have awaited := awaited_awaitRecord feed consumer pipeline
  cases polls with
  | zero =>
    -- The feed is exhausted, so the session ends or fails.
    have exhausted : (feed.poll pipeline.feed).1 = .exhausted := ends
    rw [nextVerdict, exhausted] at awaited
    generalize pipeline.awaitRecord feed consumer = attempt at awaited going
    cases awaited
    refine absurd ?_ going
    cases failed : ((pipeline.polled feed).finish consumer).failure with
    | some failure => exact .inl (by rw [failed]; rfl)
    | none => exact .inr (Phase.isDrained_iff.mpr (phase_finish consumer _ failed))
  | succ polls =>
    obtain ⟨gives, ends⟩ := ends
    cases judged : nextVerdict feed pipeline.session.options pipeline.feed
    all_goals
      rw [judged] at awaited
      generalize pipeline.awaitRecord feed consumer = attempt at awaited going
      cases awaited
    case stop => exact absurd (polled_eq_exhausted judged) gives
    case fail failure next session consumed fed => exact absurd (.inl rfl) going
    case take pending =>
      refine ⟨polls, ends, ?_⟩
      have most := leg_le ((pipeline.polled feed).withSession
        (pipeline.session.withPhase (.convertingRow pending)))
      rw [Attempt.state_ok]
      omega
    case leaveOut event =>
      refine ⟨polls, ends, ?_⟩
      have idle : leg (((pipeline.polled feed).report event).withSession
          pipeline.session.countSkipped) = 0 := by
        simp [leg, withSession, Session.countSkipped, phase]
      rw [Attempt.state_ok, idle]
      omega

/-- Converting a record takes a step off the way to the next poll. -/
theorem leg_convertRow {pending : PendingRecord}
    (stands : pipeline.session.Stands type options written)
    (phase : pipeline.session.phase = .convertingRow pending)
    (clean : (pipeline.convertRow consumer pending).failure = none) :
    (pipeline.convertRow consumer pending).state.leg < pipeline.leg := by
  have room := (RecordEncoder.isFull_eq_false stands.keeps.shaped).mp
    (stands.keeps.isFull_eq_false (by rw [phase]; nofun))
  have here : pipeline.leg =
      if pipeline.session.batch.isEmpty ∧ 1 < pipeline.session.batch.capacity then 1 else 2 := by
    simp only [leg, phase]
  have attempted := attempted_convertRow pipeline consumer stands.keeps phase
  generalize pipeline.convertRow consumer pending = attempt at attempted clean
  cases attempted with
  | refused next failure => cases clean
  | committed next sound keeps phase' =>
    have size := keeps.size_eq
    have size' := stands.keeps.size_eq
    have capacity := keeps.capacity_eq.trans stands.keeps.capacity_eq.symm
    rw [List.length_append, List.length_singleton] at size
    rw [Attempt.state_ok, here, leg, phase']
    cases full : next.session.batch.isFull with
    | false =>
      simp only [Bool.false_eq_true, if_false]
      split <;> omega
    | true =>
      -- The batch is full, so it was not empty unless it has room for one row only.
      have all : next.session.batch.size = next.session.batch.capacity := beq_iff_eq.mp full
      simp only [if_true]
      rw [if_neg]
      · exact Nat.one_lt_two
      · rintro ⟨empty, several⟩
        have none : pipeline.session.batch.size = 0 := beq_iff_eq.mp empty
        omega
  | deferred next keeps phase' filled =>
    have session := session_handOver consumer next clean
    have some_row : next.session.batch.size ≠ 0 := beq_eq_false_iff_ne.mp filled
    have same := keeps.size_eq.trans stands.keeps.size_eq.symm
    have capacity := keeps.capacity_eq.trans stands.keeps.capacity_eq.symm
    have several : 1 < next.session.batch.capacity := by omega
    have there : (next.handOver consumer).state.leg = 1 := by
      simp only [leg, session, Session.handedOver, phase', RecordBatch.isEmpty, RecordBatch.reset,
        several, beq_self_eq_true, and_self, if_true]
    rw [there, here, if_neg]
    · exact Nat.one_lt_two
    · rintro ⟨empty, -⟩
      have none : pipeline.session.batch.size = 0 := beq_iff_eq.mp empty
      omega

/-- A step that is not the last takes a call off those to come. -/
theorem leg_step {polls : Nat} (stands : pipeline.session.Stands type options written)
    (awake : pipeline.session.phase ≠ .drained) (ends : feed.EndsAfter polls pipeline.feed)
    (going : ¬Over (pipeline.step feed consumer)) :
    ∃ polls', feed.EndsAfter polls' (pipeline.step feed consumer).state.feed ∧
      3 * polls' + (pipeline.step feed consumer).state.leg < 3 * polls + pipeline.leg := by
  have clean : (pipeline.step feed consumer).failure = none := by
    rw [Over, not_or] at going
    exact Option.not_isSome_iff_eq_none.mp going.1
  have same := step_of_clean clean
  rw [same] at going clean ⊢
  unfold transition at going clean ⊢
  cases phase : pipeline.session.phase with
  | awaitingRecord =>
    simp only [phase] at going
    exact leg_awaitRecord ends phase going
  | convertingRow pending =>
    simp only [phase] at clean
    refine ⟨polls, ?_, Nat.add_lt_add_left (leg_convertRow stands phase clean) _⟩
    rw [feed_convertRow]
    exact ends
  | batchFull =>
    have same : (pipeline.handOverFull consumer).state.feed = pipeline.feed :=
      feed_handOver consumer pipeline
    have here : pipeline.leg = 1 := by simp only [leg, phase]
    have there : (pipeline.handOverFull consumer).state.leg = 0 := rfl
    refine ⟨polls, ?_, ?_⟩
    · rw [same]
      exact ends
    · simp only [here, there]
      omega
  | drained => exact absurd phase awake

/-- One step, up to the first failure, is just a step. -/
theorem steps_one (feed : Feed σ) (consumer : Consumer τ) (pipeline : Pipeline σ τ) :
    pipeline.steps feed consumer 1 = pipeline.step feed consumer := by
  rw [steps, Attempt.andThen]
  cases failed : (pipeline.step feed consumer).failure with
  | some failure => rfl
  | none =>
    show Attempt.mk _ none = _
    rw [← failed]

/-- A session runs to its end within the calls that are left. -/
theorem exists_runs (feed : Feed σ) (consumer : Consumer τ) (calls : Nat) :
    ∀ {pipeline : Pipeline σ τ} {written : List Json.Members} {polls : Nat},
      pipeline.session.Stands type options written → pipeline.session.phase ≠ .drained →
      feed.EndsAfter polls pipeline.feed → 3 * polls + pipeline.leg < calls →
      ∃ taken ≤ calls, Over (pipeline.steps feed consumer taken) ∧
        Runs feed consumer pipeline (pipeline.steps feed consumer taken) := by
  induction calls with
  | zero => exact fun _ _ _ left => absurd left (Nat.not_lt_zero _)
  | succ calls ih =>
    intro pipeline written polls stands awake ends left
    by_cases stop : Over (pipeline.step feed consumer)
    · refine ⟨1, by omega, ?_⟩
      rw [steps_one]
      exact ⟨stop, .stops stop⟩
    · obtain ⟨polls', ends', less⟩ := leg_step stands awake ends stop
      obtain ⟨written', stands'⟩ := exists_stands_step feed consumer stands stop
      have going := stop
      rw [Over, not_or, Option.not_isSome_iff_eq_none, Phase.isDrained_iff] at going
      obtain ⟨clean, awake'⟩ := going
      obtain ⟨taken, few, ends, runs⟩ := ih stands' awake' ends' (by omega)
      have first : pipeline.steps feed consumer (taken + 1) =
          (pipeline.step feed consumer).state.steps feed consumer taken := by
        rw [steps, Attempt.andThen_of_clean clean]
      refine ⟨taken + 1, by omega, ?_⟩
      rw [first]
      exact ⟨ends, .goes stop runs⟩

/-! ### What the steps between two polls may still do -/

/-- Whether a session holds the record that some poll gave. -/
def converts (record : Nat) (pipeline : Pipeline (σ × List Polled) τ) : Bool :=
  match pipeline.session.phase with
  | .convertingRow _ => pipeline.feed.2.length == record
  | .awaitingRecord | .batchFull | .drained => false

/-- How many records were put off so far. -/
def deferrals (pipeline : Pipeline σ τ) : Nat :=
  pipeline.log.countP Event.isDeferral

/-- What is left of an allowance for the record that some poll gave: all of it before the poll, and
then what the pace leaves until the next one. -/
def allowance (most record : Nat) (pipeline : Pipeline (σ × List Polled) τ) : Nat :=
  if pipeline.feed.2.length < record then most
  else if pipeline.feed.2.length = record then pipeline.pace - (3 - most)
  else 0

/-- What is left of an allowance is never more than all of it. -/
theorem allowance_le {most : Nat} (few : most ≤ 3) (record : Nat)
    (pipeline : Pipeline (σ × List Polled) τ) : pipeline.allowance most record ≤ most := by
  have fast := pipeline.pace_le
  unfold allowance
  split <;> (try split) <;> omega

/-- The pace does not rise where a failure drains the session. -/
theorem pace_settled (attempt : Attempt (Pipeline σ τ)) :
    (settled attempt).state.pace ≤ attempt.state.pace := by
  unfold settled
  split
  · exact Nat.zero_le _
  · exact Nat.le_refl _

/-- A failure that drains a session is no event. -/
theorem log_settled (attempt : Attempt (Pipeline σ τ)) :
    (settled attempt).state.log = attempt.state.log := by
  unfold settled
  split <;> rfl

/-- A step of a session that holds a record polls nothing, and the pace falls. -/
theorem pace_step_of_converting (feed : Feed σ) (consumer : Consumer τ) {pending : PendingRecord}
    (phase : pipeline.session.phase = .convertingRow pending) :
    (pipeline.step feed consumer).state.feed = pipeline.feed ∧
      (pipeline.step feed consumer).state.pace < pipeline.pace := by
  have same : pipeline.step feed consumer = settled (pipeline.convertRow consumer pending) := by
    rw [step_eq, transition, phase]
  rw [same]
  refine ⟨(feed_settled _).trans (feed_convertRow consumer pipeline pending), ?_⟩
  cases failed : (pipeline.convertRow consumer pending).failure with
  | none =>
    have less := pace_convertRow consumer pipeline pending phase failed
    exact Nat.lt_of_le_of_lt (pace_settled _) less
  | some failure =>
    rw [settled, failed]
    show 0 < pipeline.pace
    simp only [pace, phase]
    split <;> omega

/-- An event counts among the records put off if it says that one was. -/
theorem deferrals_report (pipeline : Pipeline σ τ) (event : Event) :
    (pipeline.report event).deferrals = pipeline.deferrals + if event.isDeferral then 1 else 0 := by
  rw [deferrals, report, List.countP_append, List.countP_singleton]
  rfl

/-- Handing a batch over is an event, but puts no record off. -/
theorem deferrals_handOver (consumer : Consumer τ) (pipeline : Pipeline σ τ) :
    (pipeline.handOver consumer).state.deferrals = pipeline.deferrals := by
  have reported := deferrals_report pipeline
    (.handingOver pipeline.session.batch.size pipeline.session.batch.childCounts)
  unfold handOver
  dsimp only
  split <;> exact reported

/-- Nor is a record put off that is tried a second time. -/
theorem deferrals_convertGrowing (pipeline : Pipeline σ τ) (pending : PendingRecord)
    (batch : RecordBatch) :
    (pipeline.convertGrowing pending batch).state.deferrals = pipeline.deferrals := by
  have reported := deferrals_report pipeline (.growing pending.line)
  unfold convertGrowing
  dsimp only
  split <;> exact reported

/-- A record is put off at most once in a step, and only beside rows. -/
theorem deferrals_convertRow (consumer : Consumer τ) {pending : PendingRecord}
    (phase : pipeline.session.phase = .convertingRow pending) :
    (pipeline.convertRow consumer pending).state.deferrals ≤
      pipeline.deferrals + (pipeline.pace - 2) := by
  cases failed : (pipeline.session.trial pending).failure with
  | none =>
    rw [convertRow_of_trial consumer failed]
    exact Nat.le_add_right _ _
  | some failure =>
    by_cases overflows : pipeline.session.Overflows pending
    · cases empty : (pipeline.session.rolledBack pending).isEmpty with
      | true =>
        rw [convertRow_of_empty consumer overflows empty, deferrals_convertGrowing]
        exact Nat.le_add_right _ _
      | false =>
        rw [convertRow_of_filled consumer failed overflows empty, deferRecord, deferrals_handOver]
        rw [RecordBatch.isEmpty, Session.size_rolledBack failed] at empty
        have beside : pipeline.pace = 3 := by
          simp only [pace, phase, RecordBatch.isEmpty, empty, Bool.false_eq_true, if_false]
        rw [beside]
        exact Nat.le_of_eq (deferrals_report pipeline (.deferring failure pending.line))
    · rw [convertRow_of_final consumer failed overflows]
      exact Nat.le_add_right _ _

/-- After a full batch was handed over, the session polls next or is drained. -/
theorem pace_handOverFull (consumer : Consumer τ) (pipeline : Pipeline σ τ) :
    (settled (pipeline.handOverFull consumer)).state.pace = 0 := by
  unfold settled
  split <;> rfl

/-- A step leaves no more of an allowance than there was. -/
theorem allowance_step (feed : Feed σ) (consumer : Consumer τ) {most : Nat} (few : most ≤ 3)
    (record : Nat) (pipeline : Pipeline (σ × List Polled) τ) :
    (pipeline.step feed.recorded consumer).state.allowance most record ≤
      pipeline.allowance most record := by
  cases phase : pipeline.session.phase with
  | awaitingRecord =>
    have polls : (pipeline.step feed.recorded consumer).state.feed.2.length =
        pipeline.feed.2.length + 1 := by
      rw [step_eq, transition, phase, feed_settled, feed_awaitRecord]
      simp only [Feed.recorded, List.length_append, List.length_singleton]
    have pace := pace_le (pipeline.step feed.recorded consumer).state
    unfold allowance
    rw [polls]
    split <;> split <;> (try split) <;> omega
  | convertingRow pending =>
    obtain ⟨same, less⟩ := pace_step_of_converting feed.recorded consumer phase
    unfold allowance
    rw [same]
    split <;> (try split) <;> omega
  | batchFull =>
    have same : (pipeline.step feed.recorded consumer).state.feed = pipeline.feed := by
      rw [step_eq, transition, phase, feed_settled]
      exact feed_handOver consumer pipeline
    have pace : (pipeline.step feed.recorded consumer).state.pace = 0 := by
      rw [step_eq, transition, phase]
      exact pace_handOverFull consumer pipeline
    unfold allowance
    rw [same, pace]
    split <;> (try split) <;> omega
  | drained => rw [step_of_drained phase, Attempt.state_ok]

/-- Only a session that holds a record is converting one. -/
theorem phase_of_converts {record : Nat} {pipeline : Pipeline (σ × List Polled) τ}
    (converting : pipeline.converts record = true) :
    (∃ pending, pipeline.session.phase = .convertingRow pending) ∧
      pipeline.feed.2.length = record := by
  unfold converts at converting
  split at converting
  · next pending phase => exact ⟨⟨pending, phase⟩, beq_iff_eq.mp converting⟩
  all_goals cases converting

/-- A step on a record is paid for by an allowance of two. -/
theorem pays_converting (feed : Feed σ) (consumer : Consumer τ) (record : Nat)
    (pipeline : Pipeline (σ × List Polled) τ) :
    (if pipeline.converts record then 1 else 0) +
        (pipeline.step feed.recorded consumer).state.allowance 2 record ≤
      pipeline.allowance 2 record := by
  split
  · next converting =>
    obtain ⟨⟨pending, phase⟩, polls⟩ := phase_of_converts converting
    obtain ⟨same, less⟩ := pace_step_of_converting feed.recorded consumer phase
    have two : 2 ≤ pipeline.pace := by
      simp only [pace, phase]
      split <;> omega
    simp only [allowance, same, polls, Nat.lt_irrefl, if_false, if_true]
    omega
  · rw [Nat.zero_add]
    exact allowance_step feed consumer (by omega) record pipeline

/-- A step that puts a record off is paid for by an allowance of one. -/
theorem pays_deferrals (feed : Feed σ) (consumer : Consumer τ) (record : Nat)
    (pipeline : Pipeline (σ × List Polled) τ) :
    (if pipeline.converts record then
          (pipeline.step feed.recorded consumer).state.deferrals - pipeline.deferrals else 0) +
        (pipeline.step feed.recorded consumer).state.allowance 1 record ≤
      pipeline.allowance 1 record := by
  split
  · next converting =>
    obtain ⟨⟨pending, phase⟩, polls⟩ := phase_of_converts converting
    obtain ⟨same, less⟩ := pace_step_of_converting feed.recorded consumer phase
    have most := pace_le pipeline
    have once : (pipeline.step feed.recorded consumer).state.deferrals ≤
        pipeline.deferrals + (pipeline.pace - 2) := by
      rw [step_eq, transition, phase, deferrals, log_settled]
      exact deferrals_convertRow consumer phase
    simp only [allowance, same, polls, Nat.lt_irrefl, if_false, if_true]
    omega
  · rw [Nat.zero_add]
    exact allowance_step feed consumer (by omega) record pipeline

/-- What steps cost in all is no more than what is left in the beginning, if each one is paid for. -/
theorem sum_le_of_pays (cost left : Pipeline σ τ → Nat)
    (pays : ∀ pipeline, cost pipeline + left (pipeline.step feed consumer).state ≤ left pipeline)
    (turns : Nat) : ∀ pipeline : Pipeline σ τ,
      ∑ turn ∈ Finset.range turns, cost (pipeline.advance feed consumer turn) ≤ left pipeline := by
  induction turns with
  | zero => exact fun _ => Nat.zero_le _
  | succ turns ih =>
    intro pipeline
    have first := pays pipeline
    have others := ih (pipeline.step feed consumer).state
    rw [Finset.sum_range_succ']
    simp only [advance]
    omega

/-- The last of a number of steps may be split off as well as the first one. -/
theorem advance_succ (feed : Feed σ) (consumer : Consumer τ) (turns : Nat) :
    ∀ pipeline : Pipeline σ τ, pipeline.advance feed consumer (turns + 1) =
      ((pipeline.advance feed consumer turns).step feed consumer).state := by
  induction turns with
  | zero => exact fun _ => rfl
  | succ turns ih =>
    intro pipeline
    rw [advance, ih]
    rfl

end Pipeline

/-- A session comes to its end. On a feed that gives something in `n` polls and is then exhausted, a
new session is drained or fails within `3 * n + 1` steps, and that is what its run comes to. On any
feed, and however many turns are taken, the session is converting the record that some poll gave in
two of them at most, and puts it off in one at most. -/
theorem runs_end {σ τ : Type} {type : DataType} {options : Options} {session : Session}
    (started : Session.start type options = .ok session) (feed : Feed σ) (consumer : Consumer τ)
    (given : σ) (consumed : τ) :
    let begun : Pipeline σ τ := ⟨session, given, consumed, []⟩
    let observed turn := (Pipeline.mk session (given, []) (consumed, []) []).advance feed.recorded
      consumer.watched turn
    (∀ n, feed.EndsAfter n given → ∃ calls ≤ 3 * n + 1,
      let attempt := begun.steps feed consumer calls
      (attempt.failure ≠ none ∨ attempt.state.session.phase = .drained) ∧
        Pipeline.Runs feed consumer begun attempt ∧
        ∀ finite : FiniteFeed σ, finite.toFeed = feed → begun.run finite consumer = attempt) ∧
      ∀ turns record,
        (observed turns).forget = begun.advance feed consumer turns ∧
          ((Finset.range turns).filter fun turn => (observed turn).converts record).card ≤ 2 ∧
          ∑ turn ∈ (Finset.range turns).filter fun turn => (observed turn).converts record,
            ((observed (turn + 1)).deferrals - (observed turn).deferrals) ≤ 1 := by
  intro begun observed
  obtain ⟨stands, phase, -⟩ := Session.stands_of_start started
  refine ⟨fun n ends => ?_, fun turns record => ⟨?_, ?_, ?_⟩⟩
  · have idle : begun.leg = 0 := by simp only [begun, Pipeline.leg, phase]
    have awake : begun.session.phase ≠ .drained := by
      show session.phase ≠ .drained
      rw [phase]
      nofun
    obtain ⟨calls, few, stop, runs⟩ := Pipeline.exists_runs feed consumer (3 * n + 1) stands awake
      ends (by omega)
    refine ⟨calls, few, ?_, runs, ?_⟩
    · obtain failed | drained := stop
      · exact .inl (Option.isSome_iff_ne_none.mp failed)
      · exact .inr (Phase.isDrained_iff.mp drained)
    · rintro finite rfl
      exact runs.run_eq
  · exact Pipeline.advance_observed feed consumer.observes_watched turns
      ⟨session, (given, []), (consumed, []), []⟩
  -- Each turn is paid from an allowance for the record, of two turns here and one deferral below.
  · have paid := Pipeline.sum_le_of_pays _ _
      (Pipeline.pays_converting feed consumer.watched record) turns
      ⟨session, (given, []), (consumed, []), []⟩
    rw [Finset.card_filter]
    exact Nat.le_trans paid (Pipeline.allowance_le (by omega) record _)
  · have paid := Pipeline.sum_le_of_pays _ _
      (Pipeline.pays_deferrals feed consumer.watched record) turns
      ⟨session, (given, []), (consumed, []), []⟩
    simp only [← Pipeline.advance_succ] at paid
    rw [Finset.sum_filter]
    exact Nat.le_trans paid (Pipeline.allowance_le (by omega) record _)

/-- Two records, the second of which is put off once and then converted: six steps of the seven that
two polls allow. -/
theorem runs_end_deferred :
    let type := DataType.struct .default [("a", .listOf (.ofPrimitive (.integer .regular)))]
    let options : Options := ⟨2, .skip, .skip, .abort, .defer⟩
    let batch := (RecordBatch.mk type 2 0 (Column.allocateFields 2 type.fields)).setGrowable false
    let session : Session := ⟨⟨type, .abort⟩, options, batch, .awaitingRecord, .zero⟩
    let values := ValueQueue.ofList
      [.object [("a", .array [.int 1])], .object [("a", .array [.int 2, .int 3, .int 4])]]
    let feed := ValueQueue.feed.toFeed
    let consumer : Consumer Nat := ⟨fun batch rows => .ok (rows + batch.size)⟩
    let begun : Pipeline ValueQueue Nat := ⟨session, values, 0, []⟩
    let observed turn := (Pipeline.mk session (values, []) (0, []) []).advance feed.recorded
      consumer.watched turn
    Session.start type options = .ok session ∧ feed.EndsAfter 2 values ∧
      (∃ calls ≤ 7, begun.run ValueQueue.feed consumer = begun.steps feed consumer calls) ∧
      ((Finset.range 7).filter fun turn => (observed turn).converts 2).card ≤ 2 ∧
      (observed 3).converts 2 ∧ (observed 4).converts 2 ∧ (observed 4).deferrals = 1 := by
  intro type options batch session values feed consumer begun observed
  have started : Session.start type options = .ok session := rfl
  have ends : feed.EndsAfter 2 values := ⟨nofun, nofun, rfl⟩
  obtain ⟨within, bounds⟩ := runs_end started feed consumer values 0
  obtain ⟨calls, few, -, -, same⟩ := within 2 ends
  refine ⟨started, ends, ⟨calls, few, same ValueQueue.feed rfl⟩, (bounds 7 2).2.1, ?_, ?_, ?_⟩
  all_goals decide +kernel

end Columnar
