import Mathlib.Data.List.Forall2
import Columnar.Feed.Values
import Columnar.Proofs.Session.Conservation
/-!
# What a session offers its consumer

Whenever a session hands a batch over, the batch has rows, no more of them than the options say, and
the child index of each list and map in it is exact for the records that became these rows. The
batches that are offered cut the objects that were polled into runs, in order and from the first one
on (`offered_batches_exact`). This holds of the last batch too, which the consumer may have refused,
and of batches that a record was put off for: each step either keeps what is polled, written and due
in this relation or drains the session (`offering_step`).
-/

set_option autoImplicit false

namespace Columnar

/-- A batch that may be offered: it has rows, no more than it may have, and exact child indexes for
the records that are its rows. -/
structure RecordBatch.Offerable (capacity : Nat) (batch : RecordBatch) (records : List Json.Members) :
    Prop where
  size_eq : batch.size = records.length
  nonempty : 0 < batch.size
  size_le : batch.size ≤ capacity
  indexed : batch.Exact records

variable {σ τ : Type} {type : DataType} {options : Options}

/-- A session whose batch has rows may offer it. -/
theorem Session.Keeps.offerable {session : Session} {written : List Json.Members}
    (keeps : session.Keeps type options written) (filled : session.batch.isEmpty = false) :
    session.batch.Offerable options.capacity written := by
  obtain ⟨origins, vacant, stores⟩ := keeps.stores
  refine ⟨stores.size_eq, ?_, ?_, stores.exact keeps.shaped vacant⟩
  · exact Nat.pos_of_ne_zero (beq_eq_false_iff_ne.mp filled)
  · rw [← keeps.capacity_eq]
    exact keeps.shaped.size_le

namespace Pipeline

/-- The batches offered so far have some runs of records as their rows, and the objects polled are
these runs and some records more. -/
structure Offered (options : Options) (runs : List (List Json.Members)) (rest : List Json.Members)
    (pipeline : Pipeline (σ × List Polled) (τ × List RecordBatch)) : Prop where
  batches : List.Forall₂ (RecordBatch.Offerable options.capacity) pipeline.consumer.2 runs
  objects : objectsOf pipeline.feed.2 = runs.flatten ++ rest

/-- A session that goes on: the objects that were not offered are the rows of its batch and the record
that it holds. -/
structure Going (type : DataType) (options : Options) (runs : List (List Json.Members))
    (written : List Json.Members) (pipeline : Pipeline (σ × List Polled) (τ × List RecordBatch)) :
    Prop where
  offered : pipeline.Offered options runs (written ++ pipeline.session.phase.pending)
  keeps : pipeline.session.Keeps type options written
  full : pipeline.session.phase = .batchFull → pipeline.session.batch.isFull = true

/-- What holds of a session that is watched: it goes on, or it is drained. -/
def Offering (type : DataType) (options : Options)
    (pipeline : Pipeline (σ × List Polled) (τ × List RecordBatch)) : Prop :=
  (∃ runs written, pipeline.Going type options runs written) ∨
    (pipeline.session.phase = .drained ∧ ∃ runs rest, pipeline.Offered options runs rest)

/-- What holds of an attempt: if it fails, its batches were offered as they should, and if not, the
session is one that is offering. -/
structure Keeping (type : DataType) (options : Options)
    (attempt : Attempt (Pipeline (σ × List Polled) (τ × List RecordBatch))) : Prop where
  offered : ∃ runs rest, attempt.state.Offered options runs rest
  offering : attempt.failure = none → attempt.state.Offering type options

variable {runs : List (List Json.Members)} {written : List Json.Members}
  {pipeline : Pipeline (σ × List Polled) (τ × List RecordBatch)}

/-- A session that goes on without offering a batch has offered the others as it should. -/
theorem Going.keeping (going : pipeline.Going type options runs written) :
    Keeping type options (.ok pipeline) :=
  ⟨⟨runs, _, going.offered⟩, fun _ => .inl ⟨runs, written, going⟩⟩

/-- Handing a batch over offers one run more, and leaves the session with the record that it holds. -/
theorem offered_handOver (consumer : Consumer τ) (going : pipeline.Going type options runs written)
    (filled : pipeline.session.batch.isEmpty = false) :
    (pipeline.handOver consumer.watched).state.Offered options (runs ++ [written])
      pipeline.session.phase.pending := by
  have noted : (pipeline.handOver consumer.watched).state.consumer.2 =
      pipeline.consumer.2 ++ [pipeline.session.batch] := by
    have handed := handed_handOver consumer.watched pipeline
    generalize pipeline.handOver consumer.watched = attempt at handed
    cases handed with
    | taken next accepted consumed session => exact congrArg Prod.snd consumed
    | refused next cause unaccepted consumed session => exact congrArg Prod.snd consumed
  refine ⟨?_, ?_⟩
  · rw [noted]
    exact List.rel_append going.offered.batches (.cons (going.keeps.offerable filled) .nil)
  · rw [feed_handOver, going.offered.objects]
    simp

/-- Handing a batch over leaves a session that goes on, if the batch is taken. -/
theorem going_handOver (consumer : Consumer τ) (going : pipeline.Going type options runs written)
    (filled : pipeline.session.batch.isEmpty = false) (phase : pipeline.session.phase ≠ .batchFull)
    (clean : (pipeline.handOver consumer.watched).failure = none) :
    (pipeline.handOver consumer.watched).state.Going type options (runs ++ [written]) [] := by
  have session := session_handOver consumer.watched pipeline clean
  refine ⟨?_, ?_, fun full => ?_⟩
  · rw [phase_handOver]
    exact offered_handOver consumer going filled
  · rw [session]
    exact going.keeps.handedOver
  · rw [phase_handOver] at full
    exact absurd full phase

/-- A session that ends offers its batch if that has rows. -/
theorem keeping_finish (consumer : Consumer τ) (going : pipeline.Going type options runs written) :
    Keeping type options (pipeline.finish consumer.watched) := by
  have ends : ∀ {next : Pipeline (σ × List Polled) (τ × List RecordBatch)} {runs rest},
      next.Offered options runs rest → Keeping type options (.ok next.ended) :=
    fun offered => ⟨⟨_, _, offered.batches, offered.objects⟩,
      fun _ => .inr ⟨rfl, _, _, offered.batches, offered.objects⟩⟩
  rw [finish_eq]
  cases empty : pipeline.session.batch.isEmpty with
  | true => exact ends going.offered
  | false =>
    have offered := offered_handOver consumer going empty
    simp only [Bool.false_eq_true, if_false]
    unfold Attempt.andThen
    split
    · next failure failed =>
      refine ⟨⟨_, _, offered⟩, fun clean => ?_⟩
      rw [failed] at clean
      cases clean
    · exact ends offered

/-- Polling hands a batch over only at the end of the feed. -/
theorem keeping_awaitRecord (feed : Feed σ) (consumer : Consumer τ)
    (going : pipeline.Going type options runs written)
    (phase : pipeline.session.phase = .awaitingRecord) :
    Keeping type options (pipeline.awaitRecord feed.recorded consumer.watched) := by
  have idle : pipeline.session.phase.pending = [] := by rw [phase]; rfl
  have room := going.keeps.isFull_eq_false (by rw [phase]; nofun)
  have awaited := awaited_awaitRecord feed.recorded consumer.watched pipeline
  have given := objectsOf_polled feed pipeline.session.options pipeline
  rw [going.offered.objects, idle, List.append_nil, List.append_assoc] at given
  generalize nextVerdict feed.recorded pipeline.session.options pipeline.feed = judged
    at awaited given
  generalize pipeline.awaitRecord feed.recorded consumer.watched = attempt at awaited
  cases awaited with
  | stop =>
    refine keeping_finish consumer ⟨⟨going.offered.batches, ?_⟩, going.keeps, going.full⟩
    rw [given]
    exact congrArg (fun rest => runs.flatten ++ (written ++ rest)) idle.symm
  | take pending =>
    exact Going.keeping
      ⟨⟨going.offered.batches, given⟩, going.keeps.converting idle room pending, nofun⟩
  | leaveOut event =>
    refine Going.keeping
      ⟨⟨going.offered.batches, ?_⟩, going.keeps.countSkipped, going.full⟩
    exact given.trans (congrArg (fun rest => runs.flatten ++ (written ++ rest)) idle.symm)
  | fail failure next session consumed fed =>
    refine ⟨⟨runs, written ++ (Verdict.fail failure).record?.toList, ?_, ?_⟩, nofun⟩
    · rw [Attempt.state_failed, consumed]
      exact going.offered.batches
    · rw [Attempt.state_failed, fed]
      exact given

/-- Converting a record hands a batch over only to put the record off. -/
theorem keeping_convertRow (consumer : Consumer τ) {pending : PendingRecord}
    (going : pipeline.Going type options runs written)
    (phase : pipeline.session.phase = .convertingRow pending) :
    Keeping type options (pipeline.convertRow consumer.watched pending) := by
  have attempted := attempted_convertRow pipeline consumer.watched going.keeps phase
  have offered := going.offered
  rw [phase] at offered
  generalize pipeline.convertRow consumer.watched pending = attempt at attempted
  cases attempted with
  | committed next sound keeps next_phase feed consumed totals =>
    have goes : next.Going type options runs (written ++ [pending.record]) := by
      refine ⟨⟨?_, ?_⟩, keeps, ?_⟩
      · rw [consumed]
        exact offered.batches
      · have idle : next.session.phase.pending = [] := by
          rw [next_phase]
          split <;> rfl
        rw [feed, offered.objects, idle, List.append_nil]
        rfl
      · rw [next_phase]
        intro full
        by_contra room
        rw [if_neg room] at full
        cases full
    exact goes.keeping
  | refused next failure faulty rows feed consumed totals =>
    refine ⟨⟨runs, written ++ [pending.record], ?_, ?_⟩, nofun⟩
    · rw [Attempt.state_failed, consumed]
      exact offered.batches
    · rw [Attempt.state_failed, feed]
      exact offered.objects
  | deferred next keeps next_phase filled feed consumed totals =>
    have goes : next.Going type options runs written := by
      refine ⟨⟨?_, ?_⟩, keeps, ?_⟩
      · rw [consumed]
        exact offered.batches
      · rw [feed, next_phase]
        exact offered.objects
      · rw [next_phase]
        nofun
    -- The record that is put off is still held, so the run that is offered ends before it.
    refine ⟨⟨_, _, offered_handOver consumer goes filled⟩, fun clean => ?_⟩
    exact .inl ⟨_, _, going_handOver consumer goes filled (by rw [next_phase]; nofun) clean⟩

/-- A full batch has rows. -/
theorem keeping_handOverFull (consumer : Consumer τ)
    (going : pipeline.Going type options runs written) (phase : pipeline.session.phase = .batchFull) :
    Keeping type options (pipeline.handOverFull consumer.watched) := by
  have filled : pipeline.session.batch.isEmpty = false := by
    have size := beq_iff_eq.mp (going.full phase)
    rw [RecordBatch.isEmpty, size]
    exact beq_eq_false_iff_ne.mpr (Nat.ne_of_gt going.keeps.positive)
  have offered := offered_handOver consumer going filled
  rw [phase] at offered
  refine ⟨⟨_, _, offered.batches, offered.objects⟩, fun clean => ?_⟩
  have session := session_handOver consumer.watched pipeline clean
  refine .inl ⟨runs ++ [written], [], ⟨offered.batches, offered.objects⟩, ?_,
    fun full => by cases full⟩
  have room : pipeline.session.handedOver.batch.isFull = false :=
    (RecordEncoder.isFull_eq_false going.keeps.shaped.reset).mpr going.keeps.positive
  simp only [handOverFull, Attempt.state_map, withSession, session]
  refine going.keeps.handedOver.withPhase ?_ room rfl
  rw [Session.handedOver, phase]
  rfl

/-- A step offers a batch as it should, and leaves a session that goes on or is drained. -/
theorem offering_step (feed : Feed σ) (consumer : Consumer τ)
    (offering : pipeline.Offering type options) :
    (pipeline.step feed.recorded consumer.watched).state.Offering type options := by
  obtain ⟨runs, written, going⟩ | ⟨drained, runs, rest, offered⟩ := offering
  · have keeping : Keeping type options (pipeline.transition feed.recorded consumer.watched) := by
      unfold transition
      cases phase : pipeline.session.phase with
      | awaitingRecord => exact keeping_awaitRecord feed consumer going phase
      | convertingRow pending => exact keeping_convertRow consumer going phase
      | batchFull => exact keeping_handOverFull consumer going phase
      | drained => exact going.keeping
    unfold step
    dsimp only
    split
    · obtain ⟨runs, rest, offered⟩ := keeping.offered
      exact .inr ⟨rfl, runs, rest, offered.batches, offered.objects⟩
    · next clean => exact keeping.offering clean
  · unfold step transition
    rw [drained]
    exact .inr ⟨drained, runs, rest, offered⟩

/-- Any number of steps, failed ones too, offer batches as they should. -/
theorem offering_advance (feed : Feed σ) (consumer : Consumer τ) (n : Nat) :
    ∀ {pipeline : Pipeline (σ × List Polled) (τ × List RecordBatch)},
      pipeline.Offering type options →
        (pipeline.advance feed.recorded consumer.watched n).Offering type options := by
  induction n with
  | zero => exact fun offering => offering
  | succ n ih => exact fun offering => ih (offering_step feed consumer offering)

end Pipeline

/-- Every batch that is offered is indexed exactly. A session is watched for any number of steps,
failed ones too, which changes nothing about them. Then the batches offered to the consumer, whether
it took them or not, have runs of the objects polled as their rows, in order and without a gap. Each
of them has a row, no more rows than the options say, and child indexes that are exact for these
objects. -/
theorem offered_batches_exact {σ τ : Type} {type : DataType} (valid : type.validateRoot = .ok ())
    (options : Options) (positive : 0 < options.capacity) (feed : Feed σ) (consumer : Consumer τ)
    (given : σ) (consumed : τ) (n : Nat) :
    ∃ session, Session.start type options = .ok session ∧
      let plain := (Pipeline.mk session given consumed []).advance feed consumer n
      let observed := (Pipeline.mk session (given, []) (consumed, []) []).advance feed.recorded
        consumer.watched n
      observed.forget = plain ∧
        ∃ runs, runs.flatten <+: objectsOf observed.feed.2 ∧
          List.Forall₂ (RecordBatch.Offerable options.capacity) observed.consumer.2 runs := by
  obtain ⟨session, started, keeps, phase, -⟩ := Session.exists_keeps_start valid positive
  refine ⟨session, started, ?_⟩
  intro plain observed
  have same : observed.forget = plain :=
    Pipeline.advance_observed feed consumer.observes_watched n
      ⟨session, (given, []), (consumed, []), []⟩
  refine ⟨same, ?_⟩
  have begun : (Pipeline.mk session (given, []) (consumed, []) []).Going type options [] [] := by
    refine ⟨⟨.nil, ?_⟩, keeps, ?_⟩
    · rw [phase]
      rfl
    · rw [phase]
      nofun
  have offering : observed.Offering type options :=
    Pipeline.offering_advance feed consumer n (.inl ⟨[], [], begun⟩)
  obtain ⟨runs, rest, offered⟩ : ∃ runs rest, observed.Offered options runs rest := by
    obtain ⟨runs, written, going⟩ | ⟨-, runs, rest, offered⟩ := offering
    · exact ⟨runs, _, going.offered⟩
    · exact ⟨runs, rest, offered⟩
  refine ⟨runs, ?_, offered.batches⟩
  rw [offered.objects]
  exact List.prefix_append _ _

/-- Two batches are offered in eight steps: the first when its list has no room for the children of
the second record, and the other, which the consumer refuses, when it is full. -/
theorem offered_batches_exact_deferred :
    let type := DataType.struct .default [("a", .listOf (.ofPrimitive (.integer .regular)))]
    let options : Options := ⟨2, .skip, .skip, .abort, .defer⟩
    let session : Session := ⟨⟨type, .abort⟩, options,
      ⟨type, 2, 0, Column.setGrowableFields false (Column.allocateFields 2 type.fields)⟩,
      .awaitingRecord, .zero⟩
    let consumer : Consumer Nat :=
      ⟨fun _ taken => if taken = 0 then .ok 1 else .failed taken (.consumerRefused "full")⟩
    let values := ValueQueue.ofList [.object [("a", .array [.int 1])],
      .object [("a", .array [.int 2, .int 3])], .object [("a", .array [])]]
    let observed := (Pipeline.mk session (values, []) (0, []) []).advance
      ValueQueue.feed.toFeed.recorded consumer.watched 8
    Session.start type options = .ok session ∧ observed.consumer.1 = 1 ∧
      observed.consumer.2.map RecordBatch.size = [1, 2] ∧
      ∃ first second, List.Forall₂ (RecordBatch.Offerable 2) observed.consumer.2 [first, second] ∧
        first ++ second <+: objectsOf observed.feed.2 := by
  intro type options session consumer values observed
  have valid : type.validateRoot = .ok () := rfl
  have start : Session.start type options = .ok session := rfl
  have taken : observed.consumer.1 = 1 := by decide +kernel
  have sizes : observed.consumer.2.map RecordBatch.size = [1, 2] := by decide +kernel
  obtain ⟨started, begun, -, runs, flat, offered⟩ := offered_batches_exact valid options Nat.two_pos
    ValueQueue.feed.toFeed consumer values 0 8
  cases start.symm.trans begun
  have two : observed.consumer.2.length = 2 := by
    rw [← List.length_map RecordBatch.size, sizes]
    rfl
  simp only [observed] at taken sizes two ⊢
  obtain ⟨first, second, both⟩ := List.length_eq_two.mp (offered.length_eq.symm.trans two)
  rw [both] at flat offered
  refine ⟨start, taken, sizes, first, second, offered, ?_⟩
  rw [List.flatten_cons, List.flatten_cons, List.flatten_nil, List.append_nil] at flat
  exact flat

end Columnar
