import Columnar.Proofs.Session.Outcomes
/-!
# Failures are final

A step that fails has offered no batch, or one that the consumer refused. In the one case the failure
is what was wrong with the input, as it was reported. In the other it concerns the output, and the
batch is as it was offered, its rows not counted. Either way the session is drained, and whatever
steps are taken after that, nothing is polled, offered or changed any more (`failures_final`).
-/

set_option autoImplicit false

namespace Columnar

/-- A consumer that notes what it was offered, with the failure by which it refused it, if it did. -/
def Consumer.audited {τ : Type} (consumer : Consumer τ) :
    Consumer (τ × List (RecordBatch × Option Failure)) where
  accept batch state :=
    let taken := consumer.accept batch state.1
    ⟨(taken.state, state.2 ++ [(batch, taken.failure)]), taken.failure⟩

/-- The calls are noted without changing what the consumer does. -/
theorem Consumer.observes_audited {τ : Type} (consumer : Consumer τ) :
    consumer.audited.Observes consumer :=
  fun _ _ => rfl

/-- A failure of a consumer concerns the output, wrapped or not. -/
theorem Failure.classOf_ofConsumer (cause : Failure) : cause.ofConsumer.classOf = .sink := by
  unfold ofConsumer
  split
  · next ofSink => exact ofSink
  · rfl

namespace Pipeline

variable {σ τ : Type} {type : DataType} {options : Options} {written : List Json.Members}

/-- What a step leaves that failed because a batch was refused: the failure concerns the output, the
batch is the one that was offered, its rows are those of before the step, and none is counted. -/
structure Refused (pipeline : Pipeline σ τ) (attempt : Attempt (Pipeline σ τ)) (batch : RecordBatch)
    (cause : Failure) : Prop where
  failure_eq : attempt.failure =
    some (if cause.classOf = .sink then cause else .consumerFailed cause)
  ofSink : ∀ failure, attempt.failure = some failure → failure.classOf = .sink
  left : attempt.state.session.batch = batch
  rows_eq : batch.rows = pipeline.session.batch.rows
  size_eq : batch.size = pipeline.session.batch.size
  totals_eq : attempt.state.session.totals = pipeline.session.totals

variable {feed : Feed σ} {consumer : Consumer τ} {pipeline : Pipeline σ τ} {batch : RecordBatch}
  {phase : Phase}

/-- The batch that is offered has the rows of the session, also if the child counts were put back
first. -/
theorem Offer.rows_eq (offer : pipeline.Offer feed type options written batch phase)
    (stands : pipeline.session.Stands type options written) :
    batch.rows = pipeline.session.batch.rows ∧ batch.size = pipeline.session.batch.size := by
  have rows := offer.keeps.rows_eq
  have size := offer.keeps.size_eq
  rw [← stands.keeps.rows_eq] at rows
  rw [← stands.keeps.size_eq] at size
  exact ⟨rows, size⟩

/-- A fault that is seen by a feed that notes what it gave is one of the feed. -/
theorem Fault.forget {β : Type} {feed : Feed σ} {pipeline : Pipeline (σ × List Polled) (τ × β)}
    {failure : Failure} (fault : pipeline.Fault feed.recorded failure) :
    pipeline.forget.Fault feed failure := by
  cases fault with
  | polled _ phase judged => exact .polled failure phase judged
  | refused pending _ phase failed final => exact .refused pending failure phase failed final
  | refusedAgain pending _ phase overflows empty failed =>
    exact .refusedAgain pending failure phase overflows empty failed

/-- What a step comes to for a consumer whose calls are noted, beside the step that is not watched. -/
structure Audit (feed : Feed σ) (consumer : Consumer τ) (plain : Pipeline σ τ)
    (before : Pipeline (σ × List Polled) (τ × List (RecordBatch × Option Failure)))
    (attempt : Attempt (Pipeline (σ × List Polled) (τ × List (RecordBatch × Option Failure))))
    (calls : List (RecordBatch × Option Failure)) : Prop where
  noted : attempt.state.consumer.2 = before.consumer.2 ++ calls
  /-- A step that fails though nothing was refused offered nothing. -/
  faulty : ∀ failure, attempt.failure = some failure → (∀ call ∈ calls, call.2 = none) →
    calls = [] ∧ plain.Fault feed failure
  /-- A batch that is refused is the only one offered, and the step fails for it. -/
  refused : ∀ batch cause, (batch, some cause) ∈ calls →
    calls = [(batch, some cause)] ∧ before.Refused attempt batch cause
  /-- After a failure the session is drained, and later steps do nothing. -/
  final : attempt.failure ≠ none → attempt.state.session.phase = .drained ∧
    ∀ later other m, attempt.state.advance later other m = attempt.state ∧
      attempt.state.step later other = .ok attempt.state

/-- A session that is drained stays as it is, whatever it would be fed with from then on. -/
theorem final_of_drained (drained : pipeline.session.phase = .drained) :
    pipeline.session.phase = .drained ∧ ∀ (later : Feed σ) (other : Consumer τ) m,
      pipeline.advance later other m = pipeline ∧ pipeline.step later other = .ok pipeline :=
  ⟨drained, fun _ _ m => ⟨advance_of_drained drained m, step_of_drained drained⟩⟩

/-- Each of the outcomes of a step passes the audit, and tells which call was made, if any. -/
theorem exists_audit_of_moved
    {before : Pipeline (σ × List Polled) (τ × List (RecordBatch × Option Failure))}
    {attempt : Attempt (Pipeline (σ × List Polled) (τ × List (RecordBatch × Option Failure)))}
    (stands : before.session.Stands type options written)
    (moved : Moved feed.recorded consumer.audited type options written before attempt) :
    ∃ calls, Audit feed consumer before.forget before attempt calls := by
  cases moved with
  | kept next stands' consumed slots =>
    refine ⟨[], ?_, nofun, nofun, nofun⟩
    rw [Attempt.state_ok, consumed, List.append_nil]
  | failed next failure fault shaped consumed drained slots =>
    refine ⟨[], ?_, ?_, nofun, fun _ => final_of_drained drained⟩
    · rw [Attempt.state_failed, consumed, List.append_nil]
    · intro other fails _
      cases fails
      exact ⟨rfl, fault.forget⟩
  -- A call is made in the last two outcomes only, and it is the only one.
  | taken next batch phase offer accepted stands' consumed emptied stood =>
    have accepts : (consumer.accept batch before.consumer.1).failure = none := accepted
    refine ⟨[(batch, none)], ?_, nofun, ?_, nofun⟩
    · rw [Attempt.state_ok, consumed, ← accepts]
      rfl
    · intro other cause among
      simp at among
  | refused next batch phase cause offer unaccepted consumed left drained totals =>
    have refuses : (consumer.accept batch before.consumer.1).failure = some cause := unaccepted
    obtain ⟨rows, size⟩ := offer.rows_eq stands
    refine ⟨[(batch, some cause)], ?_, ?_, ?_, fun _ => final_of_drained drained⟩
    · rw [Attempt.state_failed, consumed, ← refuses]
      rfl
    · intro failure _ accepted
      cases accepted (batch, some cause) List.mem_cons_self
    · intro other cause' among
      rw [List.mem_singleton] at among
      cases among
      refine ⟨rfl, rfl, ?_, left, rows, size, totals⟩
      intro failure fails
      cases fails
      exact cause.classOf_ofConsumer

/-- Every step passes the audit, since a step has no other outcomes. After the session was drained
no call is made. -/
theorem exists_audit_step (feed : Feed σ) (consumer : Consumer τ)
    {before : Pipeline (σ × List Polled) (τ × List (RecordBatch × Option Failure))}
    (standing : before.Standing type options) :
    ∃ calls, Audit feed consumer before.forget before
      (before.step feed.recorded consumer.audited) calls := by
  obtain ⟨written, stands⟩ | ⟨drained, -⟩ := standing
  · exact exists_audit_of_moved stands (moved_step feed.recorded consumer.audited stands)
  · rw [step_of_drained drained]
    refine ⟨[], ?_, nofun, nofun, nofun⟩
    rw [Attempt.state_ok, List.append_nil]

end Pipeline

/-- A failure is final. A session is watched for any number of steps and one more, which changes
nothing about them. If that step fails though the consumer refused nothing, it offered nothing, and it
fails for a fault of the input. If the consumer refused a batch in it, that was the only one offered,
the step fails with a failure of the output, and the batch is left as it was. After a step that failed
the session is drained, and later steps leave everything as it is, whatever they are taken with. -/
theorem failures_final {σ τ : Type} {type : DataType} (valid : type.validateRoot = .ok ())
    (options : Options) (positive : 0 < options.capacity) (feed : Feed σ) (consumer : Consumer τ)
    (given : σ) (consumed : τ) (n : Nat) :
    ∃ session, Session.start type options = .ok session ∧
      let plain := (Pipeline.mk session given consumed []).advance feed consumer n
      let before := (Pipeline.mk session (given, []) (consumed, []) []).advance feed.recorded
        consumer.audited n
      let attempt := before.step feed.recorded consumer.audited
      before.forget = plain ∧ attempt.map Pipeline.forget = plain.step feed consumer ∧
        ∃ calls, Pipeline.Audit feed consumer plain before attempt calls := by
  obtain ⟨session, started, begun⟩ := Session.exists_stands_start valid positive
  refine ⟨session, started, ?_⟩
  intro plain before attempt
  have same : before.forget = plain :=
    Pipeline.advance_observed feed consumer.observes_audited n
      ⟨session, (given, []), (consumed, []), []⟩
  have standing : before.Standing type options :=
    Pipeline.standing_advance feed.recorded consumer.audited n (.inl ⟨[], begun⟩)
  have audited := Pipeline.exists_audit_step feed consumer standing
  rw [← same]
  exact ⟨rfl, Pipeline.step_observed feed consumer.observes_audited before, audited⟩

/-- A consumer that refuses a batch for want of child slots, of its own, while a record is put off. -/
theorem failures_final_deferred :
    let type := DataType.struct .default [("a", .listOf (.ofPrimitive (.integer .regular)))]
    let options : Options := ⟨2, .skip, .skip, .abort, .defer⟩
    let batch := (RecordBatch.mk type 2 0 (Column.allocateFields 2 type.fields)).setGrowable false
    let session : Session := ⟨⟨type, .abort⟩, options, batch, .awaitingRecord, .zero⟩
    let values := ValueQueue.ofList
      [.object [("a", .array [.int 1])], .object [("a", .array [.int 2, .int 3])]]
    let feed := ValueQueue.feed.toFeed
    let consumer : Consumer Nat := ⟨fun _ calls => .failed (calls + 1) (.childOverflow 5 4)⟩
    let before := (Pipeline.mk session (values, []) (0, []) []).advance feed.recorded
      consumer.audited 3
    let attempt := before.step feed.recorded consumer.audited
    Session.start type options = .ok session ∧
      attempt.failure = some (.consumerFailed (.childOverflow 5 4)) ∧
      attempt.state.consumer.1 = 1 ∧
      attempt.state.session.batch.rows = before.session.batch.rows ∧
      attempt.state.session.totals = before.session.totals ∧
      ∀ m, attempt.state.advance feed.recorded consumer.audited m = attempt.state := by
  intro type options batch session values feed consumer before attempt
  have valid : type.validateRoot = .ok () := rfl
  have started : Session.start type options = .ok session := rfl
  obtain ⟨calls, audit⟩ : ∃ calls, Pipeline.Audit feed consumer
      ((Pipeline.mk session values 0 []).advance feed consumer 3) before attempt calls := by
    obtain ⟨_, started', -, -, audited⟩ :=
      failures_final valid options Nat.two_pos feed consumer values 0 3
    cases started.symm.trans started'
    exact audited
  have fails : attempt.failure = some (.consumerFailed (.childOverflow 5 4)) := by decide +kernel
  have called : attempt.state.consumer.1 = 1 := by decide +kernel
  have untouched : before.consumer.2.map Prod.snd = [] := by decide +kernel
  have noted : attempt.state.consumer.2.map Prod.snd = [some (.childOverflow 5 4)] := by
    decide +kernel
  have answers : calls.map Prod.snd = [some (.childOverflow 5 4)] := by
    rw [← noted, audit.noted, List.map_append, untouched, List.nil_append]
  obtain ⟨call, among, answer⟩ : ∃ call ∈ calls, call.2 = some (.childOverflow 5 4) := by
    rw [← List.mem_map, answers]
    exact List.mem_cons_self
  obtain ⟨-, refused⟩ := audit.refused call.1 (.childOverflow 5 4) (by rw [← answer]; exact among)
  refine ⟨started, fails, called, ?_, refused.totals_eq, fun m => ?_⟩
  · rw [refused.left]
    exact refused.rows_eq
  · exact ((audit.final (by rw [fails]; nofun)).2 _ _ m).1

end Columnar
