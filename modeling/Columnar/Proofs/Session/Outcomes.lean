import Columnar.Proofs.Session.Offers
/-!
# The outcomes of a step

A step offers the consumer no batch or one. It offers one when the batch is full, when the feed is
exhausted and when a record is put off (`Occasion`), and it fails when the consumer refuses the batch,
or else for what is wrong with the input (`Fault`). `moved_step` says what each of these leaves in the
session; what is said of failures and of putting records off is read off it.
-/

set_option autoImplicit false

namespace Columnar

/-- A session whose child columns may grow in its next step: its batch is empty, and the record that
it holds finds no room for its children. -/
def Session.MayGrow (session : Session) : Prop :=
  session.batch.isEmpty = true ∧
    ∃ pending, session.phase = .convertingRow pending ∧ session.Overflows pending

/-- A session that keeps records and says that its batch is full only if it is. -/
structure Session.Stands (type : DataType) (options : Options) (written : List Json.Members)
    (session : Session) : Prop where
  keeps : session.Keeps type options written
  full : session.phase = .batchFull → session.batch.isFull = true

/-- The test for the last phase finds just that phase. -/
theorem Phase.isDrained_iff {phase : Phase} : phase.isDrained = true ↔ phase = .drained := by
  cases phase <;> simp [isDrained]

namespace Pipeline

variable {σ τ : Type}

/-- Why a step fails that offers no batch. -/
inductive Fault (feed : Feed σ) (pipeline : Pipeline σ τ) : Failure → Prop
  /-- The feed fails, or gives what is no record and may not be left out. -/
  | polled (failure : Failure) (phase : pipeline.session.phase = .awaitingRecord)
      (judged : nextVerdict feed pipeline.session.options pipeline.feed = .fail failure) :
      Fault feed pipeline failure
  /-- The record cannot be written, and is not put off. -/
  | refused (pending : PendingRecord) (failure : Failure)
      (phase : pipeline.session.phase = .convertingRow pending)
      (failed : (pipeline.session.trial pending).failure = some failure)
      (final : ¬pipeline.session.Overflows pending) : Fault feed pipeline failure
  /-- The record cannot be written although child columns may grow for it. -/
  | refusedAgain (pending : PendingRecord) (failure : Failure)
      (phase : pipeline.session.phase = .convertingRow pending)
      (overflows : pipeline.session.Overflows pending)
      (empty : pipeline.session.batch.isEmpty = true)
      (failed : (pipeline.session.retrial pending).failure = some failure) :
      Fault feed pipeline failure

/-- Why a batch is offered, and where the session stands once it is taken. -/
inductive Occasion (feed : Feed σ) (pipeline : Pipeline σ τ) : RecordBatch → Phase → Prop
  | full (phase : pipeline.session.phase = .batchFull)
      (full : pipeline.session.batch.isFull = true) :
      Occasion feed pipeline pipeline.session.batch .awaitingRecord
  | exhausted (phase : pipeline.session.phase = .awaitingRecord)
      (ended : (feed.poll pipeline.feed).1 = .exhausted) :
      Occasion feed pipeline pipeline.session.batch .drained
  | deferred (pending : PendingRecord) (phase : pipeline.session.phase = .convertingRow pending)
      (overflows : pipeline.session.Overflows pending) :
      Occasion feed pipeline (pipeline.session.rolledBack pending) (.convertingRow pending)

variable {type : DataType} {options : Options} {written : List Json.Members}
  {feed : Feed σ} {consumer : Consumer τ} {pipeline : Pipeline σ τ}

/-- A batch that is offered, by a session that keeps some records. -/
structure Offer (feed : Feed σ) (type : DataType) (options : Options) (written : List Json.Members)
    (pipeline : Pipeline σ τ) (batch : RecordBatch) (phase : Phase) : Prop where
  occasion : pipeline.Occasion feed batch phase
  keeps : (pipeline.session.withBatch batch).Keeps type options written
  filled : batch.isEmpty = false
  slots : options.onOverflow = .defer → batch.allocation = pipeline.session.batch.allocation

/-- The outcomes of a step of a session that keeps some records. -/
inductive Moved (feed : Feed σ) (consumer : Consumer τ) (type : DataType) (options : Options)
    (written : List Json.Members) (pipeline : Pipeline σ τ) : Attempt (Pipeline σ τ) → Prop
  /-- No batch is offered. A record that the session held is its next row. -/
  | kept (next : Pipeline σ τ)
      (stands : next.session.Stands type options (written ++ pipeline.session.phase.pending))
      (consumed : next.consumer = pipeline.consumer)
      (slots : options.onOverflow = .defer →
        next.session.batch.allocation = pipeline.session.batch.allocation ∨
          pipeline.session.MayGrow) :
      Moved feed consumer type options written pipeline (.ok next)
  /-- The step fails and offers no batch. -/
  | failed (next : Pipeline σ τ) (failure : Failure) (fault : pipeline.Fault feed failure)
      (shaped : RecordBatch.Shaped options.growsChildren type next.session.batch)
      (consumed : next.consumer = pipeline.consumer) (drained : next.session.phase = .drained)
      (slots : options.onOverflow = .defer →
        next.session.batch.allocation = pipeline.session.batch.allocation ∨
          pipeline.session.MayGrow) :
      Moved feed consumer type options written pipeline (.failed next failure)
  /-- A batch is offered and taken. -/
  | taken (next : Pipeline σ τ) (batch : RecordBatch) (phase : Phase)
      (offer : pipeline.Offer feed type options written batch phase)
      (accepted : (consumer.accept batch pipeline.consumer).failure = none)
      (stands : next.session.Stands type options [])
      (consumed : next.consumer = (consumer.accept batch pipeline.consumer).state)
      (emptied : next.session.batch = batch.reset) (stood : next.session.phase = phase) :
      Moved feed consumer type options written pipeline (.ok next)
  /-- A batch is offered and not taken. -/
  | refused (next : Pipeline σ τ) (batch : RecordBatch) (phase : Phase) (cause : Failure)
      (offer : pipeline.Offer feed type options written batch phase)
      (unaccepted : (consumer.accept batch pipeline.consumer).failure = some cause)
      (consumed : next.consumer = (consumer.accept batch pipeline.consumer).state)
      (left : next.session.batch = batch) (drained : next.session.phase = .drained)
      (totals : next.session.totals = pipeline.session.totals) :
      Moved feed consumer type options written pipeline (.failed next cause.ofConsumer)

/-! ### The outcomes by phase -/

/-- An attempt after which the session is drained if it failed. -/
def settled (attempt : Attempt (Pipeline σ τ)) : Attempt (Pipeline σ τ) :=
  match attempt.failure with
  | some failure =>
    .failed (attempt.state.withSession (attempt.state.session.withPhase .drained)) failure
  | none => attempt

/-- A step is a transition, and the session is drained if it fails. -/
theorem step_eq (feed : Feed σ) (consumer : Consumer τ) (pipeline : Pipeline σ τ) :
    pipeline.step feed consumer = settled (pipeline.transition feed consumer) := rfl

/-- A failure that drains a session leaves the feed as it is. -/
theorem feed_settled (attempt : Attempt (Pipeline σ τ)) :
    (settled attempt).state.feed = attempt.state.feed := by
  unfold settled
  split <;> rfl

/-- A session whose batch was taken stands with an empty one. -/
theorem stands_handedOver {session : Session} (keeps : session.Keeps type options written) :
    session.handedOver.Keeps type options [] ∧ session.handedOver.batch.isFull = false :=
  ⟨keeps.handedOver, (RecordEncoder.isFull_eq_false keeps.shaped.reset).mpr keeps.positive⟩

/-- A session that ends offers its batch if that has rows, and has nothing to offer otherwise. The
pipeline that ends has polled its feed, with the session and the consumer of before. -/
theorem moved_finish {polled : Pipeline σ τ} (session : polled.session = pipeline.session)
    (consumed : polled.consumer = pipeline.consumer)
    (stands : pipeline.session.Stands type options written)
    (phase : pipeline.session.phase = .awaitingRecord)
    (ended : (feed.poll pipeline.feed).1 = .exhausted) :
    Moved feed consumer type options written pipeline (settled (polled.finish consumer)) := by
  have idle : pipeline.session.phase.pending = [] := by rw [phase]; rfl
  have room := stands.keeps.isFull_eq_false (by rw [phase]; nofun)
  rw [finish_eq, session]
  cases empty : pipeline.session.batch.isEmpty with
  -- There is no row left, so the session only changes its phase.
  | true =>
    refine .kept polled.ended ⟨?_, by rintro ⟨⟩⟩ consumed fun _ => .inl (by rw [← session]; rfl)
    rw [idle, List.append_nil]
    show (polled.session.withPhase .drained).Keeps type options written
    rw [session]
    exact stands.keeps.withPhase idle room rfl
  | false =>
    have offer : pipeline.Offer feed type options written pipeline.session.batch .drained :=
      ⟨.exhausted phase ended, stands.keeps, empty, fun _ => rfl⟩
    have handed := handed_handOver consumer polled
    simp only [Bool.false_eq_true, if_false]
    generalize polled.handOver consumer = attempt at handed
    cases handed with
    | taken next accepted consumed' session' =>
      rw [session, consumed] at accepted consumed'
      rw [session] at session'
      obtain ⟨keeps, room'⟩ := stands_handedOver stands.keeps
      refine .taken next.ended _ _ offer accepted ⟨?_, by rintro ⟨⟩⟩ consumed' ?_ rfl
      · show (next.session.withPhase .drained).Keeps type options []
        rw [session']
        exact keeps.withPhase idle room' rfl
      · show next.session.batch = pipeline.session.batch.reset
        rw [session']
        rfl
    | refused next cause unaccepted consumed' session' =>
      rw [session, consumed] at unaccepted consumed'
      rw [session] at session'
      refine .refused _ _ _ cause offer unaccepted consumed' ?_ rfl ?_
      · show next.session.batch = pipeline.session.batch
        rw [session']
      · show next.session.totals = pipeline.session.totals
        rw [session']

/-- A full batch is offered, and either taken or not. -/
theorem moved_handOverFull (stands : pipeline.session.Stands type options written)
    (phase : pipeline.session.phase = .batchFull) :
    Moved feed consumer type options written pipeline
      (settled (pipeline.handOverFull consumer)) := by
  have idle : pipeline.session.phase.pending = [] := by rw [phase]; rfl
  have full := stands.full phase
  have filled : pipeline.session.batch.isEmpty = false := by
    have size : pipeline.session.batch.size = pipeline.session.batch.capacity := beq_iff_eq.mp full
    rw [RecordBatch.isEmpty, size]
    exact beq_eq_false_iff_ne.mpr (Nat.ne_of_gt stands.keeps.positive)
  have offer : pipeline.Offer feed type options written pipeline.session.batch .awaitingRecord :=
    ⟨.full phase full, stands.keeps, filled, fun _ => rfl⟩
  have handed := handed_handOver consumer pipeline
  unfold handOverFull
  generalize pipeline.handOver consumer = attempt at handed
  cases handed with
  | taken next accepted consumed session =>
    obtain ⟨keeps, room⟩ := stands_handedOver stands.keeps
    refine .taken _ _ _ offer accepted ⟨?_, by rintro ⟨⟩⟩ consumed (congrArg Session.batch session) rfl
    show (next.session.withPhase .awaitingRecord).Keeps type options []
    rw [session]
    exact keeps.withPhase idle room rfl
  | refused next cause unaccepted consumed session =>
    refine .refused _ _ _ cause offer unaccepted consumed ?_ rfl ?_
    · show next.session.batch = pipeline.session.batch
      rw [session]
    · show next.session.totals = pipeline.session.totals
      rw [session]

/-- A verdict that stops is that of a feed that is exhausted. -/
theorem polled_eq_exhausted {options : Options} {line : Nat} {polled : Polled}
    (stops : verdict options line polled = .stop) : polled = .exhausted := by
  cases polled with
  | exhausted => rfl
  | record value =>
    cases value <;> simp only [verdict] at stops <;>
      first | cases stops | (split at stops <;> cases stops)
  | failed failure =>
    simp only [verdict] at stops
    split at stops
    · split at stops <;> cases stops
    · cases stops

/-- A poll has the outcomes of a step, one for each verdict on what the feed gave. -/
theorem moved_awaitRecord (stands : pipeline.session.Stands type options written)
    (phase : pipeline.session.phase = .awaitingRecord) :
    Moved feed consumer type options written pipeline
      (settled (pipeline.awaitRecord feed consumer)) := by
  have idle : pipeline.session.phase.pending = [] := by rw [phase]; rfl
  have room := stands.keeps.isFull_eq_false (by rw [phase]; nofun)
  have awaited := awaited_awaitRecord feed consumer pipeline
  cases judged : nextVerdict feed pipeline.session.options pipeline.feed
  all_goals
    rw [judged] at awaited
    generalize pipeline.awaitRecord feed consumer = attempt at awaited
    cases awaited
  case stop =>
    exact moved_finish rfl rfl stands phase (polled_eq_exhausted judged)
  case take pending =>
    refine .kept _ ⟨?_, nofun⟩ rfl fun _ => .inl rfl
    rw [idle, List.append_nil]
    exact stands.keeps.converting idle room pending
  case leaveOut event =>
    refine .kept _ ⟨?_, stands.full⟩ rfl fun _ => .inl rfl
    rw [idle, List.append_nil]
    exact stands.keeps.countSkipped
  case fail failure next session consumed fed =>
    refine .failed _ failure (.polled failure phase judged) ?_ consumed rfl fun _ => .inl ?_
    · show RecordBatch.Shaped options.growsChildren type next.session.batch
      rw [session]
      exact stands.keeps.shaped
    · show next.session.batch.allocation = pipeline.session.batch.allocation
      rw [session]

/-- A session that has committed a row says that its batch is full only if it is. -/
theorem stands_rowCommitted {session : Session} {batch : RecordBatch}
    {records : List Json.Members}
    (keeps : (session.rowCommitted batch).Keeps type options records) :
    (session.rowCommitted batch).Stands type options records := by
  refine ⟨keeps, fun full => ?_⟩
  simp only [Session.rowCommitted] at full ⊢
  by_contra room
  rw [if_neg room] at full
  cases full

/-- A record that is tried a second time is written, or refused for good. -/
theorem moved_convertGrowing {pending : PendingRecord}
    (stands : pipeline.session.Stands type options written)
    (phase : pipeline.session.phase = .convertingRow pending)
    (overflows : pipeline.session.Overflows pending)
    (empty : pipeline.session.batch.isEmpty = true) :
    Moved feed consumer type options written pipeline
      (settled (pipeline.convertGrowing pending (pipeline.session.rolledBack pending))) := by
  have grows : pipeline.session.MayGrow := ⟨empty, pending, phase, overflows⟩
  cases failed : (pipeline.session.retrial pending).failure with
  | none =>
    rw [convertGrowing_of_retrial failed]
    refine .kept _ ?_ rfl fun _ => .inr grows
    rw [phase]
    exact stands_rowCommitted (stands.keeps.regrown phase overflows failed)
  | some failure =>
    have defers := overflows.1
    rw [stands.keeps.options_eq] at defers
    rw [convertGrowing_of_failure failed]
    refine .failed _ failure (.refusedAgain pending failure phase overflows empty failed) ?_ rfl rfl
      fun _ => .inr grows
    rw [options.growsChildren_eq_false_iff.mpr defers]
    exact (stands.keeps.shaped_retrial pending).setGrowable false

/-- A record that finds no room beside rows is put off, for which the batch is offered as it was
before the trial. -/
theorem moved_deferRecord {pending : PendingRecord}
    (stands : pipeline.session.Stands type options written)
    (phase : pipeline.session.phase = .convertingRow pending)
    (overflows : pipeline.session.Overflows pending)
    (filled : (pipeline.session.rolledBack pending).isEmpty = false) (failure : Failure) :
    Moved feed consumer type options written pipeline
      (settled (pipeline.deferRecord consumer pending (pipeline.session.rolledBack pending)
        failure)) := by
  obtain ⟨cause, failed, -⟩ := overflows.2
  have keeps := stands.keeps.rolledBack phase failed
  -- The batch is offered with the child counts of before the trial, as if it had not been made.
  have offer : pipeline.Offer feed type options written (pipeline.session.rolledBack pending)
      (.convertingRow pending) := by
    refine ⟨.deferred pending phase overflows, keeps, filled, fun defers => ?_⟩
    have shaped := stands.keeps.shaped
    rw [options.growsChildren_eq_false_iff.mpr defers] at shaped
    exact Session.allocation_rolledBack shaped pending
  have handed := handed_handOver consumer ((pipeline.report (.deferring failure pending.line)).withSession
    (pipeline.session.withBatch (pipeline.session.rolledBack pending)))
  unfold deferRecord
  generalize handOver consumer _ = attempt at handed
  cases handed with
  | taken next accepted consumed session =>
    obtain ⟨keeps', room⟩ := stands_handedOver keeps
    refine .taken next _ _ offer accepted ⟨?_, ?_⟩ consumed (congrArg Session.batch session) ?_
    · rw [session]
      exact keeps'
    · rw [session]
      intro full
      exact absurd (phase.symm.trans full) (by nofun)
    · rw [session]
      exact phase
  | refused next cause unaccepted consumed session =>
    refine .refused _ _ _ cause offer unaccepted consumed ?_ rfl ?_
    · show next.session.batch = pipeline.session.rolledBack pending
      rw [session]
      rfl
    · show next.session.totals = pipeline.session.totals
      rw [session]
      rfl

/-- Converting a record has the outcomes of a step: the record is the next row, or it is refused for
good, or it is put off or tried a second time. -/
theorem moved_convertRow {pending : PendingRecord}
    (stands : pipeline.session.Stands type options written)
    (phase : pipeline.session.phase = .convertingRow pending) :
    Moved feed consumer type options written pipeline
      (settled (pipeline.convertRow consumer pending)) := by
  have same : ∀ defers : options.onOverflow = .defer,
      (pipeline.session.trial pending).state.allocation = pipeline.session.batch.allocation := by
    intro defers
    have shaped := stands.keeps.shaped
    rw [options.growsChildren_eq_false_iff.mpr defers] at shaped
    exact Session.allocation_trial shaped pending
  cases failed : (pipeline.session.trial pending).failure with
  | none =>
    rw [convertRow_of_trial consumer failed]
    refine .kept _ ?_ rfl fun defers => .inl (same defers)
    rw [phase]
    exact stands_rowCommitted (stands.keeps.committed phase failed)
  | some failure =>
    by_cases overflows : pipeline.session.Overflows pending
    · cases empty : (pipeline.session.rolledBack pending).isEmpty with
      | true =>
        rw [convertRow_of_empty consumer overflows empty]
        rw [RecordBatch.isEmpty, Session.size_rolledBack failed] at empty
        exact moved_convertGrowing stands phase overflows empty
      | false =>
        rw [convertRow_of_filled consumer failed overflows empty]
        exact moved_deferRecord stands phase overflows empty failure
    · rw [convertRow_of_final consumer failed overflows]
      refine .failed _ failure (.refused pending failure phase failed overflows) ?_ rfl rfl
        fun defers => .inl (same defers)
      exact stands.keeps.shaped_trial pending

/-- What a step comes to. -/
theorem moved_step (feed : Feed σ) (consumer : Consumer τ)
    (stands : pipeline.session.Stands type options written) :
    Moved feed consumer type options written pipeline (pipeline.step feed consumer) := by
  rw [step_eq]
  unfold transition
  cases phase : pipeline.session.phase with
  | awaitingRecord => exact moved_awaitRecord stands phase
  | convertingRow pending => exact moved_convertRow stands phase
  | batchFull => exact moved_handOverFull stands phase
  | drained =>
    refine .kept pipeline ?_ rfl fun _ => .inl rfl
    rw [phase]
    show pipeline.session.Stands type options (written ++ [])
    rw [List.append_nil]
    exact stands

/-- A session that is drained takes no more steps. -/
theorem step_of_drained (drained : pipeline.session.phase = .drained) :
    pipeline.step feed consumer = .ok pipeline := by
  rw [step_eq]
  unfold transition
  rw [drained]
  rfl

/-- A step that fails drains the session. -/
theorem drained_of_failure {failure : Failure}
    (failed : (pipeline.step feed consumer).failure = some failure) :
    (pipeline.step feed consumer).state.session.phase = .drained := by
  rw [step_eq] at failed ⊢
  revert failed
  unfold settled
  split
  · intro _
    rfl
  · next clean =>
    intro failed
    rw [clean] at failed
    cases failed

/-- A session that is drained stays as it is, however many steps are asked for. -/
theorem advance_of_drained (drained : pipeline.session.phase = .drained) (n : Nat) :
    pipeline.advance feed consumer n = pipeline := by
  induction n with
  | zero => rfl
  | succ n ih =>
    rw [advance, step_of_drained drained]
    exact ih

/-- Nor does any of these steps fail. -/
theorem steps_of_drained (drained : pipeline.session.phase = .drained) (n : Nat) :
    pipeline.steps feed consumer n = .ok pipeline := by
  induction n with
  | zero => rfl
  | succ n ih =>
    rw [steps, step_of_drained drained]
    exact ih

/-! ### Any number of steps -/

/-- A session between two steps: it keeps some records, or it is drained. -/
def Standing (type : DataType) (options : Options) (pipeline : Pipeline σ τ) : Prop :=
  (∃ written, pipeline.session.Stands type options written) ∨
    (pipeline.session.phase = .drained ∧
      RecordBatch.Shaped options.growsChildren type pipeline.session.batch)

/-- In either case the batch has the columns of its type. -/
theorem Standing.shaped (standing : pipeline.Standing type options) :
    RecordBatch.Shaped options.growsChildren type pipeline.session.batch := by
  obtain ⟨written, stands⟩ | ⟨-, shaped⟩ := standing
  · exact stands.keeps.shaped
  · exact shaped

/-- Whatever the outcome of a step, the session stands or is drained. -/
theorem Moved.standing {attempt : Attempt (Pipeline σ τ)}
    (moved : Moved feed consumer type options written pipeline attempt) :
    attempt.state.Standing type options := by
  cases moved with
  | kept next stands consumed slots => exact .inl ⟨_, stands⟩
  | failed next failure fault shaped consumed drained slots => exact .inr ⟨drained, shaped⟩
  | taken next batch phase offer accepted stands consumed emptied stood => exact .inl ⟨_, stands⟩
  | refused next batch phase cause offer unaccepted consumed left drained totals =>
    refine .inr ⟨drained, ?_⟩
    rw [Attempt.state_failed, left]
    exact offer.keeps.shaped

/-- A session stands after a step that is not its last. -/
theorem exists_stands_step (feed : Feed σ) (consumer : Consumer τ)
    (stands : pipeline.session.Stands type options written)
    (going : ¬Over (pipeline.step feed consumer)) :
    ∃ written, (pipeline.step feed consumer).state.session.Stands type options written := by
  obtain stands' | ⟨drained, -⟩ := (moved_step feed consumer stands).standing
  · exact stands'
  · exact absurd (.inr (Phase.isDrained_iff.mpr drained)) going

/-- Any number of steps leave a session that stands or is drained. The induction is on the steps,
with `standing_step` for the first one. -/
theorem standing_advance (feed : Feed σ) (consumer : Consumer τ) (n : Nat) :
    ∀ {pipeline : Pipeline σ τ}, pipeline.Standing type options →
      (pipeline.advance feed consumer n).Standing type options := by
  induction n with
  | zero => exact fun standing => standing
  | succ n ih =>
    intro pipeline standing
    rw [advance]
    apply ih
    obtain ⟨written, stands⟩ | ⟨drained, shaped⟩ := standing
    · exact (moved_step feed consumer stands).standing
    · rw [step_of_drained drained]
      exact .inr ⟨drained, shaped⟩

end Pipeline

/-- A session starts, and stands with an empty batch. -/
theorem Session.exists_stands_start {type : DataType} {options : Options}
    (valid : type.validateRoot = .ok ()) (positive : 0 < options.capacity) :
    ∃ session, start type options = .ok session ∧ session.Stands type options [] := by
  obtain ⟨session, started, keeps, phase, -⟩ := exists_keeps_start valid positive
  refine ⟨session, started, keeps, ?_⟩
  rw [phase]
  nofun

/-- Only for a valid type and room for a row does a session start. -/
theorem Session.valid_of_start {type : DataType} {options : Options} {session : Session}
    (started : start type options = .ok session) :
    type.validateRoot = .ok () ∧ 0 < options.capacity := by
  unfold start RecordEncoder.ofType at started
  cases valid : type.validateRoot with
  | error failure =>
    rw [valid] at started
    cases started
  | ok _ =>
    refine ⟨rfl, Nat.pos_of_ne_zero fun none => ?_⟩
    rw [valid, none] at started
    cases started

/-- A session that starts stands with an empty batch and counts nothing. -/
theorem Session.stands_of_start {type : DataType} {options : Options} {session : Session}
    (started : start type options = .ok session) :
    session.Stands type options [] ∧ session.phase = .awaitingRecord ∧ session.totals = .zero := by
  obtain ⟨valid, positive⟩ := valid_of_start started
  obtain ⟨other, started', keeps, phase, totals⟩ := exists_keeps_start valid positive
  cases started.symm.trans started'
  exact ⟨⟨keeps, by rw [phase]; nofun⟩, phase, totals⟩

end Columnar
