import Columnar.Proofs.Session.Trials
/-!
# The outcomes of each transition

What converting a record comes to, by its trials (`attempted_convertRow`, `converted_convertRow`), and
what a poll comes to (`awaited_awaitRecord`), with the account that is kept in each outcome. What is
said of whole sessions is read off these outcomes and not off the transitions.
-/

set_option autoImplicit false

namespace Columnar.Pipeline

open Column (faultFields)

variable {σ τ : Type} {type : DataType} {options : Options} {rows : List Json}

/-! ### Converting a record -/

section

variable {pipeline : Pipeline σ τ} {pending : PendingRecord} {failure : Failure}

/-- A record that is written becomes a row. -/
theorem convertRow_of_trial (consumer : Consumer τ)
    (clean : (pipeline.session.trial pending).failure = none) :
    pipeline.convertRow consumer pending =
      .ok (pipeline.withSession
        (pipeline.session.rowCommitted (pipeline.session.trial pending).state)) := by
  unfold Session.trial at clean ⊢
  unfold convertRow
  simp only [clean]

/-- A record that is refused, and not for want of room, ends the session. The batch is left as the
trial left it. -/
theorem convertRow_of_final (consumer : Consumer τ)
    (failed : (pipeline.session.trial pending).failure = some failure)
    (final : ¬pipeline.session.Overflows pending) :
    pipeline.convertRow consumer pending =
      .failed (pipeline.withSession
        (pipeline.session.withBatch (pipeline.session.trial pending).state)) failure := by
  have stops : ¬(pipeline.session.options.onOverflow = .defer ∧ failure.isChildOverflow = true) :=
    fun retried => final ⟨retried.1, failure, failed, retried.2⟩
  unfold Session.trial at failed ⊢
  unfold convertRow
  simp only [failed, if_neg stops]

/-- A record that overflows an empty batch is tried again. -/
theorem convertRow_of_empty (consumer : Consumer τ)
    (overflows : pipeline.session.Overflows pending)
    (empty : (pipeline.session.rolledBack pending).isEmpty = true) :
    pipeline.convertRow consumer pending =
      pipeline.convertGrowing pending (pipeline.session.rolledBack pending) := by
  obtain ⟨defers, failure, failed, overflow⟩ := overflows
  unfold Session.rolledBack at empty ⊢
  unfold Session.trial at failed empty ⊢
  unfold convertRow
  simp only [failed, if_pos (And.intro defers overflow), if_pos empty]

/-- A record that overflows a batch with rows is put off. -/
theorem convertRow_of_filled (consumer : Consumer τ)
    (failed : (pipeline.session.trial pending).failure = some failure)
    (overflows : pipeline.session.Overflows pending)
    (filled : (pipeline.session.rolledBack pending).isEmpty = false) :
    pipeline.convertRow consumer pending =
      pipeline.deferRecord consumer pending (pipeline.session.rolledBack pending) failure := by
  obtain ⟨defers, other, failed', overflow⟩ := overflows
  cases failed.symm.trans failed'
  unfold Session.rolledBack at filled ⊢
  unfold Session.trial at failed filled ⊢
  unfold convertRow
  simp only [failed, if_pos (And.intro defers overflow), filled, Bool.false_eq_true, if_false]

/-- A record that is written in the second trial becomes a row, and the child columns are fixed
again. -/
theorem convertGrowing_of_retrial (clean : (pipeline.session.retrial pending).failure = none) :
    pipeline.convertGrowing pending (pipeline.session.rolledBack pending) =
      .ok ((pipeline.report (.growing pending.line)).withSession (pipeline.session.rowCommitted
        ((pipeline.session.retrial pending).state.setGrowable false))) := by
  unfold Session.retrial at clean ⊢
  unfold convertGrowing
  simp only [report, clean]

/-- A record that is refused in the second trial ends the session, and the child columns are fixed
again there too. -/
theorem convertGrowing_of_failure
    (again : (pipeline.session.retrial pending).failure = some failure) :
    pipeline.convertGrowing pending (pipeline.session.rolledBack pending) =
      .failed ((pipeline.report (.growing pending.line)).withSession (pipeline.session.withBatch
        ((pipeline.session.retrial pending).state.setGrowable false))) failure := by
  unfold Session.retrial at again ⊢
  unfold convertGrowing
  simp only [report, again]

end

/-- The outcomes of converting a record, for the batch of a session: the record is the next row, or it
is refused for what is wrong with it, or it is put off while the batch, which has rows, is handed
over. -/
inductive Attempted (type : DataType) (options : Options) (consumer : Consumer τ)
    (written : List Json.Members) (pending : PendingRecord) (pipeline : Pipeline σ τ) :
    Attempt (Pipeline σ τ) → Prop
  | committed (next : Pipeline σ τ)
      (sound : faultFields options.onCellFailure type.fields pending.record = none)
      (keeps : next.session.Keeps type options (written ++ [pending.record]))
      (phase : next.session.phase =
        if next.session.batch.isFull then .batchFull else .awaitingRecord)
      (feed : next.feed = pipeline.feed) (consumed : next.consumer = pipeline.consumer)
      (totals : next.session.totals = pipeline.session.totals) :
      Attempted type options consumer written pending pipeline (.ok next)
  | refused (next : Pipeline σ τ) (failure : Failure)
      (faulty : faultFields options.onCellFailure type.fields pending.record = some failure)
      (rows : next.session.batch.rows = written.map (storedRecord options.onCellFailure type))
      (feed : next.feed = pipeline.feed) (consumed : next.consumer = pipeline.consumer)
      (totals : next.session.totals = pipeline.session.totals) :
      Attempted type options consumer written pending pipeline (.failed next failure)
  | deferred (next : Pipeline σ τ) (keeps : next.session.Keeps type options written)
      (phase : next.session.phase = .convertingRow pending)
      (filled : next.session.batch.isEmpty = false)
      (feed : next.feed = pipeline.feed) (consumed : next.consumer = pipeline.consumer)
      (totals : next.session.totals = pipeline.session.totals) :
      Attempted type options consumer written pending pipeline (next.handOver consumer)

section

variable {consumer : Consumer τ} (pipeline : Pipeline σ τ) {pending : PendingRecord}
  {written : List Json.Members}

/-- A record for which the child columns may grow is written, or has a fault. -/
theorem attempted_convertGrowing (keeps : pipeline.session.Keeps type options written)
    (phase : pipeline.session.phase = .convertingRow pending)
    (overflows : pipeline.session.Overflows pending) :
    Attempted type options consumer written pending pipeline
      (pipeline.convertGrowing pending (pipeline.session.rolledBack pending)) := by
  have blamed := keeps.blamed_retrial phase overflows
  cases again : (pipeline.session.retrial pending).failure with
  | none =>
    rw [convertGrowing_of_retrial again]
    rw [again] at blamed
    exact .committed _ blamed.symm (keeps.regrown phase overflows again) rfl rfl rfl rfl
  | some failure =>
    rw [convertGrowing_of_failure again]
    rw [again] at blamed
    exact .refused _ failure blamed.symm (keeps.rows_retrial phase overflows again) rfl rfl rfl

/-- What converting a record comes to for the batch. -/
theorem attempted_convertRow (consumer : Consumer τ)
    (keeps : pipeline.session.Keeps type options written)
    (phase : pipeline.session.phase = .convertingRow pending) :
    Attempted type options consumer written pending pipeline
      (pipeline.convertRow consumer pending) := by
  have blamed := keeps.blamed_trial phase
  cases failed : (pipeline.session.trial pending).failure with
  | none =>
    rw [convertRow_of_trial consumer failed]
    rw [failed] at blamed
    exact .committed _ blamed.fault_eq_none (keeps.committed phase failed) rfl rfl rfl rfl
  | some failure =>
    by_cases overflows : pipeline.session.Overflows pending
    · cases empty : (pipeline.session.rolledBack pending).isEmpty with
      | true =>
        rw [convertRow_of_empty consumer overflows empty]
        exact attempted_convertGrowing pipeline keeps phase overflows
      | false =>
        rw [convertRow_of_filled consumer failed overflows empty]
        exact .deferred _ (keeps.rolledBack phase failed) phase empty rfl rfl rfl
    -- A failure that is not put off is no overflow of fixed children, so it is the fault.
    · have faulty : faultFields options.onCellFailure type.fields pending.record = some failure := by
        rw [failed] at blamed
        obtain same | ⟨fixed, overflow, same, isOverflow⟩ := blamed
        · exact same.symm
        · cases same
          refine absurd ⟨?_, failure, failed, isOverflow⟩ overflows
          rw [keeps.options_eq]
          exact options.growsChildren_eq_false_iff.mp fixed
      rw [convertRow_of_final consumer failed overflows]
      exact .refused _ failure faulty (keeps.rows_trial phase failed) rfl rfl rfl

end

/-- The outcomes of converting a record, with the account that is kept in each. -/
inductive Converted (type : DataType) (options : Options) (consumer : Consumer τ)
    (rows : List Json) (pending : PendingRecord) (pipeline : Pipeline σ (τ × List RecordBatch)) :
    Attempt (Pipeline σ (τ × List RecordBatch)) → Prop
  | committed (next : Pipeline σ (τ × List RecordBatch))
      (sound : faultFields options.onCellFailure type.fields pending.record = none)
      (accounts : next.Accounts type options
        (rows ++ [storedRecord options.onCellFailure type pending.record]))
      (phase : next.session.phase = .awaitingRecord ∨ next.session.phase = .batchFull)
      (feed : next.feed = pipeline.feed)
      (skipped : next.session.totals.skipped = pipeline.session.totals.skipped) :
      Converted type options consumer rows pending pipeline (.ok next)
  | refused (next : Pipeline σ (τ × List RecordBatch)) (failure : Failure)
      (faulty : faultFields options.onCellFailure type.fields pending.record = some failure)
      (kept : next.allRows = rows)
      (skipped : next.session.totals.skipped = pipeline.session.totals.skipped) :
      Converted type options consumer rows pending pipeline (.failed next failure)
  | deferred (next : Pipeline σ (τ × List RecordBatch))
      (accounts : next.Accounts type options rows)
      (phase : next.session.phase = .convertingRow pending)
      (feed : next.feed = pipeline.feed)
      (skipped : next.session.totals.skipped = pipeline.session.totals.skipped) :
      Converted type options consumer rows pending pipeline (next.handOver consumer.recorded)

/-- What converting a record comes to. -/
theorem converted_convertRow (pipeline : Pipeline σ (τ × List RecordBatch))
    {pending : PendingRecord} (consumer : Consumer τ)
    (accounts : pipeline.Accounts type options rows)
    (phase : pipeline.session.phase = .convertingRow pending) :
    Converted type options consumer rows pending pipeline
      (pipeline.convertRow consumer.recorded pending) := by
  obtain ⟨⟨written, keeps, total⟩, counted⟩ := accounts
  have attempted := attempted_convertRow pipeline consumer.recorded keeps phase
  generalize pipeline.convertRow consumer.recorded pending = attempt at attempted ⊢
  cases attempted with
  | committed next sound keeps' phase' feed consumed totals =>
    refine .committed next sound ⟨⟨_, keeps', ?_⟩, ?_⟩ ?_ feed (congrArg Totals.skipped totals)
    · rw [consumed, List.map_append, ← List.append_assoc, total]
      rfl
    · rw [consumed, totals, counted]
    · rw [phase']
      cases next.session.batch.isFull
      · exact .inl rfl
      · exact .inr rfl
  | refused next failure faulty rows' feed consumed totals =>
    refine .refused next failure faulty ?_ (congrArg Totals.skipped totals)
    rw [allRows, rows', consumed, total]
  | deferred next keeps' phase' filled feed consumed totals =>
    refine .deferred next ⟨⟨written, keeps', ?_⟩, ?_⟩ phase' feed (congrArg Totals.skipped totals)
    · rw [consumed, total]
    · rw [consumed, totals, counted]

/-! ### Polling the feed -/

/-- What becomes of what a poll gives. -/
inductive Verdict where
  | stop
  | take (members : Json.Members)
  | leaveOut
  | fail (failure : Failure)

/-- What the options make of what a poll gives. -/
def verdict (options : Options) (line : Nat) : Polled → Verdict
  | .exhausted => .stop
  | .record (.object members) => .take members
  | .record value =>
    match options.onNotObject with
    | .skip => .leaveOut
    | .abort => .fail (.notAnObject line value.kind)
  | .failed failure =>
    if failure.classOf = .parse then
      match options.onMalformed with
      | .skip => .leaveOut
      | .abort => .fail failure
    else .fail failure

/-- A pipeline that has polled its feed. -/
def polled (feed : Feed σ) (pipeline : Pipeline σ τ) : Pipeline σ τ :=
  { pipeline with feed := (feed.poll pipeline.feed).2 }

/-- The verdict on what the feed of a pipeline gives next. -/
def nextVerdict (feed : Feed σ) (options : Options) (state : σ) : Verdict :=
  verdict options (feed.line (feed.poll state).2) (feed.poll state).1

/-- The outcomes of a poll. -/
inductive Awaited (feed : Feed σ) (consumer : Consumer τ) (pipeline : Pipeline σ τ) :
    Verdict → Attempt (Pipeline σ τ) → Prop
  | stop : Awaited feed consumer pipeline .stop ((pipeline.polled feed).finish consumer)
  | take (pending : PendingRecord) : Awaited feed consumer pipeline (.take pending.record)
      (.ok ((pipeline.polled feed).withSession
        (pipeline.session.withPhase (.convertingRow pending))))
  | leaveOut (event : Event) : Awaited feed consumer pipeline .leaveOut
      (.ok (((pipeline.polled feed).report event).withSession pipeline.session.countSkipped))
  | fail (failure : Failure) (next : Pipeline σ τ) (session : next.session = pipeline.session)
      (consumed : next.consumer = pipeline.consumer)
      (fed : next.feed = (pipeline.polled feed).feed) :
      Awaited feed consumer pipeline (.fail failure) (.failed next failure)

/-- The policy for a kind of input decides whether it is left out or ends the session. -/
theorem awaited_reject (feed : Feed σ) (consumer : Consumer τ) (pipeline : Pipeline σ τ)
    (failure : Failure) (policy : RecordPolicy) :
    Awaited feed consumer pipeline
      (match policy with
        | .skip => .leaveOut
        | .abort => .fail failure)
      ((pipeline.polled feed).reject failure policy) := by
  cases policy with
  | skip => exact .leaveOut _
  | abort => exact .fail failure _ rfl rfl rfl

/-- What a poll comes to. -/
theorem awaited_awaitRecord (feed : Feed σ) (consumer : Consumer τ) (pipeline : Pipeline σ τ) :
    Awaited feed consumer pipeline
      (nextVerdict feed pipeline.session.options pipeline.feed)
      (pipeline.awaitRecord feed consumer) := by
  have here : { pipeline with feed := (feed.poll pipeline.feed).2 } = pipeline.polled feed := rfl
  unfold awaitRecord nextVerdict
  simp only [here]
  cases (feed.poll pipeline.feed).1 with
  | exhausted => exact .stop
  | record value =>
    cases value with
    | object members => exact .take ⟨_, members⟩
    | null | bool | int | real | text | array => exact awaited_reject feed consumer pipeline _ _
  | failed failure =>
    by_cases parse : failure.classOf = .parse
    · simp only [verdict, if_pos parse]
      exact awaited_reject feed consumer pipeline failure _
    · simp only [verdict, if_neg parse]
      exact .fail failure _ rfl rfl rfl

/-- The end of a session does not touch the feed. -/
theorem feed_finish (consumer : Consumer τ) (pipeline : Pipeline σ τ) :
    (pipeline.finish consumer).state.feed = pipeline.feed :=
  state_finish (P := fun other => other.feed = pipeline.feed) consumer rfl
    (feed_handOver consumer pipeline) fun _ same => same

/-- A session polls its feed once when it awaits a record. -/
theorem feed_awaitRecord (feed : Feed σ) (consumer : Consumer τ) (pipeline : Pipeline σ τ) :
    (pipeline.awaitRecord feed consumer).state.feed = (feed.poll pipeline.feed).2 := by
  have awaited := awaited_awaitRecord feed consumer pipeline
  generalize nextVerdict feed pipeline.session.options pipeline.feed = judged at awaited
  generalize pipeline.awaitRecord feed consumer = attempt at awaited
  cases awaited with
  | stop => exact feed_finish consumer (pipeline.polled feed)
  | take pending => rfl
  | leaveOut event => rfl
  | fail failure next session consumed fed => exact fed

/-- A session that ends has handed over all its rows. -/
theorem accounts_finish (consumer : Consumer τ) {pipeline : Pipeline σ (τ × List RecordBatch)}
    (accounts : pipeline.Accounts type options rows)
    (phase : pipeline.session.phase = .awaitingRecord)
    (clean : (pipeline.finish consumer.recorded).failure = none) :
    (pipeline.finish consumer.recorded).state.Accounts type options rows ∧
      (pipeline.finish consumer.recorded).state.session.phase = .drained ∧
      (pipeline.finish consumer.recorded).state.session.batch.size = 0 ∧
      (pipeline.finish consumer.recorded).state.session.totals.skipped =
        pipeline.session.totals.skipped ∧
      (pipeline.finish consumer.recorded).state.feed = pipeline.feed := by
  have idle : pipeline.session.phase.pending = [] := by rw [phase]; rfl
  rw [finish_eq] at clean ⊢
  by_cases empty : pipeline.session.batch.isEmpty = true
  · have room := accounts.isFull_eq_false (by rw [phase]; nofun)
    have none : pipeline.session.batch.size = 0 := beq_iff_eq.mp empty
    simp only [if_pos empty, Attempt.andThen_ok]
    exact ⟨Session.Accounts.withPhase accounts idle room rfl, rfl, none, rfl, rfl⟩
  · simp only [if_neg empty] at clean ⊢
    obtain ⟨handed, -⟩ := (Attempt.failure_andThen_eq_none_iff _ _).mp clean
    obtain ⟨after, room⟩ := accounts_handOver consumer accounts handed
    obtain ⟨session, consumed⟩ := handOver_of_clean consumer pipeline handed
    have sameFeed := feed_handOver consumer.recorded pipeline
    rw [Attempt.andThen_of_clean handed]
    generalize (pipeline.handOver consumer.recorded).state = next at *
    have idle' : next.session.phase.pending = [] := by rw [session]; exact idle
    exact ⟨Session.Accounts.withPhase after idle' room rfl, rfl,
      by simp [ended, withSession, Session.withPhase, session, Session.handedOver, RecordBatch.reset],
      by simp [ended, withSession, Session.withPhase, session, Session.handedOver], sameFeed⟩

end Columnar.Pipeline
