import Columnar.Feed.Values
import Columnar.Proofs.Session.Transitions
/-!
# Overflow policies agree

What a session comes to is settled by its feed and by the options other than the overflow policy: the
records that become rows, how much is left out, and the failure that ends it, if any (`Yields`). A run
with a consumer that takes every batch comes to just that (`comesTo_run`), however its rows are cut
into batches, and whichever records are put off and tried again. So runs under both overflow policies
agree (`overflow_policies_agree`).
-/

set_option autoImplicit false

namespace Columnar

open Column (faultFields)

/-- What a session comes to: records that become rows, how many pieces of input are left out, and the
failure in the end, if any. -/
structure Yield where
  records : List Json.Members
  skipped : Nat
  failure : Option Failure

namespace Yield

/-- Of a session that comes to its end without doing anything. -/
def nothing : Yield := ⟨[], 0, none⟩

/-- Of a session that fails before it does anything. -/
def failed (failure : Failure) : Yield := ⟨[], 0, some failure⟩

/-- Of a session that does something before. -/
def after (yield : Yield) (records : List Json.Members) (skipped : Nat) : Yield :=
  ⟨records ++ yield.records, skipped + yield.skipped, yield.failure⟩

end Yield

namespace Pipeline

variable {σ τ : Type}

/-- What a session comes to whose feed is in a state, by what becomes of each poll and by what is
wrong with each record. -/
inductive Yields (next : σ → σ) (judged : σ → Verdict) (faultOf : Json.Members → Option Failure) :
    σ → Yield → Prop
  | ended {state : σ} (stop : judged state = .stop) : Yields next judged faultOf state .nothing
  | record {state : σ} {members : Json.Members} {rest : Yield}
      (take : judged state = .take members) (sound : faultOf members = none)
      (others : Yields next judged faultOf (next state) rest) :
      Yields next judged faultOf state (rest.after [members] 0)
  | refused {state : σ} {members : Json.Members} {failure : Failure}
      (take : judged state = .take members) (faulty : faultOf members = some failure) :
      Yields next judged faultOf state (.failed failure)
  | leftOut {state : σ} {rest : Yield} (leaveOut : judged state = .leaveOut)
      (others : Yields next judged faultOf (next state) rest) :
      Yields next judged faultOf state (rest.after [] 1)
  | failed {state : σ} {failure : Failure} (fail : judged state = .fail failure) :
      Yields next judged faultOf state (.failed failure)

/-- A session comes to one thing only. -/
theorem Yields.unique {next : σ → σ} {judged : σ → Verdict}
    {faultOf : Json.Members → Option Failure} {state : σ} {yield other : Yield}
    (yields : Yields next judged faultOf state yield)
    (others : Yields next judged faultOf state other) : yield = other := by
  induction yields generalizing other with
  | ended stop => cases others <;> simp_all
  | record take sound rest ih =>
    cases others with
    | record take' sound' rest' =>
      cases take.symm.trans take'
      rw [ih rest']
    | ended | refused | leftOut | failed => simp_all
  | refused take faulty => cases others <;> simp_all
  | leftOut leaveOut rest ih =>
    cases others with
    | leftOut leaveOut' rest' => rw [ih rest']
    | ended | record | refused | failed => simp_all
  | failed fail => cases others <;> simp_all

/-- What the options make of the states of a feed. -/
abbrev FeedYields (feed : Feed σ) (type : DataType) (options : Options) : σ → Yield → Prop :=
  Yields (fun state => (feed.poll state).2) (nextVerdict feed options)
    (faultFields options.onCellFailure type.fields)

/-- What a session comes to from where it stands. -/
def Expects (feed : Feed σ) (type : DataType) (options : Options) (pipeline : Pipeline σ τ)
    (yield : Yield) : Prop :=
  match pipeline.session.phase with
  | .convertingRow pending =>
    (faultFields options.onCellFailure type.fields pending.record = none ∧
      ∃ rest, FeedYields feed type options pipeline.feed rest ∧
        yield = rest.after [pending.record] 0) ∨
    ∃ failure, faultFields options.onCellFailure type.fields pending.record = some failure ∧
      yield = .failed failure
  | .drained => yield = .nothing
  | _ => FeedYields feed type options pipeline.feed yield

/-- What an attempt to go on comes to: it fails as expected and keeps the rows, or it does part of
what is expected, and the rest is expected of the state that it leaves. -/
inductive Proceeds (feed : Feed σ) (type : DataType) (options : Options) (rows : List Json)
    (before : Pipeline σ (τ × List RecordBatch))
    (attempt : Attempt (Pipeline σ (τ × List RecordBatch))) : Prop
  | fails (failure : Failure) (failed : attempt.failure = some failure)
      (expected : before.Expects feed type options (.failed failure))
      (kept : attempt.state.allRows = rows)
      (skipped : attempt.state.session.totals.skipped = before.session.totals.skipped)
  | goes (more : List Json.Members) (count : Nat) (clean : attempt.failure = none)
      (accounts : attempt.state.Accounts type options
        (rows ++ more.map (storedRecord options.onCellFailure type)))
      (skipped : attempt.state.session.totals.skipped = before.session.totals.skipped + count)
      (expected : ∀ rest, attempt.state.Expects feed type options rest →
        before.Expects feed type options (rest.after more count))
      (empty : attempt.state.session.phase.isDrained = true →
        attempt.state.session.batch.size = 0)

section

variable {feed : Feed σ} {type : DataType} {options : Options} {rows : List Json}
  {consumer : Consumer τ} {pipeline : Pipeline σ (τ × List RecordBatch)}

/-- Nothing that is done before changes nothing. -/
theorem Yield.after_nil (yield : Yield) : yield.after [] 0 = yield := by
  simp [Yield.after]

/-- A consumer that accepts every batch makes no handing over fail. -/
theorem failure_handOver (accepts : ∀ batch state, (consumer.accept batch state).failure = none)
    (pipeline : Pipeline σ (τ × List RecordBatch)) :
    (pipeline.handOver consumer.recorded).failure = none := by
  unfold handOver
  simp only [Consumer.recorded, accepts]
  rfl

/-- Nor does the end of a session fail for such a consumer. -/
theorem failure_finish (accepts : ∀ batch state, (consumer.accept batch state).failure = none)
    (pipeline : Pipeline σ (τ × List RecordBatch)) :
    (pipeline.finish consumer.recorded).failure = none := by
  rw [finish_eq]
  split
  · rfl
  · rw [Attempt.failure_andThen_eq_none_iff]
    exact ⟨failure_handOver accepts pipeline, rfl⟩

/-- A poll does what becomes of it. -/
theorem proceeds_awaitRecord
    (accepts : ∀ batch state, (consumer.accept batch state).failure = none)
    (accounts : pipeline.Accounts type options rows)
    (phase : pipeline.session.phase = .awaitingRecord) :
    Proceeds feed type options rows pipeline (pipeline.awaitRecord feed consumer.recorded) := by
  have idle : pipeline.session.phase.pending = [] := by rw [phase]; rfl
  have room := accounts.isFull_eq_false (by rw [phase]; nofun)
  have polledAccounts : (pipeline.polled feed).Accounts type options rows := accounts
  have options_eq : pipeline.session.options = options := by
    obtain ⟨⟨written, keeps, -⟩, -⟩ := accounts
    exact keeps.options_eq
  have expects : ∀ {yield}, FeedYields feed type options pipeline.feed yield →
      pipeline.Expects feed type options yield := by
    intro yield yields
    rw [Expects, phase]
    exact yields
  have same_rows : (rows ++ ([] : List Json.Members).map
      (storedRecord options.onCellFailure type)) = rows := List.append_nil rows
  have awaited := awaited_awaitRecord feed consumer.recorded pipeline
  rw [options_eq] at awaited
  generalize judged : nextVerdict feed options pipeline.feed = becomes at awaited
  generalize pipeline.awaitRecord feed consumer.recorded = attempt at awaited
  cases awaited with
  | stop =>
    have clean := failure_finish accepts (pipeline.polled feed)
    obtain ⟨accounts', drained, empty, skipped, -⟩ :=
      accounts_finish consumer polledAccounts phase clean
    refine .goes [] 0 clean (same_rows.symm ▸ accounts') skipped ?_ fun _ => empty
    intro rest nothing
    rw [Expects, drained] at nothing
    rw [nothing, Yield.after_nil]
    exact expects (.ended judged)
  | take pending =>
    refine .goes [] 0 rfl (same_rows.symm ▸ accounts.converting idle room pending) rfl ?_ nofun
    -- The record is not tried yet. Whether it becomes a row is settled by what is wrong with it.
    rintro rest (⟨sound, others, yields, rfl⟩ | ⟨failure, faulty, rfl⟩)
    · rw [Yield.after_nil]
      exact expects (.record judged sound yields)
    · rw [Yield.after_nil]
      exact expects (.refused judged faulty)
  | leaveOut event =>
    have still : (((pipeline.polled feed).report event).withSession
        pipeline.session.countSkipped).session.phase = .awaitingRecord := phase
    refine .goes [] 1 rfl (same_rows.symm ▸ Session.Accounts.countSkipped accounts) rfl ?_ ?_
    · intro rest yields
      rw [Attempt.state_ok, Expects, still] at yields
      exact expects (.leftOut judged yields)
    · intro drained
      rw [Attempt.state_ok, still] at drained
      cases drained
  | fail failure next session consumed =>
    refine .fails failure rfl (expects (.failed judged)) ?_ (by rw [Attempt.state_failed, session])
    rw [Attempt.state_failed, allRows, session, consumed]
    exact Session.Accounts.rows_eq accounts

/-- Converting a record does what becomes of it, or leaves it for another try. -/
theorem proceeds_convertRow
    (accepts : ∀ batch state, (consumer.accept batch state).failure = none)
    (accounts : pipeline.Accounts type options rows) {pending : PendingRecord}
    (phase : pipeline.session.phase = .convertingRow pending) :
    Proceeds feed type options rows pipeline (pipeline.convertRow consumer.recorded pending) := by
  have converted := converted_convertRow pipeline consumer accounts phase
  generalize pipeline.convertRow consumer.recorded pending = attempt at converted
  cases converted with
  | committed next sound accounts' next_phase same_feed skipped =>
    have idle : next.session.phase.isDrained = false := by
      obtain awaiting | full := next_phase
      · rw [awaiting]; rfl
      · rw [full]; rfl
    refine .goes [pending.record] 0 rfl accounts' skipped ?_ ?_
    · intro rest yields
      have yields' : FeedYields feed type options pipeline.feed rest := by
        rw [← same_feed]
        obtain awaiting | full := next_phase
        · rw [Attempt.state_ok, Expects, awaiting] at yields
          exact yields
        · rw [Attempt.state_ok, Expects, full] at yields
          exact yields
      rw [Expects, phase]
      exact .inl ⟨sound, rest, yields', rfl⟩
    · intro drained
      rw [Attempt.state_ok, idle] at drained
      cases drained
  | refused next failure faulty kept skipped =>
    refine .fails failure rfl ?_ kept skipped
    rw [Expects, phase]
    exact .inr ⟨failure, faulty, rfl⟩
  -- The record stays pending, so as much is expected as before.
  | deferred next accounts' next_phase same_feed skipped =>
    have clean := failure_handOver accepts next
    have handed_phase := phase_handOver consumer.recorded next
    have handed_feed := feed_handOver consumer.recorded next
    obtain ⟨handed, -⟩ := handOver_of_clean consumer next clean
    obtain ⟨accounts'', -⟩ := accounts_handOver consumer accounts' clean
    rw [next_phase] at handed_phase
    refine .goes [] 0 clean ?_ ?_ ?_ ?_
    · rw [List.map_nil, List.append_nil]
      exact accounts''
    · rw [handed, ← skipped]
      rfl
    · intro rest yields
      rw [Yield.after_nil]
      rw [Expects, handed_phase, handed_feed, same_feed] at yields
      rw [Expects, phase]
      exact yields
    · intro drained
      rw [handed_phase] at drained
      cases drained

/-- Handing over a full batch does nothing that is expected. -/
theorem proceeds_handOverFull
    (accepts : ∀ batch state, (consumer.accept batch state).failure = none)
    (accounts : pipeline.Accounts type options rows)
    (phase : pipeline.session.phase = .batchFull) :
    Proceeds feed type options rows pipeline (pipeline.handOverFull consumer.recorded) := by
  have clean := failure_handOver accepts pipeline
  have same_feed := feed_handOver consumer.recorded pipeline
  obtain ⟨handed, -⟩ := handOver_of_clean consumer pipeline clean
  obtain ⟨accounts', room⟩ := accounts_handOver consumer accounts clean
  have idle : (pipeline.handOver consumer.recorded).state.session.phase.pending = [] := by
    rw [phase_handOver, phase]
    rfl
  refine .goes [] 0 clean ?_ ?_ ?_ nofun
  · rw [List.map_nil, List.append_nil]
    exact Session.Accounts.withPhase accounts' idle room rfl
  · have same : (pipeline.handOver consumer.recorded).state.session.totals.skipped =
        pipeline.session.totals.skipped := by
      rw [handed]
      rfl
    exact same
  · intro rest yields
    have yields' : FeedYields feed type options
        (pipeline.handOver consumer.recorded).state.feed rest := yields
    rw [same_feed] at yields'
    rw [Yield.after_nil, Expects, phase]
    exact yields'

/-- Every step but one of a drained session does part of what is expected. -/
theorem proceeds_step (feed : Feed σ)
    (accepts : ∀ batch state, (consumer.accept batch state).failure = none)
    (accounts : pipeline.Accounts type options rows)
    (going : pipeline.session.phase.isDrained = false) :
    Proceeds feed type options rows pipeline (pipeline.step feed consumer.recorded) := by
  have proceeds : Proceeds feed type options rows pipeline
      (pipeline.transition feed consumer.recorded) := by
    unfold transition
    cases phase : pipeline.session.phase with
    | awaitingRecord => exact proceeds_awaitRecord accepts accounts phase
    | convertingRow pending => exact proceeds_convertRow accepts accounts phase
    | batchFull => exact proceeds_handOverFull accepts accounts phase
    | drained =>
      rw [phase] at going
      cases going
  -- A failure drains the session, and changes nothing else about it.
  unfold step
  cases proceeds with
  | fails failure failed expected kept skipped =>
    simp only [failed]
    exact .fails failure rfl expected kept skipped
  | goes more count clean accounts' skipped expected empty =>
    simp only [clean]
    exact .goes more count clean accounts' skipped expected empty

/-- What a run of a session that stands somewhere has come to when it is over. -/
structure ComesTo (type : DataType) (options : Options) (rows : List Json)
    (before : Pipeline σ (τ × List RecordBatch)) (yield : Yield)
    (attempt : Attempt (Pipeline σ (τ × List RecordBatch))) : Prop where
  failure_eq : attempt.failure = yield.failure
  allRows_eq : attempt.state.allRows =
    rows ++ yield.records.map (storedRecord options.onCellFailure type)
  skipped_eq : attempt.state.session.totals.skipped =
    before.session.totals.skipped + yield.skipped
  complete : attempt.failure = none → attempt.state.session.batch.rows = [] ∧
    attempt.state.session.totals.records = (rowsOf attempt.state.consumer.2).length

/-- Nothing is expected of a session that is drained. -/
theorem expects_of_isDrained (drained : pipeline.session.phase.isDrained = true) :
    pipeline.Expects feed type options .nothing := by
  unfold Expects
  cases phase : pipeline.session.phase with
  | drained => rfl
  | awaitingRecord | convertingRow | batchFull =>
    rw [phase] at drained
    cases drained

/-- What comes after a step is what comes of the whole run. -/
theorem ComesTo.of_step {next : Pipeline σ (τ × List RecordBatch)} {yield : Yield}
    {attempt : Attempt (Pipeline σ (τ × List RecordBatch))} {more : List Json.Members} {count : Nat}
    (rest : ComesTo type options
      (rows ++ more.map (storedRecord options.onCellFailure type)) next yield attempt)
    (skipped : next.session.totals.skipped = pipeline.session.totals.skipped + count) :
    ComesTo type options rows pipeline (yield.after more count) attempt where
  failure_eq := rest.failure_eq
  allRows_eq := by
    rw [rest.allRows_eq, Yield.after, List.map_append, List.append_assoc]
  skipped_eq := by
    rw [rest.skipped_eq, skipped, Yield.after, Nat.add_assoc]
  complete := rest.complete

/-- A session that is drained without a failure has come to its end. -/
theorem comesTo_nothing {attempt : Attempt (Pipeline σ (τ × List RecordBatch))}
    (clean : attempt.failure = none) (accounts : attempt.state.Accounts type options rows)
    (empty : attempt.state.session.batch.size = 0) :
    ComesTo type options rows attempt.state .nothing attempt where
  failure_eq := clean
  allRows_eq := (Session.Accounts.rows_eq accounts).trans (List.append_nil rows).symm
  skipped_eq := rfl
  complete _ := by
    refine ⟨?_, accounts.counted⟩
    rw [RecordBatch.rows, empty]
    rfl

/-- A run comes to what is expected of it. -/
theorem comesTo_run (feed : FiniteFeed σ)
    (accepts : ∀ batch state, (consumer.accept batch state).failure = none) :
    ∀ (pipeline : Pipeline σ (τ × List RecordBatch)) {rows : List Json},
      pipeline.Accounts type options rows → pipeline.session.phase.isDrained = false →
        ∃ yield, pipeline.Expects feed.toFeed type options yield ∧
          ComesTo type options rows pipeline yield (pipeline.run feed consumer.recorded) := by
  -- The induction is on the run, for any rows before it: each step adds its own to them.
  apply run.induct feed consumer.recorded
  case case1 =>
    intro pipeline attempt stop rows accounts awake
    rw [run_of_stop stop]
    cases proceeds_step feed.toFeed accepts accounts awake with
    | fails failure failed expected kept skipped =>
      refine ⟨_, expected, failed, ?_, skipped, ?_⟩
      · rw [kept]
        exact (List.append_nil rows).symm
      · intro clean
        rw [failed] at clean
        cases clean
    | goes more count clean accounts' skipped expected empty =>
      have drained : (pipeline.step feed.toFeed consumer.recorded).state.session.phase.isDrained =
          true := by
        obtain failed | drained := stop
        · rw [clean] at failed
          cases failed
        · exact drained
      exact ⟨_, expected _ (expects_of_isDrained drained),
        (comesTo_nothing clean accounts' (empty drained)).of_step skipped⟩
  case case2 =>
    intro pipeline attempt going ih rows accounts awake
    rw [run_of_going going]
    obtain ⟨clean', awake'⟩ := not_or.mp going
    cases proceeds_step feed.toFeed accepts accounts awake with
    | fails failure failed expected kept skipped =>
      exact absurd (Option.isSome_of_eq_some failed) clean'
    | goes more count clean accounts' skipped expected empty =>
      obtain ⟨yield, rest, comes⟩ := ih accounts' (Bool.not_eq_true _ ▸ awake')
      exact ⟨_, expected yield rest, comes.of_step skipped⟩

end

end Pipeline

open Pipeline in
/-- Overflow policies agree. Whether child columns grow for a record, or the record is put off to the
next batch, a session on the same input with a consumer that takes every batch fails with the same
failure or not at all, gives the same rows in the same order, and leaves out as much. If it does not
fail, all the rows were taken, and as many are counted. The runs are observed, which changes nothing
about them. -/
theorem overflow_policies_agree {σ τ : Type} {type : DataType}
    (valid : type.validateRoot = .ok ()) (options : Options) (positive : 0 < options.capacity)
    (feed : FiniteFeed σ) (consumer : Consumer τ)
    (accepts : ∀ batch state, (consumer.accept batch state).failure = none)
    (given : σ) (consumed : τ) :
    ∃ growing deferring,
      Session.start type { options with onOverflow := .grow } = .ok growing ∧
      Session.start type { options with onOverflow := .defer } = .ok deferring ∧
      let grown := (Pipeline.mk growing (given, []) (consumed, []) []).run feed.recorded
        consumer.recorded
      let deferred := (Pipeline.mk deferring (given, []) (consumed, []) []).run feed.recorded
        consumer.recorded
      grown.map Pipeline.forget = (Pipeline.mk growing given consumed []).run feed consumer ∧
        deferred.map Pipeline.forget =
          (Pipeline.mk deferring given consumed []).run feed consumer ∧
        grown.failure = deferred.failure ∧
        rowsOf grown.state.consumer.2 ++ grown.state.session.batch.rows =
          rowsOf deferred.state.consumer.2 ++ deferred.state.session.batch.rows ∧
        grown.state.session.totals.skipped = deferred.state.session.totals.skipped ∧
        (grown.failure = none →
          grown.state.session.batch.rows = [] ∧ deferred.state.session.batch.rows = [] ∧
          rowsOf grown.state.consumer.2 = rowsOf deferred.state.consumer.2 ∧
          grown.state.session.totals.records = deferred.state.session.totals.records) := by
  have begins : ∀ policy, ∃ session,
      Session.start type { options with onOverflow := policy } = .ok session ∧
      ∃ yield, FeedYields feed.recorded.toFeed type options (given, []) yield ∧
        ComesTo type { options with onOverflow := policy } []
          (Pipeline.mk session (given, []) (consumed, []) []) yield
          ((Pipeline.mk session (given, []) (consumed, []) []).run feed.recorded
            consumer.recorded) ∧
        session.totals = .zero := by
    intro policy
    have positive' : 0 < { options with onOverflow := policy }.capacity := positive
    obtain ⟨session, started, accounts, phase, totals⟩ := Session.exists_start valid positive'
    have awake : session.phase.isDrained = false := by rw [phase]; rfl
    obtain ⟨yield, expected, comes⟩ := comesTo_run feed.recorded accepts
      (Pipeline.mk session (given, []) (consumed, []) []) accounts awake
    rw [Expects, phase] at expected
    exact ⟨session, started, yield, expected, comes, totals⟩
  obtain ⟨growing, startedGrowing, yield, yields, grown, zero⟩ := begins .grow
  obtain ⟨deferring, startedDeferring, other, yields', deferred, zero'⟩ := begins .defer
  -- Neither the feed nor the faults of records depend on the overflow policy.
  cases yields.unique yields'
  refine ⟨growing, deferring, startedGrowing, startedDeferring,
    run_recorded feed consumer ⟨growing, (given, []), (consumed, []), []⟩,
    run_recorded feed consumer ⟨deferring, (given, []), (consumed, []), []⟩, ?_, ?_, ?_, ?_⟩
  · rw [grown.failure_eq, deferred.failure_eq]
  · exact grown.allRows_eq.trans deferred.allRows_eq.symm
  · rw [grown.skipped_eq, deferred.skipped_eq, zero, zero']
  · intro clean
    have clean' := deferred.failure_eq.trans (grown.failure_eq.symm.trans clean)
    obtain ⟨empty, counted⟩ := grown.complete clean
    obtain ⟨empty', counted'⟩ := deferred.complete clean'
    have same := grown.allRows_eq.trans deferred.allRows_eq.symm
    rw [allRows, allRows, empty, empty', List.append_nil, List.append_nil] at same
    exact ⟨empty, empty', same, by rw [counted, counted', same]⟩

/-- A list that does not fit into the children of a batch with room for two rows. -/
theorem overflow_policies_agree_long_list :
    let type := DataType.struct .default [("a", .listOf (.ofPrimitive (.integer .regular)))]
    let options : Options := ⟨2, .skip, .skip, .abort, .grow⟩
    let consumer : Consumer Nat := ⟨fun _ taken => .ok (taken + 1)⟩
    let values : List Json := [.object [("a", .array [.int 1])], .text "x",
      .object [("a", .array [.int 2, .null, .int 3, .int 4])]]
    ∃ growing deferring,
      Session.start type options = .ok growing ∧
      Session.start type { options with onOverflow := .defer } = .ok deferring ∧
      let grown := (Pipeline.mk growing (.ofList values, []) (0, []) []).run
        ValueQueue.feed.recorded consumer.recorded
      let deferred := (Pipeline.mk deferring (.ofList values, []) (0, []) []).run
        ValueQueue.feed.recorded consumer.recorded
      grown.failure = none ∧ deferred.failure = none ∧
        rowsOf grown.state.consumer.2 = rowsOf deferred.state.consumer.2 ∧
        grown.state.session.totals.skipped = deferred.state.session.totals.skipped := by
  intro type options consumer values
  have valid : type.validateRoot = .ok () := rfl
  obtain ⟨growing, deferring, startedGrowing, startedDeferring, -, -, failure, -, skipped, rows⟩ :=
    overflow_policies_agree valid options Nat.two_pos ValueQueue.feed consumer (fun _ _ => rfl)
      (.ofList values) 0
  cases startedGrowing
  cases startedDeferring
  have clean : ((Pipeline.mk ⟨⟨type, .abort⟩, options,
      ⟨type, 2, 0, Column.allocateFields 2 type.fields⟩, .awaitingRecord, .zero⟩
        (ValueQueue.ofList values, []) (0, []) []).run ValueQueue.feed.recorded
          consumer.recorded).failure = none := by
    decide +kernel
  obtain ⟨-, -, same, -⟩ := rows clean
  exact ⟨_, _, rfl, rfl, clean, failure.symm.trans clean, same, skipped⟩

end Columnar
