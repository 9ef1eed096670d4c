import Columnar.Feed.Values
import Columnar.Proofs.Session.Transitions
/-!
# Records are neither lost nor repeated

At any point of a session before its first failure, the objects that were polled are the records that
became rows, followed by the one that is being converted; and the rows that the consumer took,
followed by those in the batch, are these records in order, one row for each (`steps_conserve`). The
invariant is kept by every step (`conserves_step`): a record that is put off changes neither side.
-/

set_option autoImplicit false

namespace Columnar

/-- The members of the object that a poll gave. -/
def Polled.object? : Polled → Option Json.Members
  | .record (.object members) => some members
  | _ => none

/-- The objects among what polls gave, in order. -/
def objectsOf (polled : List Polled) : List Json.Members :=
  polled.filterMap Polled.object?

namespace Pipeline

variable {σ τ : Type} {type : DataType} {options : Options}

/-- The record that a verdict takes. -/
def Verdict.record? : Verdict → Option Json.Members
  | .take members => some members
  | _ => none

/-- Exactly the objects are taken. -/
theorem record?_verdict (options : Options) (line : Nat) (polled : Polled) :
    (verdict options line polled).record? = polled.object? := by
  cases polled with
  | exhausted => rfl
  | record value =>
    cases value with
    | object members => rfl
    | null | bool | int | real | text | array =>
      cases policy : options.onNotObject <;> simp [verdict, policy, Verdict.record?, Polled.object?]
  | failed failure =>
    by_cases parse : failure.classOf = .parse
    · cases policy : options.onMalformed <;>
        simp [verdict, parse, policy, Verdict.record?, Polled.object?]
    · simp [verdict, parse, Verdict.record?, Polled.object?]

/-- The objects polled so far are the records that became rows and the one that is held. -/
def Conserves (type : DataType) (options : Options)
    (pipeline : Pipeline (σ × List Polled) (τ × List RecordBatch)) : Prop :=
  ∃ records, objectsOf pipeline.feed.2 = records ++ pipeline.session.phase.pending ∧
    pipeline.Accounts type options (records.map (storedRecord options.onCellFailure type))

/-- A poll adds the object that it gave. -/
theorem objectsOf_polled (feed : Feed σ) (options : Options)
    (pipeline : Pipeline (σ × List Polled) τ) :
    objectsOf (pipeline.polled feed.recorded).feed.2 =
      objectsOf pipeline.feed.2 ++
        (nextVerdict feed.recorded options pipeline.feed).record?.toList := by
  rw [nextVerdict, record?_verdict]
  simp only [objectsOf, polled, Feed.recorded, List.filterMap_append]
  cases given : (feed.poll pipeline.feed.1).1.object? <;> simp [given]

/-- A step that does not fail is the transition of its phase. -/
theorem step_of_clean {feed : Feed σ} {consumer : Consumer τ} {pipeline : Pipeline σ τ}
    (clean : (pipeline.step feed consumer).failure = none) :
    pipeline.step feed consumer = pipeline.transition feed consumer := by
  unfold step at clean ⊢
  dsimp only at clean ⊢
  split
  · next failure failed =>
    rw [failed] at clean
    cases clean
  · rfl

/-- A step that does not fail loses no record and repeats none. -/
theorem conserves_step (feed : Feed σ) (consumer : Consumer τ)
    {pipeline : Pipeline (σ × List Polled) (τ × List RecordBatch)}
    (conserves : pipeline.Conserves type options)
    (clean : (pipeline.step feed.recorded consumer.recorded).failure = none) :
    (pipeline.step feed.recorded consumer.recorded).state.Conserves type options := by
  obtain ⟨records, objects, accounts⟩ := conserves
  have same := step_of_clean clean
  rw [same] at clean ⊢
  unfold transition at clean ⊢
  cases phase : pipeline.session.phase with
  | awaitingRecord =>
    simp only [phase] at clean ⊢
    have idle : pipeline.session.phase.pending = [] := by rw [phase]; rfl
    have room := accounts.isFull_eq_false (by rw [phase]; nofun)
    have polledAccounts : (pipeline.polled feed.recorded).Accounts type options
      (records.map (storedRecord options.onCellFailure type)) := accounts
    have awaited := awaited_awaitRecord feed.recorded consumer.recorded pipeline
    have given := objectsOf_polled feed pipeline.session.options pipeline
    rw [objects, idle, List.append_nil] at given
    generalize nextVerdict feed.recorded pipeline.session.options pipeline.feed = judged
      at awaited given
    generalize pipeline.awaitRecord feed.recorded consumer.recorded = attempt at clean awaited
    cases awaited with
    | stop =>
      obtain ⟨accounts', drained, -, -, same_feed⟩ := accounts_finish consumer polledAccounts phase
        clean
      refine ⟨records, ?_, accounts'⟩
      rw [same_feed, given, drained]
      rfl
    | take pending => exact ⟨records, given, accounts.converting idle room pending⟩
    | leaveOut event =>
      refine ⟨records, ?_, Session.Accounts.countSkipped accounts⟩
      exact given.trans (congrArg (records ++ ·) idle.symm)
    | fail failure next => cases clean
  | convertingRow pending =>
    simp only [phase] at clean ⊢
    have converted := converted_convertRow pipeline consumer accounts phase
    generalize pipeline.convertRow consumer.recorded pending = attempt at clean converted
    cases converted with
    | committed next sound accounts' next_phase same_feed =>
      refine ⟨records ++ [pending.record], ?_, ?_⟩
      · have idle : next.session.phase.pending = [] := by
          obtain awaiting | full := next_phase
          · rw [awaiting]; rfl
          · rw [full]; rfl
        rw [Attempt.state_ok, same_feed, objects, phase, idle, List.append_nil]
        rfl
      · rw [List.map_append]
        exact accounts'
    | refused next failure => cases clean
    -- The record stays pending while the rows before it are handed over.
    | deferred next accounts' next_phase same_feed =>
      refine ⟨records, ?_, (accounts_handOver consumer accounts' clean).1⟩
      rw [feed_handOver, phase_handOver, same_feed, next_phase, objects, phase]
  | batchFull =>
    simp only [phase] at clean ⊢
    have handed : (pipeline.handOver consumer.recorded).failure = none := clean
    obtain ⟨accounts', room⟩ := accounts_handOver consumer accounts handed
    have idle : (pipeline.handOver consumer.recorded).state.session.phase.pending = [] := by
      rw [phase_handOver, phase]
      rfl
    refine ⟨records, ?_, Session.Accounts.withPhase accounts' idle room rfl⟩
    have same_feed := feed_handOver consumer.recorded pipeline
    have none : records ++ Phase.pending .batchFull = records := List.append_nil records
    rw [phase, none] at objects
    simp only [handOverFull, Attempt.state_map, withSession, same_feed, objects]
    exact (List.append_nil records).symm
  | drained =>
    simp only
    exact ⟨records, objects, accounts⟩

/-- Steps that do not fail lose no record and repeat none. -/
theorem conserves_steps (feed : Feed σ) (consumer : Consumer τ) (n : Nat) :
    ∀ {pipeline : Pipeline (σ × List Polled) (τ × List RecordBatch)},
      pipeline.Conserves type options →
        (pipeline.steps feed.recorded consumer.recorded n).failure = none →
          (pipeline.steps feed.recorded consumer.recorded n).state.Conserves type options := by
  induction n with
  | zero => exact fun conserves _ => conserves
  | succ n ih =>
    intro pipeline conserves clean
    rw [steps] at clean ⊢
    obtain ⟨first, others⟩ := (Attempt.failure_andThen_eq_none_iff _ _).mp clean
    have after := ih (conserves_step feed consumer conserves first) others
    rw [Attempt.andThen_of_clean first]
    exact after

end Pipeline

/-- Conservation of records. A session is observed for any number of steps without a failure, which
changes nothing about them. Then the objects polled are some records and the one that is pending, if
any, and the rows taken by the consumer and those in the batch are the rows of these records, in
order and one for each. -/
theorem steps_conserve {σ τ : Type} {type : DataType} (valid : type.validateRoot = .ok ())
    (options : Options) (positive : 0 < options.capacity) (feed : Feed σ) (consumer : Consumer τ)
    (given : σ) (consumed : τ) (n : Nat) :
    ∃ session, Session.start type options = .ok session ∧
      let plain := (Pipeline.mk session given consumed []).steps feed consumer n
      let observed := (Pipeline.mk session (given, []) (consumed, []) []).steps feed.recorded
        consumer.recorded n
      observed.map Pipeline.forget = plain ∧
        (plain.failure = none →
          ∃ records,
            objectsOf observed.state.feed.2 = records ++ observed.state.session.phase.pending ∧
            rowsOf observed.state.consumer.2 ++ observed.state.session.batch.rows =
              records.map fun record =>
                Column.stored options.onCellFailure type (.object record)) := by
  obtain ⟨session, started, accounts, phase, -⟩ := Session.exists_start valid positive
  refine ⟨session, started, ?_⟩
  intro plain observed
  have same : observed.map Pipeline.forget = plain :=
    Pipeline.steps_recorded feed consumer n ⟨session, (given, []), (consumed, []), []⟩
  refine ⟨same, fun clean => ?_⟩
  have observedClean : observed.failure = none := by
    rw [← clean, ← same]
    rfl
  have begun : (Pipeline.mk session (given, []) (consumed, []) []).Conserves type options := by
    refine ⟨[], ?_, accounts⟩
    rw [phase]
    rfl
  obtain ⟨records, objects, after⟩ := Pipeline.conserves_steps feed consumer n begun observedClean
  exact ⟨records, objects, Session.Accounts.rows_eq after⟩

/-- Five steps into a session with room for one row: the number is left out, one row was handed over,
and one record is pending. -/
theorem steps_conserve_values :
    let type := DataType.struct .default [("a", .ofPrimitive (.integer .regular))]
    let options : Options := ⟨1, .skip, .skip, .abort, .grow⟩
    let session : Session := ⟨⟨type, .abort⟩, options,
      ⟨type, 1, 0, Column.allocateFields 1 type.fields⟩, .awaitingRecord, .zero⟩
    let consumer : Consumer Nat := ⟨fun _ taken => .ok (taken + 1)⟩
    let values := ValueQueue.ofList [.object [("a", .int 1)], .int 7, .object [("a", .int 2)]]
    let plain := (Pipeline.mk session values 0 []).steps ValueQueue.feed.toFeed consumer 5
    let observed := (Pipeline.mk session (values, []) (0, []) []).steps
      ValueQueue.feed.toFeed.recorded consumer.recorded 5
    Session.start type options = .ok session ∧ plain.failure = none ∧
      ∃ records,
        objectsOf observed.state.feed.2 = records ++ observed.state.session.phase.pending ∧
        rowsOf observed.state.consumer.2 ++ observed.state.session.batch.rows =
          (records.map fun record => Column.stored .abort type (.object record)) ∧
        records.length = 1 ∧ observed.state.session.phase.pending.length = 1 := by
  intro type options session consumer values plain observed
  have valid : type.validateRoot = .ok () := rfl
  have start : Session.start type options = .ok session := rfl
  have clean : plain.failure = none := by decide +kernel
  have polled : (objectsOf observed.state.feed.2).length = 2 := by decide +kernel
  have held : observed.state.session.phase.pending.length = 1 := by decide +kernel
  obtain ⟨started, begun, -, conserved⟩ := steps_conserve valid options Nat.one_pos
    ValueQueue.feed.toFeed consumer values 0 5
  cases start.symm.trans begun
  obtain ⟨records, objects, rows⟩ := conserved clean
  have lengths := congrArg List.length objects
  simp only [observed] at polled held ⊢
  rw [polled, List.length_append, held] at lengths
  exact ⟨start, clean, records, objects, rows, by omega, held⟩

end Columnar
