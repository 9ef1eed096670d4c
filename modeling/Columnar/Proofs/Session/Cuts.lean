import Columnar.Feed.Values
import Columnar.Proofs.Session.Outcomes
/-!
# How a growing session cuts its rows

Where child columns grow for a record, no record is put off, so a batch is offered only when it is full
and once more at the end. What holds between two steps (`Level`) is that every batch taken was full;
each step keeps that, or ends the session with one smaller batch behind the full ones, or fails and
delivers nothing short (`cut_step`). The sizes of all batches follow from the number of records alone
(`batches_cut_evenly`).
-/

set_option autoImplicit false

namespace Columnar

/-- Batches have as many rows together as their sizes add up to. -/
theorem length_rowsOf (batches : List RecordBatch) :
    (rowsOf batches).length = (batches.map RecordBatch.size).sum := by
  rw [rowsOf, List.length_flatMap]
  simp only [RecordBatch.length_rows]

/-- A session never has more rows in its batch than the capacity that its options ask for. -/
theorem Session.Stands.size_le {type : DataType} {options : Options} {written : List Json.Members}
    {session : Session} (stands : session.Stands type options written) :
    session.batch.size ≤ options.capacity := by
  rw [← stands.keeps.capacity_eq]
  exact stands.keeps.shaped.size_le

/-- Only a session that says so has no room left. -/
theorem Session.Stands.size_lt {type : DataType} {options : Options} {written : List Json.Members}
    {session : Session} (stands : session.Stands type options written)
    (phase : session.phase ≠ .batchFull) : session.batch.size < options.capacity := by
  rw [← stands.keeps.capacity_eq]
  exact (RecordEncoder.isFull_eq_false stands.keeps.shaped).mp (stands.keeps.isFull_eq_false phase)

/-- A session that says that its batch is full has as many rows in it as its options ask for. -/
theorem Session.Stands.size_eq {type : DataType} {options : Options} {written : List Json.Members}
    {session : Session} (stands : session.Stands type options written)
    (phase : session.phase = .batchFull) : session.batch.size = options.capacity := by
  rw [← stands.keeps.capacity_eq]
  exact beq_iff_eq.mp (stands.full phase)

namespace Pipeline

variable {σ τ : Type} {type : DataType} {options : Options} {written : List Json.Members}

/-! ### What each step does to the batches taken -/

/-- A session between two steps: the batches that were taken are full, and counted. -/
structure Level (type : DataType) (options : Options)
    (pipeline : Pipeline σ (τ × List RecordBatch)) : Prop where
  stands : ∃ written, pipeline.session.Stands type options written
  full : ∀ batch ∈ pipeline.consumer.2, batch.size = options.capacity
  counted : pipeline.session.totals.batches = pipeline.consumer.2.length
  awake : pipeline.session.phase ≠ .drained

/-- A session that has come to its end: behind the full batches at most one was taken that has fewer
rows, and none is left. -/
structure Closed (options : Options) (pipeline : Pipeline σ (τ × List RecordBatch)) : Prop where
  taken : ∃ (full : List RecordBatch) (last : Option RecordBatch),
    pipeline.consumer.2 = full ++ last.toList ∧
      (∀ batch ∈ full, batch.size = options.capacity) ∧
      ∀ batch ∈ last, 0 < batch.size ∧ batch.size < options.capacity
  counted : pipeline.session.totals.batches = pipeline.consumer.2.length
  drained : pipeline.session.phase = .drained
  empty : pipeline.session.batch.size = 0

/-- The outcomes of an attempt of a growing session. -/
inductive Cut (type : DataType) (options : Options) :
    Attempt (Pipeline σ (τ × List RecordBatch)) → Prop
  | goes (next : Pipeline σ (τ × List RecordBatch)) (level : next.Level type options) :
      Cut type options (.ok next)
  | closes (next : Pipeline σ (τ × List RecordBatch)) (closed : next.Closed options) :
      Cut type options (.ok next)
  | fails (next : Pipeline σ (τ × List RecordBatch)) (failure : Failure)
      (full : ∀ batch ∈ next.consumer.2, batch.size = options.capacity)
      (size_le : next.session.batch.size ≤ options.capacity) :
      Cut type options (.failed next failure)

/-- The outcomes of handing a batch over to a consumer that notes what it took. -/
inductive Delivered (pipeline : Pipeline σ (τ × List RecordBatch)) :
    Attempt (Pipeline σ (τ × List RecordBatch)) → Prop
  | taken (next : Pipeline σ (τ × List RecordBatch))
      (session : next.session = pipeline.session.handedOver)
      (noted : next.consumer.2 = pipeline.consumer.2 ++ [pipeline.session.batch]) :
      Delivered pipeline (.ok next)
  | refused (next : Pipeline σ (τ × List RecordBatch)) (failure : Failure)
      (session : next.session = pipeline.session)
      (noted : next.consumer.2 = pipeline.consumer.2) :
      Delivered pipeline (.failed next failure)

/-- A consumer that notes what it took notes the batch if it takes it, and nothing otherwise. -/
theorem delivered_handOver (consumer : Consumer τ)
    (pipeline : Pipeline σ (τ × List RecordBatch)) :
    Delivered pipeline (pipeline.handOver consumer.recorded) := by
  have handed := handed_handOver consumer.recorded pipeline
  generalize pipeline.handOver consumer.recorded = attempt at handed
  cases handed with
  | taken next accepted consumed session =>
    have accepts : (consumer.accept pipeline.session.batch pipeline.consumer.1).failure = none :=
      accepted
    refine .taken next session ?_
    rw [consumed]
    simp [Consumer.recorded, accepts]
  | refused next cause unaccepted consumed session =>
    have refuses : (consumer.accept pipeline.session.batch pipeline.consumer.1).failure =
      some cause := unaccepted
    refine .refused next _ session ?_
    rw [consumed]
    simp [Consumer.recorded, refuses]

variable {pipeline : Pipeline σ (τ × List RecordBatch)}

/-- The last batch is handed over if it has rows. -/
theorem cut_finish (consumer : Consumer τ) (level : pipeline.Level type options)
    (phase : pipeline.session.phase = .awaitingRecord) :
    Cut type options (settled (pipeline.finish consumer.recorded)) := by
  obtain ⟨written, stands⟩ := level.stands
  have room := stands.size_lt (by rw [phase]; nofun)
  rw [finish_eq]
  cases empty : pipeline.session.batch.isEmpty with
  | true =>
    refine .closes pipeline.ended ⟨⟨pipeline.consumer.2, none, ?_, level.full, nofun⟩, level.counted,
      rfl, beq_iff_eq.mp empty⟩
    exact (List.append_nil _).symm
  | false =>
    have positive : 0 < pipeline.session.batch.size :=
      Nat.pos_of_ne_zero (beq_eq_false_iff_ne.mp empty)
    have delivered := delivered_handOver consumer pipeline
    simp only [Bool.false_eq_true, if_false]
    generalize pipeline.handOver consumer.recorded = attempt at delivered
    cases delivered with
    | taken next session noted =>
      refine .closes next.ended ⟨⟨_, some pipeline.session.batch, noted, level.full, ?_⟩, ?_, rfl, ?_⟩
      · rintro batch ⟨⟩
        exact ⟨positive, room⟩
      · show next.session.totals.batches = next.consumer.2.length
        rw [session, noted, List.length_append, ← level.counted]
        rfl
      · show next.session.batch.size = 0
        rw [session]
        rfl
    | refused next failure session noted =>
      refine .fails _ failure ?_ ?_
      · show ∀ batch ∈ next.consumer.2, _
        rw [noted]
        exact level.full
      · show next.session.batch.size ≤ _
        rw [session]
        exact Nat.le_of_lt room

/-- A poll leaves the batches taken as they are, unless the feed is exhausted. Then the last batch
is handed over, which has room still, and the session is closed. -/
theorem cut_awaitRecord (feed : Feed σ) (consumer : Consumer τ) (level : pipeline.Level type options)
    (phase : pipeline.session.phase = .awaitingRecord) :
    Cut type options (settled (pipeline.awaitRecord feed consumer.recorded)) := by
  obtain ⟨written, stands⟩ := level.stands
  have idle : pipeline.session.phase.pending = [] := by rw [phase]; rfl
  have room := stands.keeps.isFull_eq_false (by rw [phase]; nofun)
  have awaited := awaited_awaitRecord feed consumer.recorded pipeline
  generalize nextVerdict feed pipeline.session.options pipeline.feed = judged at awaited
  generalize pipeline.awaitRecord feed consumer.recorded = attempt at awaited
  cases awaited with
  | stop =>
    have polled : (pipeline.polled feed).Level type options :=
      ⟨level.stands, level.full, level.counted, level.awake⟩
    exact cut_finish consumer polled phase
  | take pending =>
    exact .goes _ ⟨⟨written, stands.keeps.converting idle room pending, nofun⟩, level.full,
      level.counted, nofun⟩
  | leaveOut event =>
    exact .goes _ ⟨⟨written, stands.keeps.countSkipped, stands.full⟩, level.full, level.counted,
      level.awake⟩
  | fail failure next session consumed fed =>
    refine .fails _ failure ?_ ?_
    · show ∀ batch ∈ next.consumer.2, _
      rw [consumed]
      exact level.full
    · show next.session.batch.size ≤ _
      rw [session]
      exact stands.size_le

/-- Where child columns may grow, a record is written or refused, and no batch is offered for it. -/
theorem cut_convertRow (consumer : Consumer τ) (grows : options.onOverflow = .grow)
    (level : pipeline.Level type options) {pending : PendingRecord}
    (phase : pipeline.session.phase = .convertingRow pending) :
    Cut type options (settled (pipeline.convertRow consumer.recorded pending)) := by
  obtain ⟨written, stands⟩ := level.stands
  cases failed : (pipeline.session.trial pending).failure with
  | none =>
    rw [convertRow_of_trial consumer.recorded failed]
    refine .goes _ ⟨⟨_, stands_rowCommitted (stands.keeps.committed phase failed)⟩, level.full,
      level.counted, ?_⟩
    simp only [withSession, Session.rowCommitted]
    split <;> simp
  | some failure =>
    have final : ¬pipeline.session.Overflows pending := by
      rintro ⟨defers, -⟩
      rw [stands.keeps.options_eq, grows] at defers
      cases defers
    rw [convertRow_of_final consumer.recorded failed final]
    refine .fails _ failure level.full ?_
    have size : (pipeline.session.trial pending).state.size = pipeline.session.batch.size :=
      RecordEncoder.size_write_of_failure _ _ _ _ failed
    show (pipeline.session.trial pending).state.size ≤ _
    rw [size]
    exact stands.size_le

/-- A full batch that is taken is one more full batch among those taken. -/
theorem cut_handOverFull (consumer : Consumer τ) (level : pipeline.Level type options)
    (phase : pipeline.session.phase = .batchFull) :
    Cut type options (settled (pipeline.handOverFull consumer.recorded)) := by
  obtain ⟨written, stands⟩ := level.stands
  have idle : pipeline.session.phase.pending = [] := by rw [phase]; rfl
  have delivered := delivered_handOver consumer pipeline
  unfold handOverFull
  generalize pipeline.handOver consumer.recorded = attempt at delivered
  cases delivered with
  | taken next session noted =>
    obtain ⟨keeps, room⟩ := stands_handedOver stands.keeps
    refine .goes _ ⟨⟨[], ?_, nofun⟩, ?_, ?_, nofun⟩
    · show (next.session.withPhase .awaitingRecord).Keeps type options []
      rw [session]
      exact keeps.withPhase idle room rfl
    · show ∀ batch ∈ next.consumer.2, _
      rw [noted]
      intro batch among
      rcases List.mem_append.mp among with early | last
      · exact level.full batch early
      · rw [List.mem_singleton.mp last]
        exact stands.size_eq phase
    · show next.session.totals.batches = next.consumer.2.length
      rw [session, noted, List.length_append, ← level.counted]
      rfl
  | refused next failure session noted =>
    refine .fails _ failure ?_ ?_
    · show ∀ batch ∈ next.consumer.2, _
      rw [noted]
      exact level.full
    · show next.session.batch.size ≤ _
      rw [session]
      exact stands.size_le

/-- A step of a growing session that is under way. -/
theorem cut_step (feed : Feed σ) (consumer : Consumer τ) (grows : options.onOverflow = .grow)
    (level : pipeline.Level type options) :
    Cut type options (pipeline.step feed consumer.recorded) := by
  rw [step_eq]
  unfold transition
  cases phase : pipeline.session.phase with
  | awaitingRecord => exact cut_awaitRecord feed consumer level phase
  | convertingRow pending => exact cut_convertRow consumer grows level phase
  | batchFull => exact cut_handOverFull consumer level phase
  | drained => exact absurd phase level.awake

/-- Any number of steps of a growing session that is under way. -/
theorem cut_steps (feed : Feed σ) (consumer : Consumer τ) (grows : options.onOverflow = .grow)
    (n : Nat) : ∀ {pipeline : Pipeline σ (τ × List RecordBatch)}, pipeline.Level type options →
      Cut type options (pipeline.steps feed consumer.recorded n) := by
  induction n with
  | zero => exact fun level => .goes _ level
  | succ n ih =>
    intro pipeline level
    have cut := cut_step feed consumer grows level
    rw [steps]
    generalize pipeline.step feed consumer.recorded = attempt at cut
    cases cut with
    | goes next level => exact ih level
    | closes next closed =>
      rw [Attempt.andThen_ok, steps_of_drained closed.drained]
      exact .closes next closed
    | fails next failure full size_le => exact .fails next failure full size_le

end Pipeline

/-! ### The sizes of all batches -/

/-- Parts of one size and a smaller one behind them, if any, are settled by their sum. -/
theorem sizes_eq_of_cut {capacity : Nat} {full : List RecordBatch} {last : Option RecordBatch}
    (level : ∀ batch ∈ full, batch.size = capacity)
    (small : ∀ batch ∈ last, 0 < batch.size ∧ batch.size < capacity) (count : Nat)
    (sum : ((full ++ last.toList).map RecordBatch.size).sum = count) (positive : 0 < capacity) :
    (full ++ last.toList).map RecordBatch.size =
        List.replicate (count / capacity) capacity ++
          (if count % capacity = 0 then [] else [count % capacity]) ∧
      (full ++ last.toList).length = (count + capacity - 1) / capacity := by
  have sizes : full.map RecordBatch.size = List.replicate full.length capacity := by
    rw [List.eq_replicate_iff]
    refine ⟨List.length_map _, ?_⟩
    intro size among
    obtain ⟨batch, inside, rfl⟩ := List.mem_map.mp among
    exact level batch inside
  rw [List.map_append, sizes, List.sum_append, List.sum_replicate_nat] at sum
  -- The sum is a multiple of the capacity, and what the last batch adds is the remainder.
  cases last with
  | none =>
    have whole : count = capacity * full.length := by
      rw [← sum, Nat.mul_comm]
      rfl
    have ceiling : (capacity * full.length + capacity - 1) / capacity = full.length := by
      rw [Nat.add_sub_assoc positive, Nat.mul_add_div positive,
        Nat.div_eq_of_lt (Nat.sub_lt positive Nat.one_pos), Nat.add_zero]
    rw [whole, Nat.mul_div_cancel_left _ positive, Nat.mul_mod_right, ceiling]
    simp [sizes]
  | some batch =>
    obtain ⟨some_row, below⟩ := small batch rfl
    have whole : count = capacity * full.length + batch.size := by
      rw [← sum, Nat.mul_comm]
      rfl
    have quotient : count / capacity = full.length := by
      rw [whole, Nat.mul_add_div positive, Nat.div_eq_of_lt below, Nat.add_zero]
    have remainder : count % capacity = batch.size := by
      rw [whole, Nat.mul_add_mod, Nat.mod_eq_of_lt below]
    have ceiling : (count + capacity - 1) / capacity = full.length + 1 := by
      have split : count + capacity - 1 = capacity * (full.length + 1) + (batch.size - 1) := by
        rw [whole, Nat.mul_add]
        omega
      rw [split, Nat.mul_add_div positive, Nat.div_eq_of_lt (by omega), Nat.add_zero]
    rw [quotient, remainder, if_neg (Nat.ne_of_gt some_row), ceiling]
    simp [sizes]

/-- Where a session has ended, the objects polled settle the batches that were taken. -/
theorem Pipeline.Closed.evenly {σ τ : Type} {type : DataType} {options : Options}
    {pipeline : Pipeline (σ × List Polled) (τ × List RecordBatch)}
    (closed : pipeline.Closed options) (conserves : pipeline.Conserves type options)
    (positive : 0 < options.capacity) :
    let records := objectsOf pipeline.feed.2
    let count := records.length
    rowsOf pipeline.consumer.2 =
        (records.map fun record => Column.stored options.onCellFailure type (.object record)) ∧
      pipeline.consumer.2.map RecordBatch.size =
        List.replicate (count / options.capacity) options.capacity ++
          (if count % options.capacity = 0 then [] else [count % options.capacity]) ∧
      pipeline.session.totals.batches = (count + options.capacity - 1) / options.capacity ∧
      pipeline.session.totals.records = count := by
  obtain ⟨records, objects, accounts⟩ := conserves
  have all : objectsOf pipeline.feed.2 = records := by
    rw [objects, closed.drained]
    exact List.append_nil records
  have rows : rowsOf pipeline.consumer.2 =
      records.map (storedRecord options.onCellFailure type) := by
    have total := Session.Accounts.rows_eq accounts
    have none : pipeline.session.batch.rows = [] := by
      rw [← List.length_eq_zero_iff, RecordBatch.length_rows, closed.empty]
    rw [none, List.append_nil] at total
    exact total
  have count : (pipeline.consumer.2.map RecordBatch.size).sum = records.length := by
    rw [← length_rowsOf, rows, List.length_map]
  obtain ⟨full, last, parts, level, small⟩ := closed.taken
  rw [parts] at count
  obtain ⟨sizes, batches⟩ := sizes_eq_of_cut level small _ count positive
  simp only [all]
  refine ⟨rows, ?_, ?_, ?_⟩
  · rw [parts]
    exact sizes
  · rw [closed.counted, parts]
    exact batches
  · rw [accounts.counted, rows, List.length_map]

/-- How a growing session cuts its rows. A session is observed for any number of steps, which changes
nothing about them. If it has ended without a failure, the objects polled are all rows that were
taken, in order; the batches taken have as many rows as fit, but for a last one with the rest, if there
is a rest; and they and their rows are counted. If it has failed, the batches taken were all full, and
no more rows are left in its batch than fit. -/
theorem batches_cut_evenly {σ τ : Type} {type : DataType} (valid : type.validateRoot = .ok ())
    (options : Options) (grows : options.onOverflow = .grow) (positive : 0 < options.capacity)
    (feed : Feed σ) (consumer : Consumer τ) (given : σ) (consumed : τ) (n : Nat) :
    ∃ session, Session.start type options = .ok session ∧
      let plain := (Pipeline.mk session given consumed []).steps feed consumer n
      let observed := (Pipeline.mk session (given, []) (consumed, []) []).steps feed.recorded
        consumer.recorded n
      let taken := observed.state.consumer.2
      observed.map Pipeline.forget = plain ∧
        (plain.failure = none → plain.state.session.phase = .drained →
          let records := objectsOf observed.state.feed.2
          let count := records.length
          rowsOf taken =
              (records.map fun record =>
                Column.stored options.onCellFailure type (.object record)) ∧
            taken.map RecordBatch.size =
              List.replicate (count / options.capacity) options.capacity ++
                (if count % options.capacity = 0 then [] else [count % options.capacity]) ∧
            plain.state.session.totals.batches = (count + options.capacity - 1) / options.capacity ∧
            plain.state.session.totals.records = count) ∧
        (plain.failure ≠ none → (∀ batch ∈ taken, batch.size = options.capacity) ∧
          plain.state.session.batch.size ≤ options.capacity) := by
  obtain ⟨session, started, keeps, phase, totals⟩ := Session.exists_keeps_start valid positive
  refine ⟨session, started, ?_⟩
  intro plain observed taken
  have same : observed.map Pipeline.forget = plain :=
    Pipeline.steps_recorded feed consumer n ⟨session, (given, []), (consumed, []), []⟩
  let new : Pipeline (σ × List Polled) (τ × List RecordBatch) :=
    ⟨session, (given, []), (consumed, []), []⟩
  have level : new.Level type options := by
    refine ⟨⟨[], keeps, by rw [phase]; nofun⟩, nofun, ?_, ?_⟩
    · rw [totals]
      rfl
    · rw [phase]
      nofun
  have begun : new.Conserves type options := by
    refine ⟨[], ?_, ⟨[], keeps, rfl⟩, ?_⟩
    · rw [phase]
      rfl
    · rw [totals]
      rfl
  have cut : Pipeline.Cut type options observed :=
    Pipeline.cut_steps feed.recorded consumer grows n level
  have conserved : observed.failure = none → observed.state.Conserves type options :=
    Pipeline.conserves_steps feed consumer n begun
  rw [← same]
  refine ⟨rfl, ?_⟩
  simp only [taken]
  generalize observed = attempt at cut conserved
  cases cut with
  | goes next level' =>
    exact ⟨fun _ drained => absurd drained level'.awake, fun failed => absurd rfl failed⟩
  | closes next closed =>
    exact ⟨fun _ _ => closed.evenly (conserved rfl) positive, fun failed => absurd rfl failed⟩
  | fails next failure full size_le =>
    exact ⟨fun clean => absurd clean (Option.some_ne_none failure), fun _ => ⟨full, size_le⟩⟩

/-- Three objects, with a number among them that is left out, in batches of two rows. -/
theorem batches_cut_evenly_values :
    let type := DataType.struct .default [("a", .ofPrimitive (.integer .regular))]
    let options : Options := ⟨2, .skip, .skip, .abort, .grow⟩
    let session : Session := ⟨⟨type, .abort⟩, options,
      ⟨type, 2, 0, Column.allocateFields 2 type.fields⟩, .awaitingRecord, .zero⟩
    let consumer : Consumer Nat := ⟨fun _ taken => .ok (taken + 1)⟩
    let values := ValueQueue.ofList
      [.object [("a", .int 1)], .int 7, .object [("a", .int 2)], .object [("a", .int 3)]]
    let plain := (Pipeline.mk session values 0 []).steps ValueQueue.feed.toFeed consumer 9
    let observed := (Pipeline.mk session (values, []) (0, []) []).steps
      ValueQueue.feed.toFeed.recorded consumer.recorded 9
    Session.start type options = .ok session ∧ plain.failure = none ∧
      plain.state.session.phase.isDrained = true ∧
      observed.state.consumer.2.map RecordBatch.size = [2, 1] ∧
      plain.state.session.totals.batches = 2 ∧ plain.state.session.totals.records = 3 := by
  intro type options session consumer values plain observed
  have valid : type.validateRoot = .ok () := rfl
  have start : Session.start type options = .ok session := rfl
  have clean : plain.failure = none := by decide +kernel
  have ends : plain.state.session.phase.isDrained = true := by decide +kernel
  have drained : plain.state.session.phase = .drained := Phase.isDrained_iff.mp ends
  have count : (objectsOf observed.state.feed.2).length = 3 := by decide +kernel
  obtain ⟨started, begun, -, ended, -⟩ := batches_cut_evenly valid options rfl Nat.two_pos
    ValueQueue.feed.toFeed consumer values 0 9
  cases start.symm.trans begun
  simp only [plain, observed] at clean ends drained count ⊢
  obtain ⟨-, sizes, batches, records⟩ := ended clean drained
  rw [count, show options.capacity = 2 from rfl] at sizes batches
  rw [count] at records
  exact ⟨start, clean, ends, sizes, batches, records⟩

end Columnar
