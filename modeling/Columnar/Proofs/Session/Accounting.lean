import Columnar.Proofs.RecordBatch.ExactIndex
import Columnar.Proofs.Session.Recording
/-!
# What a session keeps account of

Between two steps the rows that the consumer took, and after them the rows of the batch, are the
records that became rows, as they are stored (`Session.Accounts`). Each transition is described here
once by what it does to that account: handing a batch over moves rows to the consumer, a record that
is written is the next row, and a record that is put off, or tried a second time, is not lost.
-/

set_option autoImplicit false

namespace Columnar

open Column (VacantFields)
open RecordBatch (Shaped Stores)

/-- The record that a phase holds, if any. -/
def Phase.pending : Phase → List Json.Members
  | .convertingRow pending => [pending.record]
  | _ => []

/-- Whether child columns may grow between two steps. -/
def Options.growsChildren (options : Options) : Bool :=
  decide (options.onOverflow = .grow)

/-- Child columns are fixed between two steps exactly when records that find no room are put off. -/
theorem Options.growsChildren_eq_false_iff (options : Options) :
    options.growsChildren = false ↔ options.onOverflow = .defer := by
  unfold growsChildren
  cases options.onOverflow <;> simp

/-- The rows of batches, one batch after the other. -/
def rowsOf (batches : List RecordBatch) : List Json :=
  batches.flatMap RecordBatch.rows

namespace Session

/-- A session whose batch stores records, with the record that it holds as the one due. Nothing but
these records has taken child slots. -/
structure Keeps (type : DataType) (options : Options) (written : List Json.Members)
    (session : Session) : Prop where
  encoder_eq : session.encoder = ⟨type, options.onCellFailure⟩
  options_eq : session.options = options
  shaped : Shaped options.growsChildren type session.batch
  capacity_eq : session.batch.capacity = options.capacity
  positive : 0 < session.batch.capacity
  room : session.phase = .batchFull ∨ session.batch.isFull = false
  stores : ∃ origins, VacantFields origins ∧
    Stores options.onCellFailure origins written session.phase.pending session.batch

/-- The rows that a consumer took from a session and those of its batch are some rows in order, and
the ones taken are counted. -/
structure Accounts (type : DataType) (options : Options) (rows : List Json)
    (taken : List RecordBatch) (session : Session) : Prop where
  keeps : ∃ written, session.Keeps type options written ∧
    rowsOf taken ++ written.map (storedRecord options.onCellFailure type) = rows
  counted : session.totals.records = (rowsOf taken).length

variable {type : DataType} {options : Options} {written : List Json.Members} {session : Session}
  {rows : List Json} {taken : List RecordBatch}

/-- The rows that an account speaks of can be read back: those taken are in the batches taken, the
others in the batch of the session. -/
theorem Accounts.rows_eq (accounts : session.Accounts type options rows taken) :
    rowsOf taken ++ session.batch.rows = rows := by
  obtain ⟨written, keeps, total⟩ := accounts.keeps
  obtain ⟨origins, -, stores⟩ := keeps.stores
  rw [stores.rows_eq keeps.shaped, total]

/-- Only a session that says so has a full batch. -/
theorem Keeps.isFull_eq_false (keeps : session.Keeps type options written)
    (phase : session.phase ≠ .batchFull) : session.batch.isFull = false := by
  obtain full | room := keeps.room
  · exact absurd full phase
  · exact room

/-- Nor has a session that keeps an account a full batch, unless it says so. -/
theorem Accounts.isFull_eq_false (accounts : session.Accounts type options rows taken)
    (phase : session.phase ≠ .batchFull) : session.batch.isFull = false := by
  obtain ⟨⟨written, keeps, -⟩, -⟩ := accounts
  exact keeps.isFull_eq_false phase

/-- A session starts with an empty batch. -/
theorem exists_keeps_start (valid : type.validateRoot = .ok ()) (positive : 0 < options.capacity) :
    ∃ session, start type options = .ok session ∧ session.Keeps type options [] ∧
      session.phase = .awaitingRecord ∧ session.totals = .zero := by
  obtain ⟨batch, allocated, shaped, empty, capacity, free⟩ :=
    RecordBatch.exists_allocate valid positive
  have typed : RecordEncoder.ofType type options.onCellFailure =
      .ok ⟨type, options.onCellFailure⟩ := by
    rw [RecordEncoder.ofType, valid]
    rfl
  have stores : Stores options.onCellFailure batch.columns [] [] batch :=
    RecordBatch.stores_nil shaped empty free []
  -- Whether the policy fixes the children or not, the session begins with an empty batch.
  have first : ∃ begun : RecordBatch,
      begun = (if options.onOverflow = .defer then batch.setGrowable false else batch) ∧
      Shaped options.growsChildren type begun ∧ begun.size = 0 ∧
      begun.capacity = options.capacity ∧
      Stores options.onCellFailure batch.columns [] [] begun := by
    by_cases defers : options.onOverflow = .defer
    · rw [(options.growsChildren_eq_false_iff).mpr defers, if_pos defers]
      exact ⟨_, rfl, shaped.setGrowable false, empty, capacity, stores.setGrowable shaped false⟩
    · have grows : options.growsChildren = true := by
        rw [← Bool.not_eq_false, options.growsChildren_eq_false_iff]
        exact defers
      rw [grows, if_neg defers]
      exact ⟨_, rfl, shaped, empty, capacity, stores⟩
  obtain ⟨begun, same, shaped', empty', capacity', stores'⟩ := first
  have room : begun.isFull = false := by
    rw [RecordEncoder.isFull_eq_false shaped', empty', capacity']
    exact positive
  refine ⟨⟨⟨type, options.onCellFailure⟩, options, begun, .awaitingRecord, .zero⟩, ?_, ?_, rfl, rfl⟩
  · rw [start, typed, same]
    simp only [bind, Except.bind, RecordEncoder.allocateBatch, allocated]
    rfl
  · refine ⟨rfl, rfl, shaped', capacity', ?_, .inr room, _,
      RecordBatch.vacantFields_of_allocate allocated, stores'⟩
    rw [capacity']
    exact positive

/-- A session starts, and keeps an account of no rows. -/
theorem exists_start (valid : type.validateRoot = .ok ()) (positive : 0 < options.capacity) :
    ∃ session, start type options = .ok session ∧ session.Accounts type options [] [] ∧
      session.phase = .awaitingRecord ∧ session.totals = .zero := by
  obtain ⟨session, started, keeps, phase, totals⟩ := exists_keeps_start valid positive
  refine ⟨session, started, ⟨⟨[], keeps, rfl⟩, ?_⟩, phase, totals⟩
  rw [totals]
  rfl

/-! ### What transitions do to a session -/

/-- A session whose batch the consumer took has an empty batch, and the record that it holds is still
due. -/
theorem Keeps.handedOver (keeps : session.Keeps type options written) :
    session.handedOver.Keeps type options [] := by
  refine ⟨keeps.encoder_eq, keeps.options_eq, keeps.shaped.reset, keeps.capacity_eq, keeps.positive,
    .inr ?_, _, Column.vacantFields_reset session.batch.columns,
    RecordBatch.stores_reset keeps.shaped session.phase.pending⟩
  exact (RecordEncoder.isFull_eq_false keeps.shaped.reset).mpr keeps.positive

/-- A session that holds no record may go to a phase without one, if its batch has room there. -/
theorem Keeps.withPhase (keeps : session.Keeps type options written)
    (idle : session.phase.pending = []) (room : session.batch.isFull = false) {phase : Phase}
    (stays : phase.pending = []) : (session.withPhase phase).Keeps type options written := by
  obtain ⟨origins, vacant, stores⟩ := keeps.stores
  refine ⟨keeps.encoder_eq, keeps.options_eq, keeps.shaped, keeps.capacity_eq, keeps.positive,
    .inr room, origins, vacant, ?_⟩
  rw [idle] at stores
  simp only [Session.withPhase, stays]
  exact stores

/-- A record that was polled is due. -/
theorem Keeps.converting (keeps : session.Keeps type options written)
    (idle : session.phase.pending = []) (room : session.batch.isFull = false)
    (pending : PendingRecord) :
    (session.withPhase (.convertingRow pending)).Keeps type options written := by
  obtain ⟨origins, vacant, stores⟩ := keeps.stores
  rw [idle] at stores
  exact ⟨keeps.encoder_eq, keeps.options_eq, keeps.shaped, keeps.capacity_eq, keeps.positive,
    .inr room, origins, vacant, stores.extend [pending.record]⟩

/-- To leave out a piece of input touches neither the batch nor the record that is held. -/
theorem Keeps.countSkipped (keeps : session.Keeps type options written) :
    session.countSkipped.Keeps type options written :=
  ⟨keeps.encoder_eq, keeps.options_eq, keeps.shaped, keeps.capacity_eq, keeps.positive, keeps.room,
    keeps.stores⟩

/-- A batch that stores one record more is that of a session that has committed the record. -/
theorem Keeps.rowCommitted (keeps : session.Keeps type options written) {batch : RecordBatch}
    {origins : List (String × Column)} {records : List Json.Members}
    (shaped : Shaped options.growsChildren type batch)
    (capacity_eq : batch.capacity = session.batch.capacity) (vacant : VacantFields origins)
    (stores : Stores options.onCellFailure origins records [] batch) :
    (session.rowCommitted batch).Keeps type options records := by
  have idle : (session.rowCommitted batch).phase.pending = [] := by
    cases full : batch.isFull <;> simp [Session.rowCommitted, full, Phase.pending]
  refine ⟨keeps.encoder_eq, keeps.options_eq, shaped, capacity_eq.trans keeps.capacity_eq, ?_, ?_,
    origins, vacant, ?_⟩
  · exact Nat.lt_of_lt_of_eq keeps.positive capacity_eq.symm
  · cases full : batch.isFull <;> simp [Session.rowCommitted, full]
  · rw [idle]
    exact stores

/-- Handing a batch over moves its rows to the consumer. -/
theorem Accounts.handedOver (accounts : session.Accounts type options rows taken) :
    session.handedOver.Accounts type options rows (taken ++ [session.batch]) := by
  obtain ⟨⟨written, keeps, total⟩, counted⟩ := accounts
  obtain ⟨origins, -, stores⟩ := keeps.stores
  have more : rowsOf (taken ++ [session.batch]) =
      rowsOf taken ++ written.map (storedRecord options.onCellFailure type) := by
    rw [rowsOf, List.flatMap_append, List.flatMap_singleton, stores.rows_eq keeps.shaped, rowsOf]
  refine ⟨⟨[], keeps.handedOver, ?_⟩, ?_⟩
  · rw [more, List.map_nil, List.append_nil, total]
  · rw [more, List.length_append, List.length_map, ← stores.size_eq, ← counted]
    rfl

/-- A session that holds no record may change to any phase that holds none, as far as its account
goes. -/
theorem Accounts.withPhase (accounts : session.Accounts type options rows taken)
    (idle : session.phase.pending = []) (room : session.batch.isFull = false) {phase : Phase}
    (stays : phase.pending = []) :
    (session.withPhase phase).Accounts type options rows taken := by
  obtain ⟨⟨written, keeps, total⟩, counted⟩ := accounts
  exact ⟨⟨written, keeps.withPhase idle room stays, total⟩, counted⟩

/-- A session with room may hold the record that it polled. That record is not a row yet, so the
rows of the account stay the same. -/
theorem Accounts.converting (accounts : session.Accounts type options rows taken)
    (idle : session.phase.pending = []) (room : session.batch.isFull = false)
    (pending : PendingRecord) :
    (session.withPhase (.convertingRow pending)).Accounts type options rows taken := by
  obtain ⟨⟨written, keeps, total⟩, counted⟩ := accounts
  exact ⟨⟨written, keeps.converting idle room pending, total⟩, counted⟩

/-- What is left out is no row, so it does not show in the account. -/
theorem Accounts.countSkipped (accounts : session.Accounts type options rows taken) :
    session.countSkipped.Accounts type options rows taken := by
  obtain ⟨⟨written, keeps, total⟩, counted⟩ := accounts
  exact ⟨⟨written, keeps.countSkipped, total⟩, counted⟩

end Session

namespace Pipeline

variable {σ τ : Type} {type : DataType} {options : Options} {rows : List Json}

/-- The account that a pipeline with notes of its consumer keeps. -/
def Accounts (type : DataType) (options : Options) (rows : List Json)
    (pipeline : Pipeline σ (τ × List RecordBatch)) : Prop :=
  pipeline.session.Accounts type options rows pipeline.consumer.2

/-- The rows that the consumer took, and after them those of the batch. -/
def allRows (pipeline : Pipeline σ (τ × List RecordBatch)) : List Json :=
  rowsOf pipeline.consumer.2 ++ pipeline.session.batch.rows

/-- The outcomes of handing a batch over. -/
inductive Handed (consumer : Consumer τ) (pipeline : Pipeline σ τ) :
    Attempt (Pipeline σ τ) → Prop
  | taken (next : Pipeline σ τ)
      (accepted : (consumer.accept pipeline.session.batch pipeline.consumer).failure = none)
      (consumed : next.consumer =
        (consumer.accept pipeline.session.batch pipeline.consumer).state)
      (session : next.session = pipeline.session.handedOver) :
      Handed consumer pipeline (.ok next)
  | refused (next : Pipeline σ τ) (cause : Failure)
      (unaccepted : (consumer.accept pipeline.session.batch pipeline.consumer).failure = some cause)
      (consumed : next.consumer =
        (consumer.accept pipeline.session.batch pipeline.consumer).state)
      (session : next.session = pipeline.session) :
      Handed consumer pipeline (.failed next cause.ofConsumer)

/-- Handing the batch over has no other outcomes than these two, and what the consumer answers
decides between them. -/
theorem handed_handOver (consumer : Consumer τ) (pipeline : Pipeline σ τ) :
    Handed consumer pipeline (pipeline.handOver consumer) := by
  unfold handOver
  simp only [report]
  cases accepted : (consumer.accept pipeline.session.batch pipeline.consumer).failure with
  | none => exact .taken _ accepted rfl rfl
  | some cause => exact .refused _ cause accepted rfl rfl

/-- A session whose batch was taken goes on with an empty one. -/
theorem session_handOver (consumer : Consumer τ) (pipeline : Pipeline σ τ)
    (clean : (pipeline.handOver consumer).failure = none) :
    (pipeline.handOver consumer).state.session = pipeline.session.handedOver := by
  have handed := handed_handOver consumer pipeline
  generalize pipeline.handOver consumer = attempt at handed clean ⊢
  cases handed with
  | taken next accepted consumed session => exact session
  | refused next cause unaccepted consumed session => cases clean

/-- A batch that was handed over is noted with the consumer, and the session is empty. -/
theorem handOver_of_clean (consumer : Consumer τ) (pipeline : Pipeline σ (τ × List RecordBatch))
    (clean : (pipeline.handOver consumer.recorded).failure = none) :
    (pipeline.handOver consumer.recorded).state.session = pipeline.session.handedOver ∧
      (pipeline.handOver consumer.recorded).state.consumer.2 =
        pipeline.consumer.2 ++ [pipeline.session.batch] := by
  refine ⟨session_handOver consumer.recorded pipeline clean, ?_⟩
  have handed := handed_handOver consumer.recorded pipeline
  generalize pipeline.handOver consumer.recorded = attempt at handed clean ⊢
  cases handed with
  | taken next accepted consumed session =>
    have taken : (consumer.accept pipeline.session.batch pipeline.consumer.1).failure = none :=
      accepted
    rw [Attempt.state_ok, consumed]
    simp [Consumer.recorded, taken]
  | refused next cause unaccepted consumed session => cases clean

/-- What handing a batch over leaves, if the consumer takes it. -/
theorem accounts_handOver (consumer : Consumer τ) {pipeline : Pipeline σ (τ × List RecordBatch)}
    (accounts : pipeline.Accounts type options rows)
    (clean : (pipeline.handOver consumer.recorded).failure = none) :
    (pipeline.handOver consumer.recorded).state.Accounts type options rows ∧
      (pipeline.handOver consumer.recorded).state.session.batch.isFull = false := by
  obtain ⟨session, consumed⟩ := handOver_of_clean consumer pipeline clean
  rw [Accounts, session, consumed]
  refine ⟨Session.Accounts.handedOver accounts, ?_⟩
  obtain ⟨⟨written, keeps, -⟩, -⟩ := accounts
  exact (RecordEncoder.isFull_eq_false keeps.shaped.reset).mpr keeps.positive

end Pipeline

end Columnar
