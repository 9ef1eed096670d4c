import Columnar.Feed.Values
import Columnar.Proofs.RecordBatch.Bounds
import Columnar.Proofs.Session.Accounting
/-!
# Sessions access columns in range

Whatever a session does to its batch is one of the operations that batches are reached by, also where
a step fails: in particular the child counts that it puts back were taken before the write that failed.
So in every state that a session gets into, its batch is sound, and is written and read in range
(`accesses_in_range`).
-/

set_option autoImplicit false

namespace Columnar

open RecordBatch (Reached InRange Sound)

namespace Pipeline

variable {σ τ : Type} {type : DataType}

/-- The batch of a session is reached from a new one. -/
def BatchReached (type : DataType) (pipeline : Pipeline σ τ) : Prop :=
  ∃ snapshots, Reached type pipeline.session.batch snapshots

/-- Handing a batch over resets it, or leaves it as it is. -/
theorem batchReached_handOver (consumer : Consumer τ) {pipeline : Pipeline σ τ}
    (reached : pipeline.BatchReached type) :
    (pipeline.handOver consumer).state.BatchReached type := by
  obtain ⟨snapshots, reached⟩ := reached
  unfold handOver
  dsimp only
  split
  · exact ⟨snapshots, reached⟩
  · exact ⟨[], reached.reset⟩

/-- The end of a session hands the batch over at most. -/
theorem batchReached_finish (consumer : Consumer τ) {pipeline : Pipeline σ τ}
    (reached : pipeline.BatchReached type) : (pipeline.finish consumer).state.BatchReached type :=
  state_finish consumer reached (batchReached_handOver consumer reached) fun _ kept => kept

/-- To leave out a piece of input, or to fail for it, leaves the batch as it is. -/
theorem batchReached_reject {pipeline : Pipeline σ τ} (reached : pipeline.BatchReached type)
    (failure : Failure) (policy : RecordPolicy) :
    (pipeline.reject failure policy).state.BatchReached type := by
  cases policy <;> exact reached

/-- A poll leaves the batch as it is, unless the feed is exhausted and the last rows are handed
over. -/
theorem batchReached_awaitRecord (feed : Feed σ) (consumer : Consumer τ) {pipeline : Pipeline σ τ}
    (reached : pipeline.BatchReached type) :
    (pipeline.awaitRecord feed consumer).state.BatchReached type := by
  have polled : BatchReached type { pipeline with feed := (feed.poll pipeline.feed).2 } := reached
  unfold awaitRecord
  dsimp only
  split
  · exact batchReached_finish consumer polled
  · exact reached
  · exact batchReached_reject polled _ _
  · split
    · exact batchReached_reject polled _ _
    · exact reached

/-- A record is written into a batch that may grow for it, and then may not again. -/
theorem batchReached_convertGrowing {pipeline : Pipeline σ τ} {batch : RecordBatch}
    {snapshots : List (List Nat)} (reached : Reached type batch snapshots)
    (pending : PendingRecord) :
    (pipeline.convertGrowing pending batch).state.BatchReached type := by
  have grown := reached.setGrowable true
  unfold convertGrowing
  dsimp only
  split
  · next failure failed =>
    exact ⟨_, (grown.refused _ _ (by rw [failed]; exact Option.some_ne_none failure)).setGrowable false⟩
  · next clean => exact ⟨_, (grown.written _ _ clean).setGrowable false⟩

/-- A record that is put off leaves the child counts as they were when its write began. -/
theorem batchReached_convertRow (consumer : Consumer τ) {pipeline : Pipeline σ τ}
    (reached : pipeline.BatchReached type) (pending : PendingRecord) :
    (pipeline.convertRow consumer pending).state.BatchReached type := by
  obtain ⟨snapshots, reached⟩ := reached
  unfold convertRow
  dsimp only
  split
  · next clean => exact ⟨_, reached.written _ _ clean⟩
  · next failure failed =>
    have refused := reached.snapshot.refused pipeline.session.encoder pending.record
      (by rw [failed]; exact Option.some_ne_none failure)
    split
    · have restored := refused.restored List.mem_cons_self
      split
      · exact batchReached_convertGrowing restored pending
      · exact batchReached_handOver consumer ⟨_, restored⟩
    · exact ⟨_, refused⟩

/-- A step, failed or not, does to the batch only what batches are reached by. -/
theorem batchReached_step (feed : Feed σ) (consumer : Consumer τ) {pipeline : Pipeline σ τ}
    (reached : pipeline.BatchReached type) :
    (pipeline.step feed consumer).state.BatchReached type := by
  have moved : (pipeline.transition feed consumer).state.BatchReached type := by
    unfold transition
    split
    · exact batchReached_awaitRecord feed consumer reached
    · exact batchReached_convertRow consumer reached _
    · exact batchReached_handOver consumer reached
    · exact reached
  unfold step
  dsimp only
  split <;> exact moved

/-- Any number of steps, failed ones too, leave a batch that is reached from a new one. -/
theorem batchReached_advance (feed : Feed σ) (consumer : Consumer τ) (n : Nat) :
    ∀ {pipeline : Pipeline σ τ}, pipeline.BatchReached type →
      (pipeline.advance feed consumer n).BatchReached type := by
  induction n with
  | zero => exact fun reached => reached
  | succ n ih => exact fun reached => ih (batchReached_step feed consumer reached)

end Pipeline

/-- A session starts with a new batch. -/
theorem Session.reached_start {type : DataType} {options : Options} {session : Session}
    (started : Session.start type options = .ok session) : Reached type session.batch [] := by
  unfold Session.start RecordEncoder.ofType at started
  cases valid : type.validateRoot with
  | error failure =>
    rw [valid] at started
    cases started
  | ok _ =>
    rw [valid] at started
    cases allocated : RecordBatch.allocate type options.capacity with
    | error failure =>
      simp only [bind, Except.bind, pure, Except.pure, RecordEncoder.allocateBatch, allocated]
        at started
      cases started
    | ok batch =>
      simp only [bind, Except.bind, pure, Except.pure, RecordEncoder.allocateBatch, allocated]
        at started
      cases started
      dsimp only
      split
      · exact (Reached.new allocated).setGrowable false
      · exact Reached.new allocated

/-- No access is out of range. Batches that are reached from a new one, and the batch of a session in
every state that it gets into, have the shape of their type and point to nothing that is not there;
what is written into them when they are not full, and every row that is read, is accessed in range. -/
theorem accesses_in_range {type : DataType} (valid : type.validateRoot = .ok ()) :
    (∀ capacity, 0 < capacity → ∃ fresh, RecordBatch.allocate type capacity = .ok fresh ∧
      Reached type fresh []) ∧
    (∀ batch snapshots, Reached type batch snapshots →
      (∃ growable, Sound growable type batch) ∧ InRange batch) ∧
    (∀ options : Options, 0 < options.capacity →
      ∃ session, Session.start type options = .ok session ∧
        ∀ (σ τ : Type) (feed : Feed σ) (consumer : Consumer τ) (given : σ) (consumed : τ) (n : Nat),
          let reached := (Pipeline.mk session given consumed []).advance feed consumer n
          (∃ growable, Sound growable type reached.session.batch) ∧
            InRange reached.session.batch) := by
  have safe : ∀ batch snapshots, Reached type batch snapshots →
      (∃ growable, Sound growable type batch) ∧ InRange batch := by
    intro batch snapshots reached
    obtain ⟨⟨growable, sound⟩, -⟩ := reached.exists_sound
    exact ⟨⟨growable, sound⟩, sound.inRange⟩
  refine ⟨fun capacity positive => ?_, safe, fun options positive => ?_⟩
  · obtain ⟨fresh, allocated, -⟩ := RecordBatch.exists_allocate_sound valid positive
    exact ⟨fresh, allocated, .new allocated⟩
  · obtain ⟨session, started, -⟩ := Session.exists_start valid positive
    refine ⟨session, started, fun σ τ feed consumer given consumed n => ?_⟩
    have begun : (Pipeline.mk session given consumed []).BatchReached type :=
      ⟨[], Session.reached_start started⟩
    obtain ⟨snapshots, reached⟩ := Pipeline.batchReached_advance feed consumer n begun
    exact safe _ snapshots reached

/-- A batch with one row, after a record that failed deep in a map of lists and with the child counts
from before it; and a session that holds one row after three steps. -/
theorem accesses_in_range_map :
    let type := DataType.struct .default
      [("a", .mapOf (.ofPrimitive (.text .string)) (.listOf (.ofPrimitive (.integer .regular))))]
    let encoder : RecordEncoder := ⟨type, .abort⟩
    let fresh : RecordBatch := ⟨type, 2, 0, Column.allocateFields 2 type.fields⟩
    let record : Json.Members := [("a", .object [("x", .array [.int 1, .int 2])])]
    let first := encoder.write record fresh
    let tried := encoder.write [("a", .object [("y", .array [.int 3, .text "z"])])] first.state
    let batch := tried.state.restore first.state.childCounts
    let session : Session :=
      ⟨encoder, ⟨2, .skip, .skip, .abort, .grow⟩, fresh, .awaitingRecord, .zero⟩
    let consumer : Consumer Nat := ⟨fun _ taken => .ok (taken + 1)⟩
    let values := ValueQueue.ofList [.object record, .int 7, .object record]
    let later := (Pipeline.mk session values 0 []).advance ValueQueue.feed.toFeed consumer 3
    first.failure = none ∧ tried.failure ≠ none ∧ batch.size = 1 ∧
      batch.checkedRow? 0 = some (batch.row? 0) ∧
      Session.start type session.options = .ok session ∧ later.session.batch.size = 1 ∧
      later.session.batch.checkedRow? 0 = some (later.session.batch.row? 0) := by
  intro type encoder fresh record first tried batch session consumer values later
  have valid : type.validateRoot = .ok () := rfl
  have allocated : RecordBatch.allocate type 2 = .ok fresh := rfl
  have started : Session.start type session.options = .ok session := rfl
  have clean : first.failure = none := by decide +kernel
  have failed : tried.failure ≠ none := by decide +kernel
  have one : batch.size = 1 := by decide +kernel
  have one' : later.session.batch.size = 1 := by decide +kernel
  obtain ⟨news, safe, sessions⟩ := accesses_in_range valid
  obtain ⟨_, allocated', new⟩ := news 2 Nat.two_pos
  cases allocated.symm.trans allocated'
  have reached : Reached type batch [first.state.childCounts] :=
    ((new.written encoder record clean).snapshot.refused encoder _ failed).restored
      List.mem_cons_self
  obtain ⟨_, started', ends⟩ := sessions session.options Nat.two_pos
  cases started.symm.trans started'
  refine ⟨clean, failed, one, (safe batch _ reached).2.read 0 ?_, started, one',
    (ends _ _ ValueQueue.feed.toFeed consumer values 0 3).2.read 0 ?_⟩
  · rw [one]
    exact Nat.one_pos
  · rw [one']
    exact Nat.one_pos

end Columnar
