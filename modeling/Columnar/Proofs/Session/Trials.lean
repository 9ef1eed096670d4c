import Columnar.Proofs.RecordBatch.Allocation
import Columnar.Proofs.Session.Accounting
/-!
# Trials of a record

A session tries the record that it holds on its batch. If children find no room and records are put
off, the child counts are put back, which leaves the batch as it was before the trial; an empty batch
is tried again, and its child columns may grow. Here is what each trial leaves in the session
(`Keeps.committed`, `Keeps.rolledBack`, `Keeps.regrown`), what a failure of it is blamed on, and what
it does to the slots of the batch.
-/

set_option autoImplicit false

namespace Columnar.Session

open Column (Blamed faultFields)
open RecordBatch (Shaped)

/-- What comes of writing a record into the batch. -/
def trial (session : Session) (pending : PendingRecord) : Attempt RecordBatch :=
  session.encoder.write pending.record session.batch

/-- A record finds no room for its children, and records are put off for that. -/
def Overflows (session : Session) (pending : PendingRecord) : Prop :=
  session.options.onOverflow = .defer ∧
    ∃ failure, (session.trial pending).failure = some failure ∧ failure.isChildOverflow = true

/-- The batch after a trial, with the child counts that it had before. -/
def rolledBack (session : Session) (pending : PendingRecord) : RecordBatch :=
  (session.trial pending).state.restore session.batch.childCounts

/-- What comes of writing a record again when child columns may grow for it. -/
def retrial (session : Session) (pending : PendingRecord) : Attempt RecordBatch :=
  session.encoder.write pending.record ((session.rolledBack pending).setGrowable true)

variable {type : DataType} {options : Options} {written : List Json.Members} {session : Session}
  {pending : PendingRecord}

/-- The rows of a session that keeps records are these records, as they are stored. -/
theorem Keeps.rows_eq (keeps : session.Keeps type options written) :
    session.batch.rows = written.map (storedRecord options.onCellFailure type) := by
  obtain ⟨origins, -, stores⟩ := keeps.stores
  exact stores.rows_eq keeps.shaped

/-- There are as many rows as records. -/
theorem Keeps.size_eq (keeps : session.Keeps type options written) :
    session.batch.size = written.length := by
  obtain ⟨origins, -, stores⟩ := keeps.stores
  exact stores.size_eq

/-- A record that is kept can be read back from the row of its number. -/
theorem Keeps.row?_eq (keeps : session.Keeps type options written) {row : Nat}
    {record : Json.Members} (found : written[row]? = some record) :
    session.batch.row? row = some (storedRecord options.onCellFailure type record) := by
  obtain ⟨origins, -, stores⟩ := keeps.stores
  exact RecordBatch.row?_eq keeps.shaped stores.size_eq stores.holds found

/-! ### The first trial -/

/-- A trial leaves the batch with the columns of its type, also if it fails. -/
theorem Keeps.shaped_trial (keeps : session.Keeps type options written) (pending : PendingRecord) :
    Shaped options.growsChildren type (session.trial pending).state := by
  unfold trial
  exact RecordEncoder.shaped_write keeps.shaped session.encoder pending.record

@[simp] theorem capacity_trial (session : Session) (pending : PendingRecord) :
    (session.trial pending).state.capacity = session.batch.capacity :=
  RecordEncoder.capacity_write session.encoder pending.record session.batch

/-- A record that is written is the next row. -/
theorem Keeps.committed (keeps : session.Keeps type options written)
    (phase : session.phase = .convertingRow pending)
    (clean : (session.trial pending).failure = none) :
    (session.rowCommitted (session.trial pending).state).Keeps type options
      (written ++ [pending.record]) := by
  obtain ⟨origins, vacant, stores⟩ := keeps.stores
  obtain ⟨encoder, own, batch, phase', totals⟩ := session
  obtain rfl : encoder = ⟨type, options.onCellFailure⟩ := keeps.encoder_eq
  obtain rfl : phase' = .convertingRow pending := phase
  have shaped : Shaped options.growsChildren (RecordEncoder.mk type options.onCellFailure).type batch :=
    keeps.shaped
  exact keeps.rowCommitted (keeps.shaped_trial pending) (capacity_trial _ pending) vacant
    (RecordEncoder.stores_write shaped stores clean)

/-- A trial fails for the first fault of the record, or because fixed children find no room. -/
theorem Keeps.blamed_trial (keeps : session.Keeps type options written)
    (phase : session.phase = .convertingRow pending) :
    Blamed options.growsChildren (faultFields options.onCellFailure type.fields pending.record)
      (session.trial pending).failure := by
  have room := keeps.isFull_eq_false (by rw [phase]; nofun)
  have shaped : Shaped options.growsChildren (RecordEncoder.mk type options.onCellFailure).type
      session.batch := keeps.shaped
  rw [trial, keeps.encoder_eq]
  exact RecordEncoder.blamed_write shaped room pending.record

/-- A record that is refused leaves the rows as they were. -/
theorem Keeps.rows_trial (keeps : session.Keeps type options written)
    (phase : session.phase = .convertingRow pending) {failure : Failure}
    (failed : (session.trial pending).failure = some failure) :
    (session.trial pending).state.rows = written.map (storedRecord options.onCellFailure type) := by
  obtain ⟨origins, -, stores⟩ := keeps.stores
  have size := RecordEncoder.size_write_of_failure session.encoder pending.record session.batch
    failure failed
  have after := keeps.shaped_trial pending
  have shaped : Shaped options.growsChildren (RecordEncoder.mk type options.onCellFailure).type
      session.batch := keeps.shaped
  rw [phase] at stores
  rw [keeps.encoder_eq] at size
  rw [trial, keeps.encoder_eq] at after ⊢
  exact RecordBatch.rows_eq after (size.trans stores.size_eq)
    (RecordEncoder.holds_write shaped stores)

/-- Where child columns are fixed, a trial changes no slots. -/
theorem allocation_trial (shaped : Shaped false type session.batch) (pending : PendingRecord) :
    (session.trial pending).state.allocation = session.batch.allocation :=
  RecordEncoder.allocation_write shaped session.encoder pending.record

/-! ### Putting a record off -/

@[simp] theorem capacity_rolledBack (session : Session) (pending : PendingRecord) :
    (session.rolledBack pending).capacity = session.batch.capacity :=
  capacity_trial session pending

/-- A record that is refused adds no row, and putting the child counts back takes none away. -/
theorem size_rolledBack {failure : Failure}
    (failed : (session.trial pending).failure = some failure) :
    (session.rolledBack pending).size = session.batch.size :=
  RecordEncoder.size_write_of_failure session.encoder pending.record session.batch failure failed

/-- Where child columns are fixed, a trial that is taken back has changed no slots either. -/
theorem allocation_rolledBack (shaped : Shaped false type session.batch) (pending : PendingRecord) :
    (session.rolledBack pending).allocation = session.batch.allocation := by
  rw [rolledBack, RecordBatch.allocation_restore]
  exact allocation_trial shaped pending

/-- With the child counts put back, the session is as if the record had not been tried. -/
theorem Keeps.rolledBack (keeps : session.Keeps type options written)
    (phase : session.phase = .convertingRow pending) {failure : Failure}
    (failed : (session.trial pending).failure = some failure) :
    (session.withBatch (session.rolledBack pending)).Keeps type options written := by
  obtain ⟨origins, vacant, stores⟩ := keeps.stores
  have shaped : Shaped options.growsChildren type (session.rolledBack pending) :=
    (keeps.shaped_trial pending).restore session.batch.childCounts
  have capacity := capacity_rolledBack session pending
  have room : (session.rolledBack pending).isFull = false := by
    rw [RecordEncoder.isFull_eq_false shaped, size_rolledBack failed, capacity]
    exact (RecordEncoder.isFull_eq_false keeps.shaped).mp
      (keeps.isFull_eq_false (by rw [phase]; nofun))
  refine ⟨keeps.encoder_eq, keeps.options_eq, shaped, capacity.trans keeps.capacity_eq,
    Nat.lt_of_lt_of_eq keeps.positive capacity.symm, .inr room, origins, vacant, ?_⟩
  obtain ⟨encoder, own, batch, phase', totals⟩ := session
  obtain rfl : encoder = ⟨type, options.onCellFailure⟩ := keeps.encoder_eq
  obtain rfl : phase' = .convertingRow pending := phase
  have before : Shaped options.growsChildren (RecordEncoder.mk type options.onCellFailure).type batch :=
    keeps.shaped
  exact RecordEncoder.stores_restore_write before stores failed

/-! ### The second trial -/

/-- The second trial leaves the batch with the columns of its type, which may grow until they are
fixed again. -/
theorem Keeps.shaped_retrial (keeps : session.Keeps type options written) (pending : PendingRecord) :
    Shaped true type (session.retrial pending).state := by
  have back : Shaped options.growsChildren type (session.rolledBack pending) :=
    (keeps.shaped_trial pending).restore session.batch.childCounts
  exact RecordEncoder.shaped_write (back.setGrowable true) session.encoder pending.record

/-- Where children have room, a record is refused only for a fault of its own. -/
theorem Keeps.blamed_retrial (keeps : session.Keeps type options written)
    (phase : session.phase = .convertingRow pending) (overflows : session.Overflows pending) :
    (session.retrial pending).failure =
      faultFields options.onCellFailure type.fields pending.record := by
  obtain ⟨-, failure, failed, -⟩ := overflows
  have back := keeps.rolledBack phase failed
  have room : (session.rolledBack pending).isFull = false :=
    back.isFull_eq_false (by show session.phase ≠ .batchFull; rw [phase]; nofun)
  have grown : Shaped true (RecordEncoder.mk type options.onCellFailure).type
      ((session.rolledBack pending).setGrowable true) := back.shaped.setGrowable true
  rw [retrial, keeps.encoder_eq]
  exact (RecordEncoder.blamed_write grown room pending.record).of_growable

/-- A record that is refused in the second trial leaves the rows as they were, once the child
columns are fixed again. -/
theorem Keeps.rows_retrial (keeps : session.Keeps type options written)
    (phase : session.phase = .convertingRow pending) (overflows : session.Overflows pending)
    {failure : Failure} (again : (session.retrial pending).failure = some failure) :
    ((session.retrial pending).state.setGrowable false).rows =
      written.map (storedRecord options.onCellFailure type) := by
  obtain ⟨-, first, failed, -⟩ := overflows
  have back := keeps.rolledBack phase failed
  obtain ⟨origins, -, stores⟩ := back.stores
  have size := RecordEncoder.size_write_of_failure session.encoder pending.record
    ((session.rolledBack pending).setGrowable true) failure again
  have after := keeps.shaped_retrial pending
  have grown : Shaped true (RecordEncoder.mk type options.onCellFailure).type
      ((session.rolledBack pending).setGrowable true) := back.shaped.setGrowable true
  have stores' := stores.setGrowable back.shaped true
  simp only [withBatch, phase, Phase.pending] at stores'
  rw [retrial, keeps.encoder_eq] at after ⊢
  rw [keeps.encoder_eq] at size
  exact RecordBatch.rows_eq (after.setGrowable false) (size.trans stores'.size_eq)
    ((RecordEncoder.holds_write grown stores').setGrowable after false)

/-- A record that is written once child columns may grow for it is the next row, and then they may not
grow any more. -/
theorem Keeps.regrown (keeps : session.Keeps type options written)
    (phase : session.phase = .convertingRow pending) (overflows : session.Overflows pending)
    (clean : (session.retrial pending).failure = none) :
    (session.rowCommitted ((session.retrial pending).state.setGrowable false)).Keeps type options
      (written ++ [pending.record]) := by
  obtain ⟨defers, failure, failed, -⟩ := overflows
  rw [keeps.options_eq] at defers
  have back := keeps.rolledBack phase failed
  have after := keeps.shaped_retrial pending
  have capacity : (session.retrial pending).state.capacity = session.batch.capacity :=
    (RecordEncoder.capacity_write _ _ _).trans (capacity_rolledBack session pending)
  obtain ⟨origins, vacant, stores⟩ := back.stores
  obtain ⟨encoder, own, batch, phase', totals⟩ := session
  obtain rfl : encoder = ⟨type, options.onCellFailure⟩ := keeps.encoder_eq
  obtain rfl : phase' = .convertingRow pending := phase
  have before : Shaped true (RecordEncoder.mk type options.onCellFailure).type _ :=
    back.shaped.setGrowable true
  have stored := RecordEncoder.stores_write before (stores.setGrowable back.shaped true) clean
  refine keeps.rowCommitted ?_ capacity vacant (stored.setGrowable after false)
  rw [options.growsChildren_eq_false_iff.mpr defers]
  exact after.setGrowable false

end Columnar.Session
