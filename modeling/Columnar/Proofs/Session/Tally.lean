import Columnar.Proofs.Consumer.PieceWriter
import Columnar.Proofs.Session.Termination
/-!
# Rows that a session counts and rows that its consumer counts

A session counts the rows of a batch once the consumer has taken the whole batch. A consumer that
counts rows as it goes (`Consumer.Counts`) is ahead of it when it fails in the middle of a batch, and
never behind: what one step adds to both counts is the same, unless it fails, when the consumer may
have counted more (`tallies_step`). For line writers that says how many line feeds have reached the
output (`writes_whole_lines`).
-/

set_option autoImplicit false

namespace Columnar

/-- A consumer counts rows: all those of a batch that it takes, and perhaps some of one that it does
not take. -/
structure Consumer.Counts {τ : Type} (consumer : Consumer τ) (count : τ → Nat) : Prop where
  le (batch : RecordBatch) (state : τ) : count state ≤ count (consumer.accept batch state).state
  eq (batch : RecordBatch) (state : τ) (clean : (consumer.accept batch state).failure = none) :
    count (consumer.accept batch state).state = count state + batch.size

/-- Line writers count the rows written. -/
theorem LineWriter.counts {δ : Type} (device : Device δ) :
    (consumer device).Counts rowsWritten where
  le batch writer := (sends_accept device batch writer).rowsWritten_le
  eq batch writer clean := by
    rw [(sends_accept device batch writer).rowsWritten_eq clean, count_linesOf,
      RecordBatch.length_rows]

namespace Pipeline

variable {σ τ : Type} {count : τ → Nat} {feed : Feed σ} {consumer : Consumer τ}
  {pipeline : Pipeline σ τ}

/-- An operation adds no more to the rows that the session has counted than to those that the
consumer has, and as much if it does not fail. -/
structure Tallies (count : τ → Nat) (before : Pipeline σ τ) (attempt : Attempt (Pipeline σ τ)) :
    Prop where
  le : attempt.state.session.totals.records + count before.consumer ≤
    before.session.totals.records + count attempt.state.consumer
  eq : attempt.failure = none → attempt.state.session.totals.records + count before.consumer =
    before.session.totals.records + count attempt.state.consumer

/-- An operation that leaves the consumer and the totals alone. -/
theorem Tallies.of_same {attempt : Attempt (Pipeline σ τ)}
    (records : attempt.state.session.totals.records = pipeline.session.totals.records)
    (consumed : attempt.state.consumer = pipeline.consumer) : Tallies count pipeline attempt := by
  have both : attempt.state.session.totals.records + count pipeline.consumer =
      pipeline.session.totals.records + count attempt.state.consumer := by
    rw [records, consumed]
  exact ⟨Nat.le_of_eq both, fun _ => both⟩

/-- Changing the phase changes no count. -/
theorem Tallies.settled {attempt : Attempt (Pipeline σ τ)}
    (tallies : Tallies count pipeline attempt) : Tallies count pipeline (settled attempt) := by
  unfold Pipeline.settled
  split
  · next failure failed =>
    exact ⟨tallies.le, fun clean => absurd clean (Option.some_ne_none failure)⟩
  · exact tallies

/-- Handing a batch over adds its size to the total if the consumer takes it. -/
theorem tallies_handOver (counts : consumer.Counts count) (pipeline : Pipeline σ τ) :
    Tallies count pipeline (pipeline.handOver consumer) := by
  have handed := handed_handOver consumer pipeline
  generalize pipeline.handOver consumer = attempt at handed
  cases handed with
  | taken next accepted consumed session =>
    have more := counts.eq pipeline.session.batch pipeline.consumer accepted
    have both : next.session.totals.records + count pipeline.consumer =
        pipeline.session.totals.records + count next.consumer := by
      rw [session, consumed, more]
      show pipeline.session.totals.records + pipeline.session.batch.size + _ = _
      omega
    exact ⟨Nat.le_of_eq both, fun _ => both⟩
  | refused next cause unaccepted consumed session =>
    refine ⟨?_, nofun⟩
    show next.session.totals.records + _ ≤ _ + count next.consumer
    rw [session, consumed]
    exact Nat.add_le_add_left (counts.le pipeline.session.batch pipeline.consumer) _

/-- The end of a session keeps the tally, whether it hands a batch over or not. -/
theorem tallies_finish (counts : consumer.Counts count) (pipeline : Pipeline σ τ) :
    Tallies count pipeline (pipeline.finish consumer) := by
  rw [finish_eq]
  by_cases empty : pipeline.session.batch.isEmpty = true
  · rw [if_pos empty]
    exact .of_same rfl rfl
  · rw [if_neg empty]
    have handed := tallies_handOver counts pipeline
    unfold Attempt.andThen
    split
    · exact handed
    · next clean => exact ⟨handed.le, fun _ => handed.eq clean⟩

/-- A poll keeps the tally: the consumer is called at the end of the feed only. -/
theorem tallies_awaitRecord (counts : consumer.Counts count) (feed : Feed σ)
    (pipeline : Pipeline σ τ) : Tallies count pipeline (pipeline.awaitRecord feed consumer) := by
  have awaited := awaited_awaitRecord feed consumer pipeline
  generalize nextVerdict feed pipeline.session.options pipeline.feed = judged at awaited
  generalize pipeline.awaitRecord feed consumer = attempt at awaited
  cases awaited with
  | stop =>
    have ends := tallies_finish counts (pipeline.polled feed)
    exact ⟨ends.le, ends.eq⟩
  | take pending => exact .of_same rfl rfl
  | leaveOut event => exact .of_same rfl rfl
  | fail failure next session consumed fed =>
    exact .of_same (congrArg (fun session => session.totals.records) session) consumed

/-- Only a record that is put off has a batch handed over. -/
theorem tallies_convertRow (counts : consumer.Counts count) (pipeline : Pipeline σ τ)
    (pending : PendingRecord) : Tallies count pipeline (pipeline.convertRow consumer pending) := by
  unfold convertRow
  dsimp only
  split
  · exact .of_same rfl rfl
  · next failure failed =>
    split
    · split
      · unfold convertGrowing
        dsimp only
        split <;> exact .of_same rfl rfl
      · have handed := tallies_handOver counts
          ((pipeline.report (.deferring failure pending.line)).withSession
            (pipeline.session.withBatch ((pipeline.session.encoder.write pending.record
              pipeline.session.batch).state.restore pipeline.session.batch.childCounts)))
        exact ⟨handed.le, handed.eq⟩
    · exact .of_same rfl rfl

/-- What a step adds to both counts. -/
theorem tallies_step (counts : consumer.Counts count) (feed : Feed σ) (pipeline : Pipeline σ τ) :
    Tallies count pipeline (pipeline.step feed consumer) := by
  rw [step_eq]
  refine Tallies.settled ?_
  unfold transition
  cases pipeline.session.phase with
  | awaitingRecord => exact tallies_awaitRecord counts feed pipeline
  | convertingRow pending => exact tallies_convertRow counts pipeline pending
  | batchFull =>
    have handed := tallies_handOver counts pipeline
    exact ⟨handed.le, handed.eq⟩
  | drained => exact .of_same rfl rfl

/-- A session is never ahead of its consumer. -/
theorem records_le_advance (counts : consumer.Counts count) (feed : Feed σ) (n : Nat) :
    ∀ {pipeline : Pipeline σ τ}, pipeline.session.totals.records ≤ count pipeline.consumer →
      (pipeline.advance feed consumer n).session.totals.records ≤
        count (pipeline.advance feed consumer n).consumer := by
  induction n with
  | zero => exact fun behind => behind
  | succ n ih =>
    intro pipeline behind
    refine ih ?_
    have step := (tallies_step counts feed pipeline).le
    omega

/-- As long as nothing fails, a session is not behind its consumer either. -/
theorem records_eq_runs (counts : consumer.Counts count) {attempt : Attempt (Pipeline σ τ)}
    (runs : Runs feed consumer pipeline attempt) (clean : attempt.failure = none)
    (even : pipeline.session.totals.records = count pipeline.consumer) :
    attempt.state.session.totals.records = count attempt.state.consumer := by
  induction runs with
  | stops stop =>
    have step := (tallies_step counts feed _).eq clean
    omega
  | @goes pipeline attempt going later ih =>
    refine ih clean ?_
    rw [Over, not_or, Option.not_isSome_iff_eq_none] at going
    have step := (tallies_step counts feed pipeline).eq going.1
    omega

end Pipeline

/-- A line writer sends whole lines and counts them, whatever writer is behind it and however its
calls cut the rows. Of batches that are offered up to the first that fails, the bytes that the writer
has received are a first part of the lines of all rows in order, the rows counted are the line feeds
received, and if nothing failed it has received all; nothing fails if it takes something in every
call. In a session, the rows that the session has counted are no more than those after any number of
steps, and as many if its run succeeds. -/
theorem writes_whole_lines {σ : Type} (writer : PieceWriter σ) (cutting : Cutting) (state : σ) :
    let consumer := LineWriter.consumer (writer.device cutting)
    let new : LineWriter (Tapped σ) := .ofDevice ⟨state, []⟩
    (∀ batches : List RecordBatch,
      let attempt := consumer.acceptAll batches new
      let received := attempt.state.device.received
      let lines := LineWriter.linesOf (rowsOf batches)
      received <+: lines ∧ attempt.state.rowsWritten = received.count 10 ∧
        (attempt.failure = none → received = lines) ∧ (writer.Willing → attempt.failure = none)) ∧
      ∀ (type : DataType) (options : Options) (session : Session),
        Session.start type options = .ok session → ∀ (α : Type) (feed : Feed α) (given : α),
          let begun : Pipeline α (LineWriter (Tapped σ)) := ⟨session, given, new, []⟩
          (∀ n, (begun.advance feed consumer n).session.totals.records ≤
            (begun.advance feed consumer n).consumer.rowsWritten) ∧
          ∀ attempt, Pipeline.Runs feed consumer begun attempt → attempt.failure = none →
            attempt.state.session.totals.records = attempt.state.consumer.rowsWritten := by
  intro consumer new
  refine ⟨fun batches => ?_, fun type options session started α feed given => ?_⟩
  · have sends := LineWriter.sends_acceptAll (writer.device cutting) batches new
    have faithful : (consumer.acceptAll batches new).state.Faithful :=
      LineWriter.faithful_acceptAll writer cutting batches rfl
    obtain ⟨part, begins, sent, rows, all⟩ := sends
    have received : (consumer.acceptAll batches new).state.device.received = part :=
      faithful.trans sent
    simp only [received]
    exact ⟨begins, rows.trans (Nat.zero_add _), all,
      fun willing => LineWriter.failure_acceptAll (willing.device cutting) batches new⟩
  · have counts := LineWriter.counts (writer.device cutting)
    obtain ⟨-, -, totals⟩ := Session.stands_of_start started
    have none : session.totals.records = 0 := by
      rw [totals]
      rfl
    exact ⟨fun n => Pipeline.records_le_advance counts feed n (Nat.le_of_eq none),
      fun attempt runs clean => Pipeline.records_eq_runs counts runs clean none⟩

/-- A writer that takes at most three bytes in a call, and a number in all, behind lines that are cut
after two bytes. With room for 20 bytes it fails in the second of two lines of 13, and so does the
session; with room for 30 the session writes both and counts them. A writer that takes one byte in
every call receives both lines. -/
theorem writes_whole_lines_limited :
    let type := DataType.struct .default [("a", .ofPrimitive (.text .string))]
    let record : Json.Members := [("a", .text "x\ny")]
    let writer : PieceWriter Nat :=
      { write := fun bytes room =>
          if room = 0 then (none, 0)
          else (some ⟨min bytes.length (min 3 room), by omega⟩, room - min bytes.length 3)
        flush := fun room => (true, room) }
    let sparing : PieceWriter Nat :=
      { write := fun bytes calls => (some ⟨min 1 bytes.length, by omega⟩, calls + 1)
        flush := fun calls => (true, calls) }
    let cutting : Cutting :=
      ⟨fun bytes => [bytes.take 2, bytes.drop 2], fun bytes => by simp⟩
    let consumer := LineWriter.consumer (writer.device cutting)
    let new room : LineWriter (Tapped Nat) := .ofDevice ⟨room, []⟩
    let encoder : RecordEncoder := ⟨type, .abort⟩
    let fresh : RecordBatch := ⟨type, 2, 0, Column.allocateFields 2 type.fields⟩
    let batch := (encoder.write record (encoder.write record fresh).state).state
    let options : Options := ⟨2, .skip, .skip, .abort, .grow⟩
    let session : Session := ⟨encoder, options, fresh, .awaitingRecord, .zero⟩
    let values := ValueQueue.ofList [.object record, .object record]
    let begun room : Pipeline ValueQueue (LineWriter (Tapped Nat)) :=
      ⟨session, values, new room, []⟩
    let attempt := consumer.acceptAll [batch] (new 20)
    let whole := (LineWriter.consumer (sparing.device cutting)).acceptAll [batch] (new 0)
    let failed := (begun 20).advance ValueQueue.feed.toFeed consumer 5
    let ended := (begun 30).run ValueQueue.feed consumer
    (attempt.failure ≠ none ∧ attempt.state.device.received.length = 20 ∧
        attempt.state.device.received <+: LineWriter.linesOf (rowsOf [batch]) ∧
        attempt.state.device.received.count 10 = 1) ∧
      (sparing.Willing ∧ whole.failure = none ∧ whole.state.device.received.length = 26 ∧
        whole.state.device.received = LineWriter.linesOf (rowsOf [batch])) ∧
      Session.start type options = .ok session ∧
      (failed.session.totals.records = 0 ∧ failed.consumer.rowsWritten = 1 ∧
        failed.session.totals.records ≤ failed.consumer.rowsWritten) ∧
      ended.failure = none ∧ ended.state.session.totals.records = 2 ∧
        ended.state.consumer.rowsWritten = 2 := by
  intro type record writer sparing cutting consumer new encoder fresh batch options session values
    begun attempt whole failed ended
  have started : Session.start type options = .ok session := rfl
  have refused : attempt.failure ≠ none := by decide +kernel
  have length : attempt.state.device.received.length = 20 := by decide +kernel
  have one : attempt.state.rowsWritten = 1 := by decide +kernel
  have clean : ended.failure = none := by decide +kernel
  have two : ended.state.session.totals.records = 2 := by decide +kernel
  have both : whole.state.device.received.length = 26 := by decide +kernel
  have willing : sparing.Willing := by
    refine ⟨fun bytes calls some => ⟨_, _, rfl, ?_⟩, fun calls => rfl⟩
    exact Nat.lt_min.mpr ⟨Nat.one_pos, List.length_pos_iff.mpr some⟩
  have behind : failed.session.totals.records = 0 ∧ failed.consumer.rowsWritten = 1 := by
    decide +kernel
  simp only [attempt, whole, failed, ended, begun, consumer, new]
    at refused length one clean two both behind ⊢
  obtain ⟨sends, sessions⟩ := writes_whole_lines writer cutting 20
  obtain ⟨begins, counted, -⟩ := sends [batch]
  obtain ⟨-, -, all, accepts⟩ := (writes_whole_lines sparing cutting 0).1 [batch]
  have accepted := accepts willing
  obtain ⟨le, -⟩ := sessions type options session started _ ValueQueue.feed.toFeed values
  obtain ⟨-, even⟩ := (writes_whole_lines writer cutting 30).2 type options session started _
    ValueQueue.feed.toFeed values
  have same := even _ (Pipeline.runs_run ValueQueue.feed _ _) clean
  rw [counted] at one
  rw [two] at same
  exact ⟨⟨refused, length, begins, one⟩, ⟨willing, accepted, both, all accepted⟩, started,
    ⟨behind.1, behind.2, le 5⟩, clean, two, same.symm⟩

end Columnar
