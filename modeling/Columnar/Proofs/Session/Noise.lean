import Columnar.Proofs.Feed.Edits
import Columnar.Proofs.Session.Outcomes
/-!
# Rejected input is noise

A session that leaves out what is no record does the same whatever else stands between the objects of
its lines. Two sessions that are alike apart from lines and what they left out (`bare`), and have the
same objects still to read, face each other. Their steps leave them so, or one of the two leaves out a
text and still faces the other (`paired_step`); so their runs come to the same (`facing_run`). What a
run has read and left out is kept track of on the way (`Tracks`), which settles by how much the counts
of two runs differ (`noise_changes_nothing`).
-/

set_option autoImplicit false

namespace Columnar

/-! ### Sessions apart from lines and what was left out -/

/-- A phase without the number of a line. -/
def Phase.bare : Phase → Phase
  | .convertingRow pending => .convertingRow { pending with line := 0 }
  | .awaitingRecord => .awaitingRecord
  | .batchFull => .batchFull
  | .drained => .drained

/-- A session without the number of a line and without what was left out. -/
def Session.bare (session : Session) : Session :=
  { session with
    phase := session.phase.bare
    totals := { session.totals with skipped := 0 } }

/-- Being drained does not depend on the number of a line. -/
theorem Phase.isDrained_bare (phase : Phase) : phase.bare.isDrained = phase.isDrained := by
  cases phase <;> rfl

/-- Phases that hold the same record are the same apart from its line. -/
theorem Phase.bare_convertingRow {pending pending' : PendingRecord}
    (record : pending.record = pending'.record) :
    (Phase.convertingRow pending).bare = (Phase.convertingRow pending').bare := by
  rw [bare, bare, record]

/-- To change the phase and to leave out its line may be done in either order. -/
theorem Session.bare_withPhase (session : Session) (phase : Phase) :
    (session.withPhase phase).bare = session.bare.withPhase phase.bare := rfl

/-- Sessions that are alike have the same encoder, options and batch, and phases that differ in a
line at most. -/
theorem Session.parts_of_bare {session other : Session} (alike : session.bare = other.bare) :
    session.encoder = other.encoder ∧ session.options = other.options ∧
      session.batch = other.batch ∧ session.phase.bare = other.phase.bare := by
  have encoder := congrArg Session.encoder alike
  have options := congrArg Session.options alike
  have batch := congrArg Session.batch alike
  have phase := congrArg Session.phase alike
  exact ⟨encoder, options, batch, phase⟩

/-- A row that is committed leaves sessions alike that were so before, as it depends on no line. -/
theorem Session.bare_rowCommitted (session : Session) (batch : RecordBatch) :
    (session.rowCommitted batch).bare = session.bare.rowCommitted batch := by
  unfold rowCommitted
  split <;> rfl

namespace Pipeline

variable {σ ρ τ : Type}

/-- What there is of a pipeline apart from its feed, its events, and what depends on lines that were
left out. -/
def bare (pipeline : Pipeline σ τ) : Pipeline Unit τ :=
  ⟨pipeline.session.bare, (), pipeline.consumer, []⟩

/-- Pipelines are alike if their sessions are and their consumers are in the same state. Their feeds
may be anything. -/
theorem bare_eq_iff {pipeline : Pipeline σ τ} {other : Pipeline ρ τ} :
    pipeline.bare = other.bare ↔
      pipeline.session.bare = other.session.bare ∧ pipeline.consumer = other.consumer := by
  simp [bare]

section

variable {pipeline : Pipeline σ τ} {other : Pipeline ρ τ} (consumer : Consumer τ)

/-- Handing the batch over is the same for pipelines that are alike: the consumer sees the same
batch in the same state. -/
theorem bare_handOver (alike : pipeline.bare = other.bare) :
    (pipeline.handOver consumer).map bare = (other.handOver consumer).map bare := by
  obtain ⟨session, consumed⟩ := bare_eq_iff.mp alike
  obtain ⟨-, -, batch, -⟩ := Session.parts_of_bare session
  unfold handOver
  simp only [report, batch, consumed]
  cases (consumer.accept other.session.batch other.consumer).failure with
  | some failure =>
    exact congrArg (Attempt.failed · failure.ofConsumer) (bare_eq_iff.mpr ⟨session, rfl⟩)
  | none =>
    exact congrArg Attempt.ok (bare_eq_iff.mpr ⟨congrArg Session.handedOver session, rfl⟩)

/-- Pipelines that are alike come to the same end. -/
theorem bare_finish (alike : pipeline.bare = other.bare) :
    (pipeline.finish consumer).map bare = (other.finish consumer).map bare := by
  obtain ⟨session, consumed⟩ := bare_eq_iff.mp alike
  obtain ⟨-, -, batch, -⟩ := Session.parts_of_bare session
  let ends := fun pipeline : Pipeline Unit τ => Attempt.ok pipeline.ended.bare
  have parts : ∀ {ρ : Type} (attempt : Attempt (Pipeline ρ τ)),
      (attempt.andThen fun pipeline => .ok pipeline.ended).map bare =
        (attempt.map bare).andThen ends :=
    fun _ => Attempt.map_andThen fun _ => rfl
  rw [finish_eq, finish_eq, parts, parts, batch]
  cases other.session.batch.isEmpty with
  | true => exact congrArg ends alike
  | false =>
    simp only [Bool.false_eq_true, if_false]
    rw [bare_handOver consumer alike]

/-- A record that is tried a second time meets the same batch, so what comes of it is the same,
whatever line it stood on. -/
theorem bare_convertGrowing {pending pending' : PendingRecord}
    (alike : pipeline.bare = other.bare) (record : pending.record = pending'.record)
    (batch : RecordBatch) :
    (pipeline.convertGrowing pending batch).map bare =
      (other.convertGrowing pending' batch).map bare := by
  obtain ⟨session, consumed⟩ := bare_eq_iff.mp alike
  obtain ⟨encoder, -, -, -⟩ := Session.parts_of_bare session
  unfold convertGrowing
  simp only [report, encoder, record]
  cases (other.session.encoder.write pending'.record (batch.setGrowable true)).failure with
  | some failure =>
    refine congrArg (Attempt.failed · failure) (bare_eq_iff.mpr ⟨?_, consumed⟩)
    exact congrArg (Session.withBatch · _) session
  | none =>
    refine congrArg Attempt.ok (bare_eq_iff.mpr ⟨?_, consumed⟩)
    show Session.bare (Session.rowCommitted _ _) = Session.bare (Session.rowCommitted _ _)
    rw [Session.bare_rowCommitted, Session.bare_rowCommitted, session]

/-- A record that is converted comes to the same in pipelines that are alike. The line only shows in
the events, which are left out here. -/
theorem bare_convertRow {pending pending' : PendingRecord}
    (alike : pipeline.bare = other.bare) (record : pending.record = pending'.record) :
    (pipeline.convertRow consumer pending).map bare =
      (other.convertRow consumer pending').map bare := by
  obtain ⟨session, consumed⟩ := bare_eq_iff.mp alike
  obtain ⟨encoder, options, batch, -⟩ := Session.parts_of_bare session
  unfold convertRow
  simp only [encoder, options, batch, record]
  cases (other.session.encoder.write pending'.record other.session.batch).failure with
  | none =>
    refine congrArg Attempt.ok (bare_eq_iff.mpr ⟨?_, consumed⟩)
    show Session.bare (Session.rowCommitted _ _) = Session.bare (Session.rowCommitted _ _)
    rw [Session.bare_rowCommitted, Session.bare_rowCommitted, session]
  | some failure =>
    dsimp only
    split
    · split
      · exact bare_convertGrowing alike record _
      · refine bare_handOver consumer (bare_eq_iff.mpr ⟨?_, consumed⟩)
        exact congrArg (Session.withBatch · _) session
    · refine congrArg (Attempt.failed · failure) (bare_eq_iff.mpr ⟨?_, consumed⟩)
      exact congrArg (Session.withBatch · _) session

/-- Handing a full batch over is the same for pipelines that are alike. -/
theorem bare_handOverFull (alike : pipeline.bare = other.bare) :
    (pipeline.handOverFull consumer).map bare = (other.handOverFull consumer).map bare := by
  have handed := bare_handOver consumer alike
  have parts : ∀ {ρ : Type} (attempt : Attempt (Pipeline ρ τ)),
      (attempt.map fun pipeline =>
        pipeline.withSession (pipeline.session.withPhase .awaitingRecord)).map bare =
      (attempt.map bare).map fun pipeline =>
        pipeline.withSession (pipeline.session.withPhase .awaitingRecord) := fun _ => rfl
  rw [handOverFull, handOverFull, parts, parts, handed]

/-- Attempts that are alike are alike once a failure has drained the session. -/
theorem bare_settled {attempt : Attempt (Pipeline σ τ)} {attempt' : Attempt (Pipeline ρ τ)}
    (alike : attempt.map bare = attempt'.map bare) :
    (settled attempt).map bare = (settled attempt').map bare := by
  have parts : ∀ {ρ : Type} (attempt : Attempt (Pipeline ρ τ)),
      (settled attempt).map bare = settled (attempt.map bare) := by
    intro ρ attempt
    unfold settled
    rw [Attempt.failure_map]
    split <;> rfl
  rw [parts, parts, alike]

end

/-! ### Polls of a line reader -/

variable {type : DataType} {options : Options}

/-- Input that is no record is left out. -/
structure Lenient (options : Options) : Prop where
  malformed : options.onMalformed = .skip
  notObject : options.onNotObject = .skip

/-- A text is taken if it is an object, and left out otherwise. -/
theorem verdict_pollText (lenient : Lenient options) (line number : Nat) (text : List UInt8) :
    verdict options line (LineReader.pollText number text) =
      match objectText? text with
      | some members => .take members
      | none => .leaveOut := by
  unfold LineReader.pollText objectText?
  cases Json.parseBytes? text with
  | none => simp [verdict, Failure.classOf, lenient.malformed]
  | some value => cases value <;> simp [verdict, lenient.notObject]

/-- What a session that leaves out what is no record makes of a poll, with the texts that were read for
it. -/
inductive Heard (consumer : Consumer τ) (pipeline : Pipeline (LineReader × List Polled) τ) :
    Attempt (Pipeline (LineReader × List Polled) τ) → Prop
  /-- A text that is no object is counted. -/
  | noise (next : Pipeline (LineReader × List Polled) τ) (read : List (List UInt8))
      (took : pipeline.feed.1.Took next.feed.1 read)
      (goes : next.feed.1.breaks = pipeline.feed.1.breaks ∧
        next.feed.1.finished = pipeline.feed.1.finished)
      (objects : objectsIn read = []) (one : noiseIn read = 1)
      (session : next.session = pipeline.session.countSkipped)
      (consumed : next.consumer = pipeline.consumer) : Heard consumer pipeline (.ok next)
  /-- An object is held. -/
  | object (next : Pipeline (LineReader × List Polled) τ) (read : List (List UInt8))
      (pending : PendingRecord) (took : pipeline.feed.1.Took next.feed.1 read)
      (goes : next.feed.1.breaks = pipeline.feed.1.breaks ∧
        next.feed.1.finished = pipeline.feed.1.finished)
      (objects : objectsIn read = [pending.record]) (none : noiseIn read = 0)
      (ends : ∀ before, EndsWithObject (before ++ read))
      (session : next.session = pipeline.session.withPhase (.convertingRow pending))
      (consumed : next.consumer = pipeline.consumer) : Heard consumer pipeline (.ok next)
  /-- There is no text any more. -/
  | ended (polled : Pipeline (LineReader × List Polled) τ) (read : List (List UInt8))
      (took : pipeline.feed.1.Took polled.feed.1 read) (left : polled.feed.1.texts = [])
      (finished : polled.feed.1.finished = true)
      (objects : objectsIn read = []) (none : noiseIn read = 0)
      (session : polled.session = pipeline.session) (consumed : polled.consumer = pipeline.consumer) :
      Heard consumer pipeline
        (if pipeline.feed.1.breaks then .failed polled .unreadableInput
        else polled.finish consumer)

/-- A session that leaves out what is no record hears one of these three. Blank texts before the one
that counts are read along with it, and add nothing. -/
theorem heard_awaitRecord (consumer : Consumer τ)
    (pipeline : Pipeline (LineReader × List Polled) τ) (lenient : Lenient pipeline.session.options) :
    Heard consumer pipeline (pipeline.awaitRecord LineReader.feed.toFeed.recorded consumer) := by
  have awaited := awaited_awaitRecord LineReader.feed.toFeed.recorded consumer pipeline
  have answered := pipeline.feed.1.answered_poll
  obtain ⟨line, judged⟩ : ∃ line,
      nextVerdict LineReader.feed.toFeed.recorded pipeline.session.options pipeline.feed =
        verdict pipeline.session.options line pipeline.feed.1.poll.1 := ⟨_, rfl⟩
  have fed : (pipeline.polled LineReader.feed.toFeed.recorded).feed.1 = pipeline.feed.1.poll.2 := rfl
  rw [judged] at awaited
  generalize pipeline.awaitRecord LineReader.feed.toFeed.recorded consumer = attempt at awaited ⊢
  generalize pipeline.feed.1.poll = answer at answered awaited fed
  cases answered with
  -- The poll has come to a text behind some blank ones, which is an object or left out.
  | text blanks text next took filled breaks_eq ran running =>
    obtain rfl : _ = next := fed
    rw [verdict_pollText lenient] at awaited
    cases object : objectText? text with
    | none =>
      rw [object] at awaited
      cases awaited with
      | leaveOut event =>
        refine .noise _ _ took ⟨breaks_eq, running.trans ran.symm⟩ ?_ ?_ rfl rfl
        · rw [objectsIn_append, objectsIn_replicate_nil, objectsIn_cons_of_none object]
          rfl
        · rw [noiseIn_append, noiseIn_replicate_nil]
          simp [noiseIn, filled, object]
    | some members =>
      rw [object] at awaited
      generalize taken : Verdict.take members = judged at awaited
      cases awaited with
      | take pending =>
        cases taken
        refine .object _ _ pending took ⟨breaks_eq, running.trans ran.symm⟩ ?_ ?_ ?_ rfl rfl
        · rw [objectsIn_append, objectsIn_replicate_nil, objectsIn_cons_of_some object]
          rfl
        · rw [noiseIn_append, noiseIn_replicate_nil]
          simp [noiseIn, object]
        · intro before
          rw [← List.append_assoc]
          exact endsWithObject_append_singleton (by rw [object]; rfl) _
  -- Nothing but blank texts was left, and the stream ends or breaks off.
  | ended blanks next took left finished =>
    obtain rfl : _ = next := fed
    have objects := objectsIn_replicate_nil blanks
    have none := noiseIn_replicate_nil blanks
    cases broken : pipeline.feed.1.breaks with
    | true =>
      rw [broken] at awaited
      cases awaited with
      | fail failure next session consumed fed =>
        rw [← fed] at took left finished
        have heard : Heard consumer pipeline _ :=
          .ended next _ took left finished objects none session consumed
        rwa [broken] at heard
    | false =>
      rw [broken] at awaited
      cases awaited with
      | stop =>
        have heard : Heard consumer pipeline _ :=
          .ended (pipeline.polled LineReader.feed.toFeed.recorded) _ took left finished objects none
            rfl rfl
        rwa [broken] at heard

/-! ### Two sessions side by side -/

/-- Two readers that have the same objects still to read, and the same end. -/
structure FacingReaders (reader other : LineReader) : Prop where
  objects : objectsIn reader.texts = objectsIn other.texts
  breaks : reader.breaks = other.breaks
  finished : reader.finished = other.finished

/-- Two sessions that are alike, and read the same objects from now on. -/
structure Facing (pipeline other : Pipeline (LineReader × List Polled) τ) : Prop where
  alike : pipeline.bare = other.bare
  readers : FacingReaders pipeline.feed.1 other.feed.1

/-- Which of two sessions is named first does not matter. -/
theorem Facing.symm {pipeline other : Pipeline (LineReader × List Polled) τ}
    (facing : Facing pipeline other) : Facing other pipeline :=
  ⟨facing.alike.symm, facing.readers.objects.symm, facing.readers.breaks.symm,
    facing.readers.finished.symm⟩

/-- The objects still to read are those that a poll read and those behind them. -/
theorem objectsIn_of_took {reader next : LineReader} {read : List (List UInt8)}
    (took : reader.Took next read) :
    objectsIn reader.texts = objectsIn read ++ objectsIn next.texts := by
  rw [took.texts_eq, objectsIn_append]

/-- Readers that are finished face each other. -/
theorem facingReaders_of_finished {reader other : LineReader} (left : reader.texts = [])
    (finished : reader.finished = true) (left' : other.texts = [])
    (finished' : other.finished = true) : FacingReaders reader other := by
  refine ⟨by rw [left, left'], ?_, finished.trans finished'.symm⟩
  rw [LineReader.breaks, LineReader.breaks, finished, finished']
  rfl

/-- How a step of one session goes with a step of another: what they leave is alike, or one of them
only leaves out a text. -/
inductive Paired (pipeline other : Pipeline (LineReader × List Polled) τ)
    (attempt attempt' : Attempt (Pipeline (LineReader × List Polled) τ)) : Prop
  | left (next : Pipeline (LineReader × List Polled) τ) (step : attempt = .ok next)
      (phase : next.session.phase = .awaitingRecord) (facing : Facing next other)
  | right (next : Pipeline (LineReader × List Polled) τ) (step : attempt' = .ok next)
      (phase : next.session.phase = .awaitingRecord) (facing : Facing pipeline next)
  | both (failure : attempt.failure = attempt'.failure) (facing : Facing attempt.state attempt'.state)

section

variable {consumer : Consumer τ} {pipeline other : Pipeline (LineReader × List Polled) τ}

/-- A session that leaves out a text still faces the other one: there is no object in what it read,
and the count of what was left out is not compared. -/
theorem Facing.of_noise {next : Pipeline (LineReader × List Polled) τ} {read : List (List UInt8)}
    (facing : Facing pipeline other) (took : pipeline.feed.1.Took next.feed.1 read)
    (goes : next.feed.1.breaks = pipeline.feed.1.breaks ∧
      next.feed.1.finished = pipeline.feed.1.finished)
    (objects : objectsIn read = []) (session : next.session = pipeline.session.countSkipped)
    (consumed : next.consumer = pipeline.consumer) : Facing next other := by
  obtain ⟨alike, same⟩ := bare_eq_iff.mp facing.alike
  refine ⟨bare_eq_iff.mpr ⟨?_, consumed.trans same⟩, ?_, goes.1.trans facing.readers.breaks,
    goes.2.trans facing.readers.finished⟩
  · rw [session, ← alike]
    rfl
  · have all := objectsIn_of_took took
    rw [objects, List.nil_append] at all
    rw [← all]
    exact facing.readers.objects

/-- Transitions that are alike go together. -/
theorem Paired.of_alike {attempt attempt' : Attempt (Pipeline (LineReader × List Polled) τ)}
    (alike : attempt.map bare = attempt'.map bare)
    (readers : FacingReaders attempt.state.feed.1 attempt'.state.feed.1) :
    Paired pipeline other (settled attempt) (settled attempt') := by
  have same := bare_settled alike
  have failure := congrArg Attempt.failure same
  have state := congrArg Attempt.state same
  refine .both failure ⟨state, ?_⟩
  rw [feed_settled, feed_settled]
  exact readers

/-- Two sessions that face each other and poll keep step, or one of them meets a text that it leaves
out and the other one waits for it. If both meet an object it is the same one, because the objects
still to read are the same, and if neither does, both feeds come to the same end. -/
theorem paired_awaitRecord (facing : Facing pipeline other)
    (lenient : Lenient pipeline.session.options)
    (phase : pipeline.session.phase = .awaitingRecord)
    (phase' : other.session.phase = .awaitingRecord) :
    Paired pipeline other
      (settled (pipeline.awaitRecord LineReader.feed.toFeed.recorded consumer))
      (settled (other.awaitRecord LineReader.feed.toFeed.recorded consumer)) := by
  obtain ⟨session, consumed⟩ := bare_eq_iff.mp facing.alike
  obtain ⟨-, options, -, -⟩ := Session.parts_of_bare session
  have same := facing.readers.objects
  have heard := heard_awaitRecord consumer pipeline lenient
  have heard' := heard_awaitRecord consumer other (options ▸ lenient)
  generalize pipeline.awaitRecord LineReader.feed.toFeed.recorded consumer = attempt at heard ⊢
  generalize other.awaitRecord LineReader.feed.toFeed.recorded consumer = attempt' at heard' ⊢
  cases heard with
  | noise next read took goes objects one counted kept =>
    refine .left next rfl ?_ (facing.of_noise took goes objects counted kept)
    rw [counted]
    exact phase
  | object next read pending took goes objects none ends holds kept =>
    rw [objectsIn_of_took took, objects] at same
    cases heard' with
    | noise next' read' took' goes' objects' one' counted' kept' =>
      refine .right next' rfl ?_ (facing.symm.of_noise took' goes' objects' counted' kept').symm
      rw [counted']
      exact phase'
    | object next' read' pending' took' goes' objects' none' ends' holds' kept' =>
      rw [objectsIn_of_took took', objects'] at same
      obtain ⟨record, rest⟩ := List.cons.inj same
      have alike : next.bare = next'.bare := by
        refine bare_eq_iff.mpr ⟨?_, by rw [kept, kept', consumed]⟩
        rw [holds, holds', Session.bare_withPhase, Session.bare_withPhase, session,
          Phase.bare_convertingRow record]
      refine .of_alike (congrArg Attempt.ok alike) ⟨rest, ?_, ?_⟩
      · exact goes.1.trans (facing.readers.breaks.trans goes'.1.symm)
      · exact goes.2.trans (facing.readers.finished.trans goes'.2.symm)
    | ended polled' read' took' left' finished' objects' none' =>
      -- The second session has no object left to read, but the first one met one.
      rw [objectsIn_of_took took', objects', left'] at same
      cases same
  | ended polled read took left finished objects none kept consumed' =>
    rw [objectsIn_of_took took, objects, left] at same
    cases heard' with
    | noise next' read' took' goes' objects' one' counted' kept' =>
      refine .right next' rfl ?_ (facing.symm.of_noise took' goes' objects' counted' kept').symm
      rw [counted']
      exact phase'
    | object next' read' pending' took' goes' objects' =>
      rw [objectsIn_of_took took', objects'] at same
      cases same
    | ended polled' read' took' left' finished' objects' none' kept' consumed'' =>
      -- Both feeds are exhausted, and break off or not together.
      have readers := facingReaders_of_finished left finished left' finished'
      have alike : polled.bare = polled'.bare :=
        bare_eq_iff.mpr ⟨by rw [kept, kept', session], by rw [consumed', consumed'', consumed]⟩
      rw [facing.readers.breaks]
      cases other.feed.1.breaks with
      | true => exact .of_alike (congrArg (Attempt.failed · _) alike) readers
      | false =>
        refine .of_alike (bare_finish consumer alike) ?_
        simp only [Bool.false_eq_true, if_false]
        rw [feed_finish, feed_finish]
        exact readers

/-- Steps of sessions that face each other go together. -/
theorem paired_step (consumer : Consumer τ) (facing : Facing pipeline other)
    (lenient : Lenient pipeline.session.options) :
    Paired pipeline other (pipeline.step LineReader.feed.toFeed.recorded consumer)
      (other.step LineReader.feed.toFeed.recorded consumer) := by
  obtain ⟨session, consumed⟩ := bare_eq_iff.mp facing.alike
  obtain ⟨-, -, -, phases⟩ := Session.parts_of_bare session
  rw [step_eq, step_eq]
  unfold transition
  cases phase : pipeline.session.phase <;> cases phase' : other.session.phase
  case awaitingRecord.awaitingRecord => exact paired_awaitRecord facing lenient phase phase'
  case convertingRow.convertingRow pending pending' =>
    rw [phase, phase'] at phases
    have record : pending.record = pending'.record := by
      injection phases with held
      injection held
    refine .of_alike (bare_convertRow consumer facing.alike record) ?_
    rw [feed_convertRow, feed_convertRow]
    exact facing.readers
  case batchFull.batchFull =>
    refine .of_alike (bare_handOverFull consumer facing.alike) ?_
    have same : (pipeline.handOverFull consumer).state.feed = pipeline.feed :=
      feed_handOver consumer pipeline
    have same' : (other.handOverFull consumer).state.feed = other.feed :=
      feed_handOver consumer other
    rw [same, same']
    exact facing.readers
  case drained.drained => exact .both rfl facing
  all_goals
    rw [phase, phase'] at phases
    cases phases

/-- Runs of sessions that face each other come to the same. The induction is on the steps that both
may still take, since one of the two may stay where it is. -/
theorem facing_run (consumer : Consumer τ) (lenient : Lenient options) (budget : Nat) :
    ∀ {pipeline other : Pipeline (LineReader × List Polled) τ} {written : List Json.Members},
      pipeline.stepsLeft LineReader.feed.recorded + other.stepsLeft LineReader.feed.recorded <
          budget →
      Facing pipeline other → pipeline.session.Stands type options written →
      (pipeline.run LineReader.feed.recorded consumer).failure =
          (other.run LineReader.feed.recorded consumer).failure ∧
        Facing (pipeline.run LineReader.feed.recorded consumer).state
          (other.run LineReader.feed.recorded consumer).state := by
  induction budget with
  | zero => exact fun left => absurd left (Nat.not_lt_zero _)
  | succ budget ih =>
    intro pipeline other written left facing stands
    have paired : Paired pipeline other
        (pipeline.step LineReader.feed.recorded.toFeed consumer)
        (other.step LineReader.feed.recorded.toFeed consumer) :=
      paired_step consumer facing (stands.keeps.options_eq ▸ lenient)
    have stays := exists_stands_step LineReader.feed.recorded.toFeed consumer stands
    cases paired with
    | left next step phase facing' =>
      -- Only the first session goes on; it has fewer steps left, and the other one waits.
      obtain ⟨same, fewer⟩ := run_of_awaiting step phase
      rw [step] at stays
      obtain ⟨written', stands'⟩ := stays (by simp [Over, phase, Phase.isDrained])
      rw [same]
      exact ih (by omega) facing' stands'
    | right next step phase facing' =>
      obtain ⟨same, fewer⟩ := run_of_awaiting step phase
      rw [same]
      exact ih (by omega) facing' stands
    | both failure facing' =>
      obtain ⟨session, -⟩ := bare_eq_iff.mp facing'.alike
      obtain ⟨-, -, -, phases⟩ := Session.parts_of_bare session
      have ends := congrArg Phase.isDrained phases
      rw [Phase.isDrained_bare, Phase.isDrained_bare] at ends
      -- Both have taken a step, and if one of them is over then so is the other.
      by_cases stop : Over (pipeline.step LineReader.feed.recorded.toFeed consumer)
      · rw [run_of_stop stop, run_of_stop (by rw [← failure, ← ends]; exact stop)]
        exact ⟨failure, facing'⟩
      · have going := stop
        rw [Over, failure, ends] at going
        obtain ⟨written', stands'⟩ := stays stop
        have fewer := stepsLeft_of_going stop
        have fewer' := stepsLeft_of_going going
        rw [run_of_going stop, run_of_going going]
        exact ih (by omega) facing' stands'

end

/-! ### What was read and left out -/

/-- A session has read some of the texts and counted those that it left out; and if it holds a record,
that was the last one. -/
structure Tracks (texts : List (List UInt8)) (pipeline : Pipeline (LineReader × List Polled) τ) :
    Prop where
  left : texts.drop pipeline.feed.1.line = pipeline.feed.1.texts
  skipped : pipeline.session.totals.skipped = noiseIn (texts.take pipeline.feed.1.line)
  last : pipeline.session.phase = .awaitingRecord ∨ pipeline.feed.1.finished = true ∨
    EndsWithObject (texts.take pipeline.feed.1.line)

/-- What was read before a poll and what the poll read are the first texts together, and what is
left are those behind them. -/
theorem take_of_took {texts read : List (List UInt8)} {reader next : LineReader}
    (left : texts.drop reader.line = reader.texts) (took : reader.Took next read) :
    texts.take next.line = texts.take reader.line ++ read ∧
      texts.drop next.line = next.texts := by
  rw [took.line_eq, List.take_add, ← List.drop_drop, left, took.texts_eq, List.take_left,
    List.drop_left]
  exact ⟨rfl, rfl⟩

/-- Handing a batch over leaves nothing out. -/
theorem skipped_handOver (consumer : Consumer τ) (pipeline : Pipeline σ τ) :
    (pipeline.handOver consumer).state.session.totals.skipped =
      pipeline.session.totals.skipped := by
  unfold handOver
  dsimp only
  split <;> rfl

/-- The end of a session leaves nothing out. -/
theorem skipped_finish (consumer : Consumer τ) (pipeline : Pipeline σ τ) :
    (pipeline.finish consumer).state.session.totals.skipped = pipeline.session.totals.skipped :=
  state_finish
    (P := fun other => other.session.totals.skipped = pipeline.session.totals.skipped)
    consumer rfl (skipped_handOver consumer pipeline) fun _ same => same

/-- A record that is converted is not left out, also if it fails or is put off. -/
theorem skipped_convertRow (consumer : Consumer τ) (pipeline : Pipeline σ τ)
    (pending : PendingRecord) :
    (pipeline.convertRow consumer pending).state.session.totals.skipped =
      pipeline.session.totals.skipped := by
  unfold convertRow
  dsimp only
  split
  · rfl
  · split
    · split
      · unfold convertGrowing
        dsimp only
        split <;> rfl
      · exact skipped_handOver _ _
    · rfl

/-- A failure that drains a session changes none of its totals. -/
theorem totals_settled (attempt : Attempt (Pipeline σ τ)) :
    (settled attempt).state.session.totals = attempt.state.session.totals := by
  unfold settled
  split <;> rfl

section

variable {consumer : Consumer τ} {pipeline : Pipeline (LineReader × List Polled) τ}
  {texts : List (List UInt8)}

/-- What reads nothing and leaves nothing out keeps track. -/
theorem Tracks.of_feed (tracks : Tracks texts pipeline)
    (busy : pipeline.session.phase ≠ .awaitingRecord)
    {attempt : Attempt (Pipeline (LineReader × List Polled) τ)}
    (feed : attempt.state.feed = pipeline.feed)
    (skipped : attempt.state.session.totals.skipped = pipeline.session.totals.skipped) :
    Tracks texts (settled attempt).state := by
  refine ⟨?_, ?_, .inr ?_⟩ <;> rw [feed_settled, feed]
  · exact tracks.left
  · rw [totals_settled, skipped, tracks.skipped]
  · exact tracks.last.resolve_left busy

/-- A poll keeps track. What it reads is a text that is left out, which is counted, or an object,
which is then the last thing read, or it is blank, before an object or at the end of the feed. -/
theorem tracks_awaitRecord (tracks : Tracks texts pipeline)
    (lenient : Lenient pipeline.session.options)
    (phase : pipeline.session.phase = .awaitingRecord) :
    Tracks texts
      (settled (pipeline.awaitRecord LineReader.feed.toFeed.recorded consumer)).state := by
  have heard := heard_awaitRecord consumer pipeline lenient
  generalize pipeline.awaitRecord LineReader.feed.toFeed.recorded consumer = attempt at heard ⊢
  cases heard with
  | noise next read took goes objects one counted kept =>
    obtain ⟨before, left⟩ := take_of_took tracks.left took
    refine ⟨left, ?_, .inl ?_⟩
    · show next.session.totals.skipped = noiseIn (texts.take next.feed.1.line)
      rw [before, noiseIn_append, one, ← tracks.skipped, counted]
      rfl
    · show next.session.phase = .awaitingRecord
      rw [counted]
      exact phase
  | object next read pending took goes objects none ends holds kept =>
    obtain ⟨before, left⟩ := take_of_took tracks.left took
    refine ⟨left, ?_, .inr (.inr ?_)⟩
    · show next.session.totals.skipped = noiseIn (texts.take next.feed.1.line)
      rw [before, noiseIn_append, none, ← tracks.skipped, holds]
      rfl
    · show EndsWithObject (texts.take next.feed.1.line)
      rw [before]
      exact ends _
  | ended polled read took nothing finished objects none kept consumed =>
    obtain ⟨before, left⟩ := take_of_took tracks.left took
    have skipped : polled.session.totals.skipped = noiseIn (texts.take polled.feed.1.line) := by
      rw [before, noiseIn_append, none, kept, tracks.skipped]
      rfl
    cases pipeline.feed.1.breaks with
    | true => exact ⟨left, skipped, .inr (.inl finished)⟩
    | false =>
      simp only [Bool.false_eq_true, if_false]
      refine ⟨?_, ?_, .inr (.inl ?_)⟩ <;> rw [feed_settled, feed_finish]
      · exact left
      · rw [totals_settled, skipped_finish, skipped]
      · exact finished

/-- Every step keeps track, because only a poll reads texts. -/
theorem tracks_step (consumer : Consumer τ) (tracks : Tracks texts pipeline)
    (lenient : Lenient pipeline.session.options) :
    Tracks texts (pipeline.step LineReader.feed.toFeed.recorded consumer).state := by
  rw [step_eq]
  unfold transition
  cases phase : pipeline.session.phase with
  | awaitingRecord => exact tracks_awaitRecord tracks lenient phase
  | convertingRow pending =>
    exact tracks.of_feed (by rw [phase]; nofun) (feed_convertRow consumer pipeline pending)
      (skipped_convertRow consumer pipeline pending)
  | batchFull =>
    exact tracks.of_feed (by rw [phase]; nofun) (feed_handOver consumer pipeline)
      (skipped_handOver consumer pipeline)
  | drained => exact tracks

/-- A run keeps track of what it reads, and leaves the session drained. -/
theorem tracks_run (consumer : Consumer τ) (lenient : Lenient options) :
    ∀ (pipeline : Pipeline (LineReader × List Polled) τ) {written : List Json.Members},
      Tracks texts pipeline → pipeline.session.Stands type options written →
        Tracks texts (pipeline.run LineReader.feed.recorded consumer).state ∧
          (pipeline.run LineReader.feed.recorded consumer).state.session.phase = .drained := by
  apply run.induct LineReader.feed.recorded consumer
  case case1 =>
    intro pipeline attempt stop written tracks stands
    rw [run_of_stop stop]
    refine ⟨tracks_step consumer tracks (stands.keeps.options_eq ▸ lenient), ?_⟩
    obtain failed | drained := stop
    · obtain ⟨failure, failed⟩ := Option.isSome_iff_exists.mp failed
      exact drained_of_failure failed
    · exact Phase.isDrained_iff.mp drained
  case case2 =>
    intro pipeline attempt going ih written tracks stands
    obtain ⟨written', stands'⟩ := exists_stands_step _ consumer stands going
    rw [run_of_going going]
    exact ih (tracks_step consumer tracks (stands.keeps.options_eq ▸ lenient)) stands'

end

/-- Two runs that came to face each other have read the two sides of a first part of the script. -/
theorem exists_front_of_tracks {pipeline other : Pipeline (LineReader × List Polled) τ}
    {edits : List LineEdit} (quiet : ∀ edit ∈ edits, edit.IsQuiet) (facing : Facing pipeline other)
    (tracks : Tracks (LineEdit.before edits) pipeline)
    (tracks' : Tracks (LineEdit.after edits) other)
    (drained : pipeline.session.phase = .drained) (drained' : other.session.phase = .drained) :
    ∃ front back, edits = front ++ back ∧
      LineEdit.before front = (LineEdit.before edits).take pipeline.feed.1.line ∧
      LineEdit.after front = (LineEdit.after edits).take other.feed.1.line := by
  have last := tracks.last.resolve_left (by simp [drained])
  have last' := tracks'.last.resolve_left (by simp [drained'])
  cases finished : pipeline.feed.1.finished with
  | true =>
    -- Both have read all texts.
    have finished' : other.feed.1.finished = true := facing.readers.finished ▸ finished
    have left := tracks.left
    have left' := tracks'.left
    rw [LineReader.texts, if_pos finished] at left
    rw [LineReader.texts, if_pos finished'] at left'
    refine ⟨edits, [], (List.append_nil edits).symm, ?_, ?_⟩
    · rw [List.take_of_length_le (List.drop_eq_nil_iff.mp left)]
    · rw [List.take_of_length_le (List.drop_eq_nil_iff.mp left')]
  | false =>
    -- Each has read up to an object, and the objects behind it are the same.
    have finished' : other.feed.1.finished = false := facing.readers.finished ▸ finished
    rw [finished] at last
    rw [finished'] at last'
    have rest := congrArg List.length facing.readers.objects
    rw [← tracks.left, ← tracks'.left] at rest
    have all := congrArg List.length (LineEdit.objectsIn_sides quiet)
    rw [← List.take_append_drop pipeline.feed.1.line (LineEdit.before edits),
      ← List.take_append_drop other.feed.1.line (LineEdit.after edits), objectsIn_append,
      objectsIn_append, List.length_append, List.length_append, rest] at all
    exact LineEdit.exists_front quiet (List.take_append_drop _ _).symm
      (List.take_append_drop _ _).symm (last.resolve_left Bool.false_ne_true)
      (last'.resolve_left Bool.false_ne_true) (Nat.add_right_cancel all)

section

variable {session : Session}

/-- New sessions on streams with the same objects and the same end face each other. -/
theorem facing_ofStream {stream stream' : ByteStream}
    (objects : objectsIn (stream.lines.map trimAscii) = objectsIn (stream'.lines.map trimAscii))
    (ends : stream.breaksOff = stream'.breaksOff) (noted : List Polled) (consumed : τ)
    (log : List Event) :
    Facing ⟨session, (.ofStream stream, noted), consumed, log⟩
      ⟨session, (.ofStream stream', noted), consumed, log⟩ :=
  ⟨rfl, objects, congrArg (true && ·) ends, rfl⟩

/-- A new session has read nothing and left nothing out. -/
theorem tracks_ofStream (phase : session.phase = .awaitingRecord) (totals : session.totals = .zero)
    (stream : ByteStream) (noted : List Polled) (consumed : τ) (log : List Event) :
    Tracks (stream.lines.map trimAscii) ⟨session, (.ofStream stream, noted), consumed, log⟩ := by
  refine ⟨rfl, ?_, .inl phase⟩
  show session.totals.skipped = 0
  rw [totals]
  rfl

end

end Pipeline

open Pipeline in
/-- Rejected input is noise. Two streams of lines differ in lines that are inserted or removed, none of
which is an object, and otherwise have the same texts; and they end in the same way. A session that
leaves out what is no record offers the consumer the same batches on both, gets the same answers, and
comes to the same end: the same failure, if any, the same rows in its batch, the same totals of records
and batches. What it left out differs by the texts that were inserted or removed among those that were
polled, blank ones apart. Both runs are observed, which changes nothing about them. -/
theorem noise_changes_nothing {τ : Type} {type : DataType} {options : Options} {session : Session}
    (started : Session.start type options = .ok session) (malformed : options.onMalformed = .skip)
    (notObject : options.onNotObject = .skip) (consumer : Consumer τ) (consumed : τ)
    (stream stream' : ByteStream) (ends : stream.breaksOff = stream'.breaksOff)
    (edits : List LineEdit) (quiet : ∀ edit ∈ edits, edit.IsQuiet)
    (sides : LineEdit.before edits = stream.lines.map trimAscii)
    (sides' : LineEdit.after edits = stream'.lines.map trimAscii) :
    let plain (stream : ByteStream) := (Pipeline.mk session (.ofStream stream) consumed []).run
      LineReader.feed consumer
    let observed (stream : ByteStream) :=
      (Pipeline.mk session (.ofStream stream, []) (consumed, []) []).run LineReader.feed.recorded
        consumer.watched
    let one := observed stream
    let other := observed stream'
    (∀ stream, (observed stream).map forget = plain stream) ∧
      one.failure = other.failure ∧ one.state.consumer = other.state.consumer ∧
      one.state.session.batch = other.state.session.batch ∧
      one.state.session.totals.records = other.state.session.totals.records ∧
      one.state.session.totals.batches = other.state.session.totals.batches ∧
      ∃ front back, edits = front ++ back ∧
        LineEdit.before front = (stream.lines.take one.state.feed.1.line).map trimAscii ∧
        LineEdit.after front = (stream'.lines.take other.state.feed.1.line).map trimAscii ∧
        other.state.session.totals.skipped + noiseIn (LineEdit.removals front) =
          one.state.session.totals.skipped + noiseIn (LineEdit.insertions front) := by
  intro plain observed one other
  obtain ⟨stands, phase, totals⟩ := Session.stands_of_start started
  have lenient : Lenient options := ⟨malformed, notObject⟩
  have objects : objectsIn (stream.lines.map trimAscii) = objectsIn (stream'.lines.map trimAscii) := by
    rw [← sides, ← sides', LineEdit.objectsIn_sides quiet]
  -- Side by side the runs come to the same, line numbers and what was left out apart.
  obtain ⟨failure, facing⟩ := facing_run consumer.watched lenient _ (Nat.lt_succ_self _)
    (facing_ofStream objects ends [] (consumed, []) []) stands
  -- Each of them on its own has counted what it left out among the texts that it read.
  obtain ⟨tracks, drained⟩ := tracks_run consumer.watched lenient _
    (tracks_ofStream phase totals stream [] (consumed, []) []) stands
  obtain ⟨tracks', drained'⟩ := tracks_run consumer.watched lenient _
    (tracks_ofStream phase totals stream' [] (consumed, []) []) stands
  obtain ⟨sessions, consumers⟩ := bare_eq_iff.mp facing.alike
  obtain ⟨-, -, batch, -⟩ := Session.parts_of_bare sessions
  have records := congrArg (fun session => session.totals.records) sessions
  have batches := congrArg (fun session => session.totals.batches) sessions
  refine ⟨fun stream => run_observed LineReader.feed consumer.observes_watched
    ⟨session, (.ofStream stream, []), (consumed, []), []⟩, failure, consumers, batch, records, batches,
    ?_⟩
  rw [← sides] at tracks
  rw [← sides'] at tracks'
  -- What the two have read are the sides of one first part of the script.
  obtain ⟨front, back, parts, before, after⟩ :=
    exists_front_of_tracks quiet facing tracks tracks' drained drained'
  have skipped : one.state.session.totals.skipped = noiseIn (LineEdit.before front) := by
    rw [before]
    exact tracks.skipped
  have skipped' : other.state.session.totals.skipped = noiseIn (LineEdit.after front) := by
    rw [after]
    exact tracks'.skipped
  refine ⟨front, back, parts, ?_, ?_, ?_⟩
  · rw [before, sides, List.map_take]
  · rw [after, sides', List.map_take]
  · rw [skipped, skipped']
    exact LineEdit.noiseIn_sides front

/-- Two lists, the second of which is put off to a batch of its own; and the same with a line that is no
JSON before them, a blank one and a number between them, and an array behind them without a line feed. -/
theorem noise_changes_nothing_around_lists :
    let type := DataType.struct .default [("a", .listOf (.ofPrimitive (.integer .regular)))]
    let options : Options := ⟨2, .skip, .skip, .abort, .defer⟩
    let batch := (RecordBatch.mk type 2 0 (Column.allocateFields 2 type.fields)).setGrowable false
    let session : Session := ⟨⟨type, .abort⟩, options, batch, .awaitingRecord, .zero⟩
    let consumer : Consumer Nat := ⟨fun batch rows => .ok (rows + batch.size)⟩
    let text (line : String) : List UInt8 := line.toUTF8.toList
    let short := text "\x7b\"a\":[1]\x7d"
    let long := text "\x7b\"a\":[2,3,4]\x7d"
    let stream : ByteStream := ⟨[short ++ [10], long], false⟩
    let stream' : ByteStream :=
      ⟨[text "oops\n", short ++ [10], text " \n7\n", long ++ [10], text "[]"], false⟩
    let edits : List LineEdit := [.inserted (text "oops"), .kept short, .inserted [],
      .inserted (text "7"), .kept long, .inserted (text "[]")]
    let observed (stream : ByteStream) :=
      (Pipeline.mk session (.ofStream stream, []) (0, []) []).run LineReader.feed.recorded
        consumer.watched
    Session.start type options = .ok session ∧
      LineEdit.before edits = stream.lines.map trimAscii ∧
      LineEdit.after edits = stream'.lines.map trimAscii ∧
      (observed stream).failure = none ∧ (observed stream').failure = none ∧
      (observed stream').state.consumer.2.map RecordBatch.size = [1, 1] ∧
      (observed stream).state.session.totals.skipped = 0 ∧
      (observed stream').state.session.totals.skipped = 3 := by
  intro type options batch session consumer text short long stream stream' edits observed
  have started : Session.start type options = .ok session := rfl
  have sides : LineEdit.before edits = stream.lines.map trimAscii := by decide +kernel
  have sides' : LineEdit.after edits = stream'.lines.map trimAscii := by decide +kernel
  have quiet : ∀ edit ∈ edits, edit.IsQuiet := by decide +kernel
  have clean : (observed stream).failure = none := by decide +kernel
  have sizes : (observed stream).state.consumer.2.map RecordBatch.size = [1, 1] := by decide +kernel
  have skipped : (observed stream).state.session.totals.skipped = 0 := by decide +kernel
  have skipped' : (observed stream').state.session.totals.skipped = 3 := by decide +kernel
  obtain ⟨-, failure, consumers, -⟩ := noise_changes_nothing started rfl rfl consumer 0 stream
    stream' rfl edits quiet sides sides'
  refine ⟨started, sides, sides', clean, failure.symm.trans clean, ?_, skipped, skipped'⟩
  exact (congrArg (fun state => state.2.map RecordBatch.size) consumers).symm.trans sizes

end Columnar
