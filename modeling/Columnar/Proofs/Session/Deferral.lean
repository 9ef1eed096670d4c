import Columnar.Proofs.Session.Outcomes
/-!
# Putting records off

Where a record for whose children there is no room goes into the next batch, child columns may grow
between no two steps, and the slots of the batch change only for a record that finds it empty. A batch
that is not full is offered at the end of the feed or for such a record, and that record is the first
row of the batch that comes after it (`deferral_disciplined`).
-/

set_option autoImplicit false

namespace Columnar.Pipeline

variable {σ τ : Type} {type : DataType} {options : Options} {written : List Json.Members}
  {feed : Feed σ} {consumer : Consumer τ}

/-- A record leads once some number of batches was offered: it is the first row of the batch that is
filled, or it was that of the next batch that was offered, or the session was drained before, which
takes a failure. -/
inductive Leads (type : DataType) (options : Options) (noted : Nat) (record : Json.Members)
    (failed : Prop) (pipeline : Pipeline σ (τ × List RecordBatch)) : Prop
  | filling (written : List Json.Members) (stands : pipeline.session.Stands type options written)
      (first : written[0]? = some record) (length_eq : pipeline.consumer.2.length = noted)
  | offered (next : RecordBatch) (standing : pipeline.Standing type options)
      (found : pipeline.consumer.2[noted]? = some next)
      (first : next.row? 0 = some (storedRecord options.onCellFailure type record))
  | drained (drains : failed) (drained : pipeline.session.phase = .drained)
      (length_eq : pipeline.consumer.2.length = noted)

section

variable {pipeline : Pipeline σ (τ × List RecordBatch)} {noted : Nat} {record : Json.Members}

/-- A record leads as well if more may count as a failure. -/
theorem Leads.mono {failed failed' : Prop} (leads : pipeline.Leads type options noted record failed)
    (weaker : failed → failed') : pipeline.Leads type options noted record failed' := by
  cases leads with
  | filling written stands first length_eq => exact .filling written stands first length_eq
  | offered next standing found first => exact .offered next standing found first
  | drained drains drained length_eq => exact .drained (weaker drains) drained length_eq

/-- Once the next batch was offered, the record that leads is its first row. -/
theorem Leads.row?_offered {failed : Prop}
    (leads : pipeline.Leads type options noted record failed) {next : RecordBatch}
    (found : pipeline.consumer.2[noted]? = some next) :
    next.row? 0 = some (storedRecord options.onCellFailure type record) := by
  cases leads with
  | offered other standing found' first =>
    cases found.symm.trans found'
    exact first
  | filling _ _ _ length_eq | drained _ _ length_eq =>
    rw [List.getElem?_eq_none (Nat.le_of_eq length_eq)] at found
    cases found

/-- Until the next batch is offered, the record that leads is the first row of the batch that is
filled, as long as nothing fails. -/
theorem Leads.row?_filling {failed : Prop}
    (leads : pipeline.Leads type options noted record failed) (goes : ¬failed)
    (length_eq : pipeline.consumer.2.length = noted) :
    pipeline.session.batch.row? 0 = some (storedRecord options.onCellFailure type record) := by
  cases leads with
  | filling written stands first _ => exact stands.keeps.row?_eq first
  | offered other standing found first =>
    rw [List.getElem?_eq_none (Nat.le_of_eq length_eq)] at found
    cases found
  | drained drains => exact absurd drains goes

/-- A batch that is offered is noted behind those that were. -/
theorem noted_of_offered {batch : RecordBatch} {next : Pipeline σ (τ × List RecordBatch)}
    (consumed : next.consumer = (consumer.watched.accept batch pipeline.consumer).state) :
    next.consumer.2 = pipeline.consumer.2 ++ [batch] := by
  rw [consumed]
  rfl

/-- The first record of a session that stands leads after a step, whether it was a row before or is
the one that the session holds. -/
theorem leads_of_moved {attempt : Attempt (Pipeline σ (τ × List RecordBatch))}
    (moved : Moved feed consumer.watched type options written pipeline attempt)
    (first : (written ++ pipeline.session.phase.pending)[0]? = some record)
    (length_eq : pipeline.consumer.2.length = noted) :
    attempt.state.Leads type options noted record (attempt.failure ≠ none) := by
  have standing := moved.standing
  have offers : ∀ {batch : RecordBatch} {phase : Phase},
      pipeline.Offer feed type options written batch phase →
        batch.row? 0 = some (storedRecord options.onCellFailure type record) := by
    intro batch phase offer
    -- The batch has rows, so the first record is one of them and not the one that is held.
    have rows : 0 < written.length := by
      rw [← offer.keeps.size_eq]
      exact Nat.pos_of_ne_zero (beq_eq_false_iff_ne.mp offer.filled)
    rw [List.getElem?_append_left rows] at first
    exact offer.keeps.row?_eq first
  have here : ∀ batch, (pipeline.consumer.2 ++ [batch])[noted]? = some batch := by
    intro batch
    rw [← length_eq, List.getElem?_append_right (Nat.le_refl _), Nat.sub_self]
    rfl
  cases moved with
  | kept next stands consumed slots =>
    exact .filling _ stands first (by rw [Attempt.state_ok, consumed, length_eq])
  | failed next failure fault shaped consumed drained slots =>
    exact .drained (by simp) drained (by rw [Attempt.state_failed, consumed, length_eq])
  | taken next batch phase offer accepted stands consumed emptied stood =>
    refine .offered batch standing ?_ (offers offer)
    rw [Attempt.state_ok, noted_of_offered consumed, here]
  | refused next batch phase cause offer unaccepted consumed left drained totals =>
    refine .offered batch standing ?_ (offers offer)
    rw [Attempt.state_failed, noted_of_offered consumed, here]

/-- What was offered stays noted. -/
theorem found_of_moved {attempt : Attempt (Pipeline σ (τ × List RecordBatch))} {next : RecordBatch}
    (moved : Moved feed consumer.watched type options written pipeline attempt)
    (found : pipeline.consumer.2[noted]? = some next) :
    attempt.state.consumer.2[noted]? = some next := by
  have before := (List.getElem?_eq_some_iff.mp found).1
  cases moved with
  | kept after stands consumed slots => rw [Attempt.state_ok, consumed, found]
  | failed after failure fault shaped consumed drained slots =>
    rw [Attempt.state_failed, consumed, found]
  | taken after batch phase offer accepted stands consumed emptied stood =>
    rw [Attempt.state_ok, noted_of_offered consumed, List.getElem?_append_left before, found]
  | refused after batch phase cause offer unaccepted consumed left drained totals =>
    rw [Attempt.state_failed, noted_of_offered consumed, List.getElem?_append_left before, found]

/-- A record that leads does so after one step more, unless that step fails before the next batch is
offered. -/
theorem leads_step (feed : Feed σ) (consumer : Consumer τ)
    (leads : pipeline.Leads type options noted record False) :
    (pipeline.step feed consumer.watched).state.Leads type options noted record
      ((pipeline.step feed consumer.watched).failure ≠ none) := by
  cases leads with
  | filling written stands first length_eq =>
    have inside := (List.getElem?_eq_some_iff.mp first).1
    refine leads_of_moved (moved_step feed consumer.watched stands) ?_ length_eq
    rw [List.getElem?_append_left inside, first]
  | offered next standing found first =>
    obtain ⟨written, stands⟩ | ⟨drained, shaped⟩ := standing
    · have moved := moved_step feed consumer.watched stands
      exact .offered next moved.standing (found_of_moved moved found) first
    · rw [step_of_drained drained]
      exact .offered next (.inr ⟨drained, shaped⟩) found first
  | drained drains => exact drains.elim

/-- A record that leads after the first step leads after all of them, if it goes on leading. -/
theorem leads_succ {n : Nat}
    (first : (pipeline.step feed consumer.watched).state.Leads type options noted record
      ((pipeline.step feed consumer.watched).failure ≠ none))
    (others : ∀ {later : Pipeline σ (τ × List RecordBatch)},
      later.Leads type options noted record False →
        (later.advance feed consumer.watched n).Leads type options noted record
          ((later.steps feed consumer.watched n).failure ≠ none)) :
    (pipeline.advance feed consumer.watched (n + 1)).Leads type options noted record
      ((pipeline.steps feed consumer.watched (n + 1)).failure ≠ none) := by
  rw [advance, steps, Attempt.andThen]
  cases failed : (pipeline.step feed consumer.watched).failure with
  | none =>
    rw [failed] at first
    exact others (first.mono fun fails => fails rfl)
  | some failure =>
    -- The step that failed has drained the session, so nothing is offered after it.
    rw [advance_of_drained (drained_of_failure failed)]
    exact first.mono fun _ => by simp [failed]

/-- A record that leads goes on leading, whatever steps are taken. -/
theorem leads_advance (feed : Feed σ) (consumer : Consumer τ) (n : Nat) :
    ∀ {pipeline : Pipeline σ (τ × List RecordBatch)},
      pipeline.Leads type options noted record False →
        (pipeline.advance feed consumer.watched n).Leads type options noted record
          ((pipeline.steps feed consumer.watched n).failure ≠ none) := by
  induction n with
  | zero => exact fun leads => leads.mono False.elim
  | succ n ih => exact fun leads => leads_succ (leads_step feed consumer leads) ih

end

/-- A batch was offered to put a record off. -/
structure PutOff (feed : Feed σ) (consumer : Consumer τ) (type : DataType) (options : Options)
    (before : Pipeline (σ × List Polled) (τ × List RecordBatch))
    (attempt : Attempt (Pipeline (σ × List Polled) (τ × List RecordBatch)))
    (batch : RecordBatch) (pending : PendingRecord) : Prop where
  phase : before.session.phase = .convertingRow pending
  overflows : before.session.Overflows pending
  rows_eq : batch.rows = before.session.batch.rows
  /-- The record is the first row of the batch that is offered next, if one is. -/
  next : ∀ n next, (attempt.state.advance feed.recorded consumer.watched n).consumer.2[
      before.consumer.2.length + 1]? = some next →
    next.row? 0 = some (storedRecord options.onCellFailure type pending.record)
  /-- Until then it is the first row of the batch that is filled, unless a step fails. -/
  filling : ∀ n, (attempt.andThen (steps feed.recorded consumer.watched (n + 1))).failure = none →
    (attempt.state.advance feed.recorded consumer.watched (n + 1)).consumer.2.length =
      before.consumer.2.length + 1 →
    (attempt.state.advance feed.recorded consumer.watched (n + 1)).session.batch.row? 0 =
      some (storedRecord options.onCellFailure type pending.record)

/-- What is put off leads. The batch offered has the rows of before, and in the session that goes on
the record is held beside no rows, so that it is the first one to be written. The induction over the
steps that follow is that of `leads_advance`. -/
theorem putOff_of_noted {before : Pipeline (σ × List Polled) (τ × List RecordBatch)}
    {attempt : Attempt (Pipeline (σ × List Polled) (τ × List RecordBatch))} {batch : RecordBatch}
    {pending : PendingRecord} (phase : before.session.phase = .convertingRow pending)
    (overflows : before.session.Overflows pending)
    (rows_eq : batch.rows = before.session.batch.rows)
    (noted : attempt.state.consumer.2 = before.consumer.2 ++ [batch])
    (goes : attempt.failure = none → attempt.state.session.Stands type options [] ∧
      attempt.state.session.phase = .convertingRow pending)
    (stops : attempt.failure ≠ none → attempt.state.session.phase = .drained) :
    PutOff feed consumer type options before attempt batch pending := by
  have length_eq : attempt.state.consumer.2.length = before.consumer.2.length + 1 := by
    rw [noted, List.length_append, List.length_singleton]
  have beyond := List.getElem?_eq_none (Nat.le_of_eq length_eq)
  -- The record leads from the first step on, in which it becomes a row or the session fails.
  have leads : attempt.failure = none → ∀ n,
      (attempt.state.advance feed.recorded consumer.watched (n + 1)).Leads type options
        (before.consumer.2.length + 1) pending.record
        ((attempt.state.steps feed.recorded consumer.watched (n + 1)).failure ≠ none) := by
    intro clean n
    obtain ⟨stands, holds⟩ := goes clean
    have moved := moved_step feed.recorded consumer.watched stands
    refine leads_succ (leads_of_moved moved ?_ length_eq) (leads_advance feed.recorded consumer n)
    rw [holds]
    rfl
  refine ⟨phase, overflows, rows_eq, ?_, ?_⟩
  · intro n next found
    cases n with
    | zero =>
      rw [advance, beyond] at found
      cases found
    | succ n =>
      cases failed : attempt.failure with
      | none => exact (leads failed n).row?_offered found
      | some failure =>
        rw [advance_of_drained (stops (by simp [failed])), beyond] at found
        cases found
  · intro n clean still
    obtain ⟨first, others⟩ := (Attempt.failure_andThen_eq_none_iff _ _).mp clean
    exact (leads first n).row?_filling (fun fails => fails others) still

/-- How a session that puts records off takes a step. -/
structure Disciplined (feed : Feed σ) (consumer : Consumer τ) (type : DataType) (options : Options)
    (before : Pipeline (σ × List Polled) (τ × List RecordBatch))
    (attempt : Attempt (Pipeline (σ × List Polled) (τ × List RecordBatch))) : Prop where
  /-- No list or map may grow its children, before the step and after it. -/
  fixed : ∀ flag ∈ before.session.batch.growables ++ attempt.state.session.batch.growables,
    flag = false
  /-- Slots change only if the batch is empty and the record that is held finds no room in it. -/
  slots : attempt.state.session.batch.allocation ≠ before.session.batch.allocation →
    before.session.MayGrow
  /-- At most one batch is offered, and one that is not full at the end of the feed only, or for a
  record that is put off. -/
  offers : ∃ offered : Option RecordBatch,
    attempt.state.consumer.2 = before.consumer.2 ++ offered.toList ∧
      ∀ batch ∈ offered, batch.size < options.capacity →
        (before.session.phase = .awaitingRecord ∧ (feed.poll before.feed.1).1 = .exhausted) ∨
          ∃ pending, PutOff feed consumer type options before attempt batch pending

/-- Why a batch that is not full was offered. -/
theorem putOff_of_occasion {before : Pipeline (σ × List Polled) (τ × List RecordBatch)}
    {attempt : Attempt (Pipeline (σ × List Polled) (τ × List RecordBatch))} {batch : RecordBatch}
    {phase : Phase} (stands : before.session.Stands type options written)
    (offer : before.Offer feed.recorded type options written batch phase)
    (noted : attempt.state.consumer.2 = before.consumer.2 ++ [batch])
    (goes : attempt.failure = none → attempt.state.session.Stands type options [] ∧
      attempt.state.session.phase = phase)
    (stops : attempt.failure ≠ none → attempt.state.session.phase = .drained)
    (small : batch.size < options.capacity) :
    (before.session.phase = .awaitingRecord ∧ (feed.poll before.feed.1).1 = .exhausted) ∨
      ∃ pending, PutOff feed consumer type options before attempt batch pending := by
  have rows : batch.rows = before.session.batch.rows :=
    offer.keeps.rows_eq.trans stands.keeps.rows_eq.symm
  cases offer.occasion with
  | full phase full =>
    have size : before.session.batch.size = before.session.batch.capacity := beq_iff_eq.mp full
    have capacity := stands.keeps.capacity_eq
    omega
  | exhausted phase ended => exact .inl ⟨phase, ended⟩
  | deferred pending phase overflows =>
    exact .inr ⟨pending, putOff_of_noted phase overflows rows noted goes stops⟩

/-- Each of the outcomes of a step shows discipline. Only an outcome that offers no batch may change
slots, and only one that offers a batch needs a reason for its size. -/
theorem disciplined_of_moved (defers : options.onOverflow = .defer)
    {before : Pipeline (σ × List Polled) (τ × List RecordBatch)}
    {attempt : Attempt (Pipeline (σ × List Polled) (τ × List RecordBatch))}
    (stands : before.session.Stands type options written)
    (moved : Moved feed.recorded consumer.watched type options written before attempt) :
    Disciplined feed consumer type options before attempt := by
  have fixed := options.growsChildren_eq_false_iff.mpr defers
  have shaped := stands.keeps.shaped
  have shaped' := moved.standing.shaped
  rw [fixed] at shaped shaped'
  refine ⟨List.forall_mem_append.mpr ⟨shaped.growables_eq, shaped'.growables_eq⟩, ?_, ?_⟩
  -- Handing a batch over keeps its slots, so only a second trial can have changed them.
  · intro changes
    cases moved with
    | kept next stands' consumed slots => exact (slots defers).resolve_left changes
    | failed next failure fault shaped consumed drained slots =>
      exact (slots defers).resolve_left changes
    | taken next batch phase offer accepted stands' consumed emptied stood =>
      refine absurd ?_ changes
      rw [Attempt.state_ok, emptied, RecordBatch.allocation_reset, offer.slots defers]
    | refused next batch phase cause offer unaccepted consumed left drained totals =>
      refine absurd ?_ changes
      rw [Attempt.state_failed, left, offer.slots defers]
  · cases moved with
    | kept next stands' consumed slots =>
      exact ⟨none, by rw [Attempt.state_ok, consumed]; exact (List.append_nil _).symm, nofun⟩
    | failed next failure fault shaped consumed drained slots =>
      exact ⟨none, by rw [Attempt.state_failed, consumed]; exact (List.append_nil _).symm, nofun⟩
    | taken next batch phase offer accepted stands' consumed emptied stood =>
      refine ⟨some batch, noted_of_offered consumed, ?_⟩
      rintro _ ⟨⟩ small
      exact putOff_of_occasion stands offer (noted_of_offered consumed)
        (fun _ => ⟨stands', stood⟩) (fun fails => absurd rfl fails) small
    | refused next batch phase cause offer unaccepted consumed left drained totals =>
      refine ⟨some batch, noted_of_offered consumed, ?_⟩
      rintro _ ⟨⟩ small
      exact putOff_of_occasion stands offer (noted_of_offered consumed) nofun (fun _ => drained) small

/-- Every step shows discipline. One that is taken after the session was drained does nothing at
all. -/
theorem disciplined_step (defers : options.onOverflow = .defer) (feed : Feed σ)
    (consumer : Consumer τ) {before : Pipeline (σ × List Polled) (τ × List RecordBatch)}
    (standing : before.Standing type options) :
    Disciplined feed consumer type options before
      (before.step feed.recorded consumer.watched) := by
  obtain ⟨written, stands⟩ | ⟨drained, shaped⟩ := standing
  · exact disciplined_of_moved defers stands (moved_step feed.recorded consumer.watched stands)
  · rw [options.growsChildren_eq_false_iff.mpr defers] at shaped
    rw [step_of_drained drained]
    refine ⟨List.forall_mem_append.mpr ⟨shaped.growables_eq, shaped.growables_eq⟩,
      fun changes => absurd rfl changes, none, ?_, nofun⟩
    exact (List.append_nil _).symm

end Columnar.Pipeline

namespace Columnar

/-- Records are put off with discipline. A session that does so is watched for any number of steps,
failed ones too, and one more, which changes nothing about them. No list or map may grow its children
before or after that step. It changes the slots of the batch only for a record that finds no room in
an empty one. A batch that is not full is offered in it only at the end of the feed, or because a
record finds no room beside the rows; and then that record, if the session goes on, is the first row
of the next batch. -/
theorem deferral_disciplined {σ τ : Type} {type : DataType} (valid : type.validateRoot = .ok ())
    (options : Options) (positive : 0 < options.capacity) (defers : options.onOverflow = .defer)
    (feed : Feed σ) (consumer : Consumer τ) (given : σ) (consumed : τ) (n : Nat) :
    ∃ session, Session.start type options = .ok session ∧
      let plain := (Pipeline.mk session given consumed []).advance feed consumer n
      let before := (Pipeline.mk session (given, []) (consumed, []) []).advance feed.recorded
        consumer.watched n
      let attempt := before.step feed.recorded consumer.watched
      before.forget = plain ∧ attempt.map Pipeline.forget = plain.step feed consumer ∧
        Pipeline.Disciplined feed consumer type options before attempt := by
  obtain ⟨session, started, begun⟩ := Session.exists_stands_start valid positive
  refine ⟨session, started, ?_⟩
  intro plain before attempt
  have same : before.forget = plain :=
    Pipeline.advance_observed feed consumer.observes_watched n
      ⟨session, (given, []), (consumed, []), []⟩
  have standing : before.Standing type options :=
    Pipeline.standing_advance feed.recorded consumer.watched n (.inl ⟨[], begun⟩)
  rw [← same]
  exact ⟨rfl, Pipeline.step_observed feed consumer.observes_watched before,
    Pipeline.disciplined_step defers feed consumer standing⟩

/-- A list that is too long for the slots beside the first one is put off: the child column grows for
it, and it is the first row of the second batch. -/
theorem deferral_disciplined_long_list :
    let type := DataType.struct .default [("a", .listOf (.ofPrimitive (.integer .regular)))]
    let options : Options := ⟨2, .skip, .skip, .abort, .defer⟩
    let batch := (RecordBatch.mk type 2 0 (Column.allocateFields 2 type.fields)).setGrowable false
    let session : Session := ⟨⟨type, .abort⟩, options, batch, .awaitingRecord, .zero⟩
    let values := ValueQueue.ofList
      [.object [("a", .array [.int 1])], .object [("a", .array [.int 2, .int 3, .int 4])]]
    let feed := ValueQueue.feed.toFeed
    let consumer : Consumer Nat := ⟨fun batch rows => .ok (rows + batch.size)⟩
    let before := (Pipeline.mk session (values, []) (0, []) []).advance feed.recorded
      consumer.watched 3
    let attempt := before.step feed.recorded consumer.watched
    let later := attempt.state.advance feed.recorded consumer.watched 2
    Session.start type options = .ok session ∧
      attempt.state.consumer.2.map RecordBatch.size = [1] ∧
      (∀ flag ∈ attempt.state.session.batch.growables, flag = false) ∧
      attempt.state.session.batch.allocation = [2, 2] ∧
      later.session.batch.allocation = [2, 4] ∧
      later.consumer.2.map RecordBatch.size = [1, 1] ∧
      ∃ pending, before.session.phase = .convertingRow pending ∧ ∀ next,
        later.consumer.2[1]? = some next →
          next.row? 0 = some (storedRecord .abort type pending.record) := by
  intro type options batch session values feed consumer before attempt later
  have valid : type.validateRoot = .ok () := rfl
  have started : Session.start type options = .ok session := rfl
  have disciplined : Pipeline.Disciplined feed consumer type options before attempt := by
    obtain ⟨_, started', -, -, disciplined⟩ :=
      deferral_disciplined valid options Nat.two_pos rfl feed consumer values 0 3
    cases started.symm.trans started'
    exact disciplined
  have untouched : before.consumer.2.map RecordBatch.size = [] := by decide +kernel
  have holding : before.session.phase.pending.length = 1 := by decide +kernel
  have sizes : attempt.state.consumer.2.map RecordBatch.size = [1] := by decide +kernel
  have slots : attempt.state.session.batch.allocation = [2, 2] := by decide +kernel
  have slots' : later.session.batch.allocation = [2, 4] := by decide +kernel
  have sizes' : later.consumer.2.map RecordBatch.size = [1, 1] := by decide +kernel
  refine ⟨started, sizes, (List.forall_mem_append.mp disciplined.fixed).2, slots, slots', sizes', ?_⟩
  have twice : later = attempt.state.advance feed.recorded consumer.watched 2 := rfl
  clear_value later attempt before
  obtain ⟨offered, noted, reasons⟩ := disciplined.offers
  rw [noted, List.map_append, untouched, List.nil_append] at sizes
  cases offered with
  | none => cases sizes
  | some batch =>
    have small : batch.size < options.capacity := by
      rw [Option.toList_some, List.map_singleton, List.singleton_inj] at sizes
      rw [sizes]
      exact Nat.one_lt_two
    obtain ⟨idle, -⟩ | ⟨pending, putOff⟩ := reasons batch rfl small
    · rw [idle] at holding
      cases holding
    · have first : before.consumer.2.length = 0 := by
        rw [← List.length_map RecordBatch.size, untouched, List.length_nil]
      refine ⟨pending, putOff.phase, fun next found => putOff.next 2 next ?_⟩
      rw [first, ← twice]
      exact found

end Columnar
