import Columnar.Proofs.Column.Preserved
import Columnar.Proofs.Column.Stored
/-!
# Writes do not touch live rows

A write into a row that is not live leaves the live rows as they are and anchored, however far it
gets before it fails: it takes child slots behind those that are taken, and puts bytes behind the
buffer. When it goes through, its row is anchored like the others and may be live from then on
(`frames_write`).
-/

set_option autoImplicit false

namespace Columnar.Column

/-- What it means that the live rows of a state are anchored, and that another state preserves
them. -/
structure Framing (σ : Type) where
  Anchored : (Nat → Prop) → σ → Prop
  Preserves : (Nat → Prop) → σ → σ → Prop
  anchored_mono : ∀ {live live' : Nat → Prop} {state : σ}, (∀ row, live' row → live row) →
    Anchored live state → Anchored live' state
  preserves_mono : ∀ {live live' : Nat → Prop} {before after : σ}, (∀ row, live' row → live row) →
    Preserves live before after → Preserves live' before after
  refl : ∀ (live : Nat → Prop) (state : σ), Preserves live state state
  trans : ∀ {live : Nat → Prop} {before middle after : σ}, Preserves live before middle →
    Preserves live middle after → Preserves live before after

/-- An attempt to fill fresh rows leaves the live ones as they are and anchored, and anchors the fresh
ones if it goes through. -/
structure Frames {σ : Type} (framing : Framing σ) (live fresh : Nat → Prop) (before : σ)
    (attempt : Attempt σ) : Prop where
  anchored : framing.Anchored live attempt.state
  preserves : framing.Preserves live before attempt.state
  added : attempt.failure = none → framing.Anchored (fun row => live row ∨ fresh row) attempt.state

section

variable {σ : Type} {framing : Framing σ} {live fresh later : Nat → Prop} {before : σ}

/-- A write that goes through frames the live rows if it keeps them and anchors its own rows with
them. -/
theorem Frames.of_ok {state : σ} (preserves : framing.Preserves live before state)
    (added : framing.Anchored (fun row => live row ∨ fresh row) state) :
    Frames framing live fresh before (.ok state) :=
  ⟨framing.anchored_mono (fun _ => .inl) added, preserves, fun _ => added⟩

/-- A write that fails before it does anything frames whatever was anchored. -/
theorem Frames.of_failed (anchored : framing.Anchored live before) (failure : Failure) :
    Frames framing live fresh before (.failed before failure) :=
  ⟨anchored, framing.refl live before, fun clean => nomatch clean⟩

/-- A write that anchors some new rows anchors any of them. -/
theorem Frames.mono {attempt : Attempt σ} (fewer : ∀ row, later row → fresh row)
    (frames : Frames framing live fresh before attempt) :
    Frames framing live later before attempt :=
  ⟨frames.anchored, frames.preserves, fun clean =>
    framing.anchored_mono (fun row => Or.imp_right (fewer row)) (frames.added clean)⟩

/-- The rows that a first attempt fills are live for a second one. -/
theorem Frames.andThen {attempt : Attempt σ} {next : σ → Attempt σ}
    (first : Frames framing live fresh before attempt)
    (second : framing.Anchored (fun row => live row ∨ fresh row) attempt.state →
      Frames framing (fun row => live row ∨ fresh row) later attempt.state (next attempt.state)) :
    Frames framing live (fun row => fresh row ∨ later row) before (attempt.andThen next) := by
  unfold Attempt.andThen
  cases failed : attempt.failure with
  | some failure =>
    refine ⟨first.anchored, first.preserves, fun clean => ?_⟩
    rw [failed] at clean
    cases clean
  | none =>
    have after := second (first.added failed)
    have kept := framing.preserves_mono (fun _ => Or.inl) after.preserves
    refine ⟨framing.anchored_mono (fun _ => .inl) after.anchored,
      framing.trans first.preserves kept, fun clean => ?_⟩
    exact framing.anchored_mono (fun _ => or_assoc.mpr) (after.added clean)

end

/-- The live rows of a column. -/
abbrev columnFraming : Framing Column where
  Anchored := Anchored
  Preserves := Preserves
  anchored_mono := Anchored.mono _
  preserves_mono fewer := Preserves.mono _ fewer
  refl live column := Preserves.refl column live
  trans := Preserves.trans _

/-- The live rows of the columns of fields. -/
abbrev fieldsFraming : Framing (List (String × Column)) where
  Anchored := AnchoredFields
  Preserves := PreservesFields
  anchored_mono := AnchoredFields.mono _
  preserves_mono fewer := PreservesFields.mono _ fewer
  refl live columns := PreservesFields.refl columns live
  trans := PreservesFields.trans _

/-- The live slots of the keys and values of a map. -/
abbrev entriesFraming : Framing Entries where
  Anchored live entries := entries.keys.Anchored live ∧ Anchored live entries.values
  Preserves live before after := (∀ slot, live slot → after.keys.key slot = before.keys.key slot) ∧
    Preserves live before.values after.values
  anchored_mono fewer anchored := ⟨anchored.1.mono fewer, Anchored.mono _ fewer anchored.2⟩
  preserves_mono fewer kept :=
    ⟨fun slot inside => kept.1 slot (fewer slot inside), Preserves.mono _ fewer kept.2⟩
  refl live entries := ⟨fun _ _ => rfl, Preserves.refl entries.values live⟩
  trans kept next := ⟨fun slot inside => (next.1 slot inside).trans (kept.1 slot inside),
    Preserves.trans _ kept.2 next.2⟩

/-! ### Flags and leaves -/

section

variable {growable : Bool} {live : Nat → Prop} {row : Nat}

/-- A row that was just flagged is not shown. -/
theorem shown_setNull {nulls : NullMask} (consistent : nulls.Consistent) (inside : row < nulls.size)
    {other : Nat} (shown : (nulls.setNull row).Shown (fun other => live other ∨ other = row) other) :
    nulls.Shown live other := by
  obtain ⟨among, notNull⟩ := shown
  have apart : other ≠ row := by
    rintro rfl
    rw [NullMask.isNull_setNull_self nulls inside] at notNull
    cases notNull
  rw [NullMask.isNull_setNull_of_ne consistent apart] at notNull
  exact ⟨among.resolve_right apart, notNull⟩

/-- The bytes of a live row that is not null are settled. -/
theorem Anchored.settled {kind : Primitive} {attributes : Attributes} {column : Column}
    (fits : FitsPrimitive kind attributes column) (anchored : Anchored live column) {other : Nat}
    (among : live other) (notNull : column.isNull other = false) : Settled other column := by
  cases column with
  | bytes cells => exact anchored other ⟨among, notNull⟩
  | long | double | decimal | timestamp => trivial
  | struct | list | map => exact fits.elim

/-- A leaf column keeps live rows if they read as before; there are no child slots to keep. -/
theorem preserves_of_fitsPrimitive {kind : Primitive} {attributes : Attributes}
    {column after : Column} (fits : FitsPrimitive kind attributes column)
    (same : ∀ other, live other → valueAt after other = valueAt column other) :
    Preserves live column after := by
  cases column with
  | long | double | bytes | decimal | timestamp => exact same
  | struct | list | map => exact fits.elim

/-- Placing a cell into a row that is not live preserves the live rows. -/
theorem preserves_place {kind : Primitive} {attributes : Attributes} {column : Column}
    (fits : FitsPrimitive kind attributes column) (fresh : ¬live row)
    (anchored : Anchored live column) (cell : Option LeafCell) :
    Preserves live column (place row cell column) := by
  refine preserves_of_fitsPrimitive fits fun other among => ?_
  have apart : other ≠ row := by
    rintro rfl
    exact fresh among
  cases null : column.isNull other with
  | false =>
    exact valueAt_place_of_ne fits apart (anchored.settled fits among null) cell
  | true =>
    have still : (place row cell column).isNull other = true := by
      cases cell with
      | none => rw [place, isNull_setNull_of_ne fits.consistent apart, null]
      | some cell => rw [place, isNull, nulls_putCell, ← isNull, null]
    rw [valueAt_of_isNull null, valueAt_of_isNull still]

/-- Flagging a row that is not live frames the live ones, and the row points to nothing. -/
theorem frames_setNull {type : DataType} {column : Column} (fits : Fits growable type column)
    (inside : row < column.slots) (fresh : ¬live row) (anchored : Anchored live column) :
    Frames columnFraming live (· = row) column (.ok (setNull row column)) := by
  -- Being flagged, the row shows nothing, so there is no more to be anchored than before.
  have shown : ∀ other,
      (column.nulls.setNull row).Shown (fun other => live other ∨ other = row) other →
        column.nulls.Shown live other :=
    fun _ => shown_setNull fits.consistent (by rw [fits.size_nulls]; exact inside)
  have agree := agree_setNull fits.consistent fresh
  cases column with
  | struct nulls fields =>
    exact .of_ok ⟨_, _, rfl, agree, PreservesFields.refl fields _⟩
      (AnchoredFields.mono fields shown anchored)
  | list nulls index child =>
    obtain ⟨room, within, childAnchored⟩ := anchored
    exact .of_ok ⟨_, _, _, rfl, agree, fun _ _ => rfl, Nat.le_refl _, Preserves.refl child _⟩
      ⟨room, fun other among => within other (shown other among),
        Anchored.mono child (fun _ reached => reached.mono shown) childAnchored⟩
  | map nulls index keys values =>
    obtain ⟨keyRoom, room, within, keysAnchored, valuesAnchored⟩ := anchored
    exact .of_ok ⟨_, _, _, _, rfl, agree, fun _ _ => rfl, Nat.le_refl _, Nat.le_refl _,
        fun _ _ => rfl, Preserves.refl values _⟩
      ⟨keyRoom, room, fun other among => within other (shown other among),
        keysAnchored.mono fun _ reached => reached.mono shown,
        Anchored.mono values (fun _ reached => reached.mono shown) valuesAnchored⟩
  | bytes cells =>
    cases type with
    | leaf kind attributes extra =>
      exact .of_ok (preserves_place fits fresh anchored none)
        fun other among => anchored other (shown other among)
    | struct | list | map => simp only [Fits] at fits
  | long | double | decimal | timestamp =>
    cases type with
    | leaf kind attributes extra => exact .of_ok (preserves_place fits fresh anchored none) trivial
    | struct | list | map => simp only [Fits] at fits

/-- Bytes that are stored lie in the buffer behind those that were there, so their row is anchored
with the others. -/
theorem anchored_putCell {kind : Primitive} {attributes : Attributes} {column : Column}
    (fits : FitsPrimitive kind attributes column) (inside : row < column.slots)
    (fresh : ¬live row) (anchored : Anchored live column) (cell : LeafCell)
    (belongs : cell.kind = column.kind) :
    Anchored (fun other => live other ∨ other = row) (putCell row cell column) := by
  cases column with
  | bytes cells =>
    cases cell with
    | bytes value =>
      intro other shown
      by_cases same : other = row
      · subst same
        exact ByteCells.settled_set_self cells other value inside
      · exact ByteCells.settled_set_of_ne value same
          (anchored other ⟨shown.1.resolve_right same, shown.2⟩)
    | long | double | decimal | timestamp => cases belongs
  | long | double | decimal | timestamp => cases cell <;> trivial
  | struct | list | map => exact fits.elim

/-- Writing a leaf cell that is not live frames the live ones, whether the value is stored, nulled
or refused. -/
theorem frames_write_leaf {kind : Primitive} {attributes : Attributes}
    {extra : List (String × DataType)} {column : Column}
    (fits : Fits growable (.leaf kind attributes extra) column) (policy : CellPolicy)
    (inside : row < column.slots) (fresh : ¬live row) (anchored : Anchored live column)
    (value : Json) :
    Frames columnFraming live (· = row) column
      (write policy (.leaf kind attributes extra) value row column) := by
  rw [write_leaf fits]
  cases written : LeafCell.outcome policy kind attributes value with
  | error failure => exact .of_failed anchored failure
  | ok cell =>
    cases cell with
    | none => exact frames_setNull fits inside fresh anchored
    | some cell =>
      have belongs : cell.kind = column.kind :=
        (LeafCell.kind_of_outcome written).trans (FitsPrimitive.kind_eq fits).symm
      exact .of_ok (preserves_place fits fresh anchored (some cell))
        (anchored_putCell fits inside fresh anchored cell belongs)

end

/-! ### Child columns that grow for a row -/

section

variable {growable : Bool} {type : DataType} {column : Column} {live : Nat → Prop}

/-- A child column that may have had to grow has no fewer slots. -/
theorem slots_le_growIf (growth : Option Nat) (column : Column) :
    column.slots ≤ (growIf growth column).slots := by
  cases growth with
  | none => exact Nat.le_refl _
  | some size =>
    rw [growIf, slots_grow]
    exact Nat.le_max_left _ _

/-- A child column that may have had to grow stays anchored. -/
theorem Anchored.growIf (fits : Fits growable type column)
    (inside : ∀ row, live row → row < column.slots) (anchored : Anchored live column)
    (growth : Option Nat) : Anchored live (growIf growth column) := by
  cases growth with
  | none => exact anchored
  | some size => exact Anchored.grow size type column fits inside anchored

/-- A child column that may have had to grow keeps its live rows. -/
theorem preserves_growIf (fits : Fits growable type column)
    (inside : ∀ row, live row → row < column.slots) (growth : Option Nat) :
    Preserves live column (growIf growth column) := by
  cases growth with
  | none => exact Preserves.refl column live
  | some size => exact preserves_grow size type column fits inside

end

/-- Setting a key changes no other key, if the bytes of that key are settled. -/
theorem ByteCells.key_set_of_ne {keys : ByteCells} {slot other : Nat} (bytes : ByteArray)
    (apart : other ≠ slot) (settled : keys.nulls.isNull other = false → keys.Settled other) :
    (keys.set slot bytes).key other = keys.key other := by
  cases null : keys.nulls.isNull other with
  | true =>
    -- A null key reads as no bytes, whatever its span says.
    have still : (keys.set slot bytes).nulls.isNull other = true := null
    rw [ByteCells.key, ByteCells.key, ByteCells.get?_of_isNull _ null,
      ByteCells.get?_of_isNull _ still]
  | false => rw [ByteCells.key, ByteCells.key, ByteCells.get?_set_of_ne _ apart (settled null)]

/-- Growing keys that has all live slots keeps them and anchors them as before. -/
theorem keys_of_grown {keys keys' : ByteCells} {live : Nat → Prop}
    (grown : keys' = keys ∨ ∃ size, keys' = keys.grow size)
    (inside : ∀ slot, live slot → slot < keys.spans.size) (anchored : keys.Anchored live) :
    keys.spans.size ≤ keys'.spans.size ∧ keys'.Anchored live ∧
      ∀ slot, live slot → keys'.key slot = keys.key slot := by
  obtain rfl | ⟨size, rfl⟩ := grown
  · exact ⟨Nat.le_refl _, anchored, fun _ _ => rfl⟩
  · refine ⟨?_, ByteCells.Anchored.grow size inside anchored, fun slot among => ?_⟩
    · simp only [ByteCells.grow, size_growTo]
      exact Nat.le_max_left _ _
    · rw [ByteCells.key, ByteCells.get?_grow keys size (inside slot among), ByteCells.key]

/-! ### Runs of elements and entries -/

section

variable {growable : Bool} {type : DataType} {writer : Json → Nat → Column → Attempt Column}

/-- A run of elements leaves the child in the shape of its type, with the slots that it had. -/
theorem reshaped_writeElements
    (reshaped : ∀ value slot child, Fits growable type child →
      Reshaped growable type child.slots (writer value slot child).state)
    (items : List Json) (slot : Nat) {child : Column} (fits : Fits growable type child) :
    Reshaped growable type child.slots (writeElements writer items slot child).state :=
  state_writeElements (P := Reshaped growable type child.slots)
    (fun value slot _ _ kept => kept.2 ▸ reshaped value slot _ kept.1)
    items slot child (Nat.le_refl _) ⟨fits, rfl⟩

/-- Each element of a run is written behind the live slots and those of the elements before it. -/
theorem frames_writeElements
    (reshaped : ∀ value slot child, Fits growable type child →
      Reshaped growable type child.slots (writer value slot child).state)
    (step : ∀ value slot child live, Fits growable type child → slot < child.slots → ¬live slot →
      Anchored live child →
        Frames columnFraming live (· = slot) child (writer value slot child)) :
    ∀ (items : List Json) (slot : Nat) (child : Column) (live : Nat → Prop),
      Fits growable type child → slot + items.length ≤ child.slots →
        (∀ other, live other → other < slot) → Anchored live child →
          Frames columnFraming live (fun other => slot ≤ other ∧ other < slot + items.length) child
            (writeElements writer items slot child) := by
  intro items
  induction items with
  | nil =>
    intro slot child live _ _ _ anchored
    refine .of_ok (Preserves.refl child live) (Anchored.mono child (fun other among => ?_) anchored)
    exact among.resolve_right fun between => by
      rw [List.length_nil] at between
      omega
  | cons element rest ih =>
    intro slot child live fits inside before anchored
    rw [List.length_cons] at inside
    have here : slot < child.slots := by omega
    have fresh : ¬live slot := fun among => absurd (before slot among) (Nat.lt_irrefl slot)
    have first := step element slot child live fits here fresh anchored
    obtain ⟨fits', slots'⟩ := reshaped element slot child fits
    rw [writeElements]
    refine (first.andThen fun added => ih (slot + 1) _ _ fits' ?_ ?_ added).mono ?_
    · rw [slots']
      omega
    · intro other among
      obtain among | rfl := among
      · exact Nat.lt_succ_of_lt (before other among)
      · exact Nat.lt_succ_self other
    · intro other between
      rw [List.length_cons] at between
      omega

/-- A run of entries changes neither the number of keys nor that of values. -/
theorem sizes_writeEntries
    (reshaped : ∀ value slot values, Fits growable type values →
      Reshaped growable type values.slots (writer value slot values).state)
    (members : Json.Members) (slot : Nat) (entries : Entries)
    (fits : Fits growable type entries.values) :
    (writeEntries writer members slot entries).state.keys.spans.size = entries.keys.spans.size ∧
      (writeEntries writer members slot entries).state.values.slots = entries.values.slots := by
  have kept := @state_writeEntries writer
    (fun after => after.keys.spans.size = entries.keys.spans.size ∧
      Reshaped growable type entries.values.slots after.values) _
    (fun key value slot after _ kept => by
      refine ⟨?_, kept.2.2 ▸ reshaped value slot after.values kept.2.1⟩
      simp only [writeEntry, Attempt.state_map, ByteCells.set, Array.size_setIfInBounds]
      exact kept.1)
    members slot entries (Nat.le_refl _) ⟨rfl, fits, rfl⟩
  exact ⟨kept.1, kept.2.2⟩

/-- Writing an entry into a slot that is not live frames the live ones, in the keys and in the
values. -/
theorem frames_writeEntry
    (step : ∀ value slot values live, Fits growable type values → slot < values.slots → ¬live slot →
      Anchored live values →
        Frames columnFraming live (· = slot) values (writer value slot values))
    {entries : Entries} {live : Nat → Prop} {slot : Nat} (fits : Fits growable type entries.values)
    (keyRoom : slot < entries.keys.spans.size) (room : slot < entries.values.slots)
    (fresh : ¬live slot) (anchored : entriesFraming.Anchored live entries) (key : String)
    (value : Json) :
    Frames entriesFraming live (· = slot) entries (writeEntry writer key value slot entries) := by
  obtain ⟨keysAnchored, valuesAnchored⟩ := anchored
  have values := step value slot entries.values live fits room fresh valuesAnchored
  have keysAdded : (entries.keys.set slot key.toUTF8).Anchored
      fun other => live other ∨ other = slot := by
    intro other shown
    by_cases same : other = slot
    · subst same
      exact ByteCells.settled_set_self entries.keys other _ keyRoom
    · exact ByteCells.settled_set_of_ne _ same
        (keysAnchored other ⟨shown.1.resolve_right same, shown.2⟩)
  have keysKept : ∀ other, live other →
      (entries.keys.set slot key.toUTF8).key other = entries.keys.key other := by
    intro other among
    have apart : other ≠ slot := by
      rintro rfl
      exact fresh among
    exact ByteCells.key_set_of_ne _ apart fun shown => keysAnchored other ⟨among, shown⟩
  refine ⟨⟨keysAdded.mono fun _ => .inl, values.anchored⟩, ⟨keysKept, values.preserves⟩, ?_⟩
  intro clean
  have valueClean : (writer value slot entries.values).failure = none := by
    rw [writeEntry, Attempt.failure_map, Attempt.failure_within_eq_none_iff] at clean
    exact clean
  exact ⟨keysAdded, values.added valueClean⟩

/-- Writing entries into slots behind the live ones frames these, and all its own slots are anchored
if it goes through. The induction makes the slot of the first entry live before it goes on to the
next. -/
theorem frames_writeEntries
    (reshaped : ∀ value slot values, Fits growable type values →
      Reshaped growable type values.slots (writer value slot values).state)
    (step : ∀ value slot values live, Fits growable type values → slot < values.slots → ¬live slot →
      Anchored live values →
        Frames columnFraming live (· = slot) values (writer value slot values)) :
    ∀ (members : Json.Members) (slot : Nat) (entries : Entries) (live : Nat → Prop),
      Fits growable type entries.values → slot + members.length ≤ entries.keys.spans.size →
        slot + members.length ≤ entries.values.slots → (∀ other, live other → other < slot) →
          entriesFraming.Anchored live entries →
            Frames entriesFraming live
              (fun other => slot ≤ other ∧ other < slot + members.length) entries
              (writeEntries writer members slot entries) := by
  intro members
  induction members with
  | nil =>
    intro slot entries live _ _ _ _ anchored
    refine .of_ok (entriesFraming.refl live entries)
      (entriesFraming.anchored_mono (fun other among => ?_) anchored)
    exact among.resolve_right fun between => by
      rw [List.length_nil] at between
      omega
  | cons member rest ih =>
    intro slot entries live fits keyRoom room before anchored
    obtain ⟨key, value⟩ := member
    rw [List.length_cons] at keyRoom room
    have keyHere : slot < entries.keys.spans.size := by omega
    have here : slot < entries.values.slots := by omega
    have fresh : ¬live slot := fun among => absurd (before slot among) (Nat.lt_irrefl slot)
    have first := frames_writeEntry step fits keyHere here fresh anchored key value
    obtain ⟨fits', slots'⟩ := reshaped value slot entries.values fits
    rw [writeEntries]
    refine (first.andThen fun added => ih (slot + 1) _ _ fits' ?_ ?_ ?_ added).mono ?_
    · simp only [writeEntry, Attempt.state_map, ByteCells.set, Array.size_setIfInBounds]
      omega
    · simp only [writeEntry, Attempt.state_map, Attempt.state_within, slots']
      omega
    · intro other among
      obtain among | rfl := among
      · exact Nat.lt_succ_of_lt (before other among)
      · exact Nat.lt_succ_self other
    · intro other between
      rw [List.length_cons] at between
      omega

end

/-! ### Lists and maps -/

section

variable {growable : Bool} {policy : CellPolicy} {live : Nat → Prop} {row : Nat}

/-- The spans of the live rows are those from before, and the row that took child slots has these. -/
theorem span_of_set {index index' : ChildIndex} {count : Nat} (inside : row < index.spans.size)
    (spans : index'.spans = index.spans.setIfInBounds row ⟨index.childCount, count⟩) (other : Nat) :
    index'.span other = if other = row then ⟨index.childCount, count⟩ else index.span other := by
  rw [ChildIndex.span, spans, Array.getD_eq_getD_getElem?]
  split
  · next same =>
    subst same
    rw [Array.getElem?_setIfInBounds_self_of_lt inside]
    rfl
  · next apart =>
    rw [Array.getElem?_setIfInBounds_ne (Ne.symm apart), ChildIndex.span,
      Array.getD_eq_getD_getElem?]

/-- The spans of the live rows stay when another row takes child slots. -/
theorem span_of_live {nulls : NullMask} {index index' : ChildIndex} {count : Nat}
    (inside : row < index.spans.size)
    (spans : index'.spans = index.spans.setIfInBounds row ⟨index.childCount, count⟩)
    (fresh : ¬live row) {other : Nat} (shown : nulls.Shown live other) :
    index'.span other = index.span other := by
  have apart : other ≠ row := by
    rintro rfl
    exact fresh shown.1
  rw [span_of_set inside spans, if_neg apart]

/-- After a row took child slots, those that are reached are the ones from before and its own. -/
theorem reached_of_set {nulls : NullMask} {index index' : ChildIndex} {count : Nat}
    (inside : row < index.spans.size)
    (spans : index'.spans = index.spans.setIfInBounds row ⟨index.childCount, count⟩) {slot : Nat}
    (reached : index'.Reached (nulls.Shown fun other => live other ∨ other = row) slot) :
    index.Reached (nulls.Shown live) slot ∨
      (index.childCount ≤ slot ∧ slot < index.childCount + count) := by
  obtain ⟨other, ⟨among, notNull⟩, found⟩ := reached
  rw [span_of_set inside spans] at found
  split at found
  · exact .inr (List.mem_range'_1.mp found)
  · next apart => exact .inl ⟨other, ⟨among.resolve_right apart, notNull⟩, found⟩

/-- The spans of the live rows and of the row that took child slots end within those taken. -/
theorem within_of_set {nulls : NullMask} {index index' : ChildIndex} {count : Nat}
    (inside : row < index.spans.size)
    (spans : index'.spans = index.spans.setIfInBounds row ⟨index.childCount, count⟩)
    (counts : index'.childCount = index.childCount + count)
    (within : index.Within (nulls.Shown live)) :
    index'.Within (nulls.Shown fun other => live other ∨ other = row) := by
  intro other ⟨among, notNull⟩
  rw [span_of_set inside spans, counts]
  split
  · exact Nat.le_refl _
  · next apart =>
    have ends := within other ⟨among.resolve_right apart, notNull⟩
    omega

/-- An array fills the child slots that its row takes, behind those that the live rows reach. -/
theorem frames_writeList {attributes : Attributes} {element : DataType}
    {extra : List (String × DataType)}
    (step : ∀ value slot child live, Fits growable element child → slot < child.slots → ¬live slot →
      Anchored live child →
        Frames columnFraming live (· = slot) child (write policy element value slot child))
    {nulls : NullMask} {index : ChildIndex} {child : Column}
    (fits : Fits growable (.list attributes element extra) (list nulls index child))
    (inside : row < (list nulls index child).slots) (fresh : ¬live row)
    (anchored : Anchored live (list nulls index child)) (items : List Json) :
    Frames columnFraming live (· = row) (list nulls index child)
      (writeList (write policy element) (.array items) row (list nulls index child)) := by
  rw [Fits] at fits
  obtain ⟨-, -, -, childFits⟩ := fits
  rw [writeList]
  cases started : startList row items.length index child with
  | error failure => exact .of_failed anchored failure
  | ok begun =>
    obtain ⟨offset, index', child'⟩ := begun
    obtain ⟨rfl, spans, counts, -, enough, growth, rfl⟩ := startList_eq_ok started
    obtain ⟨room, within, childAnchored⟩ := anchored
    -- The slots that the elements are written to lie behind all that a live row reaches.
    have before : ∀ slot, index.Reached (nulls.Shown live) slot → slot < index.childCount :=
      fun _ => within.lt
    have known : ∀ slot, index.Reached (nulls.Shown live) slot → slot < child.slots :=
      fun slot reached => Nat.lt_of_lt_of_le (before slot reached) room
    have grown := childFits.growIf growth
    have run := frames_writeElements (reshaped_write growable policy element) step items
      index.childCount (growIf growth child) _ grown enough before
      (childAnchored.growIf childFits known growth)
    obtain ⟨-, slots'⟩ := reshaped_writeElements (reshaped_write growable policy element) items
      index.childCount grown
    have stays : ∀ other, nulls.Shown live other → index'.span other = index.span other :=
      fun _ => span_of_live inside spans fresh
    have within' := within_of_set inside spans counts within
    rw [← counts, ← slots'] at enough
    refine ⟨⟨enough, fun other shown => within' other (shown.mono fun _ => .inl), ?_⟩,
      ⟨_, _, _, rfl, fun _ _ => rfl, stays, ?_, ?_⟩, fun clean => ⟨enough, within', ?_⟩⟩
    · exact Anchored.mono _ (fun _ => (reached_of_agree (fun _ _ => rfl) stays).mp) run.anchored
    · rw [slots']
      exact slots_le_growIf growth child
    · exact Preserves.trans child (preserves_growIf childFits known growth) run.preserves
    · exact Anchored.mono _ (fun _ => reached_of_set inside spans) (run.added clean)

/-- An object fills the child slots that its row takes, behind those that the live rows reach. -/
theorem frames_writeMap {attributes : Attributes} {key entry : DataType}
    {extra : List (String × DataType)}
    (step : ∀ value slot values live, Fits growable entry values → slot < values.slots →
      ¬live slot → Anchored live values →
        Frames columnFraming live (· = slot) values (write policy entry value slot values))
    {nulls : NullMask} {index : ChildIndex} {keys : ByteCells} {values : Column}
    (fits : Fits growable (.map attributes key entry extra) (map nulls index keys values))
    (inside : row < (map nulls index keys values).slots) (fresh : ¬live row)
    (anchored : Anchored live (map nulls index keys values)) (members : Json.Members) :
    Frames columnFraming live (· = row) (map nulls index keys values)
      (writeMap (write policy entry) (.object members) row (map nulls index keys values)) := by
  rw [Fits] at fits
  obtain ⟨-, -, -, -, valuesFit⟩ := fits
  rw [writeMap]
  cases started : startMap row members.length index ⟨keys, values⟩ with
  | error failure => exact .of_failed anchored failure
  | ok begun =>
    obtain ⟨offset, index', entries'⟩ := begun
    obtain ⟨rfl, spans, counts, -, enoughKeys, enough, ⟨growth, sameValues⟩, sameKeys⟩ :=
      startMap_eq_ok started
    obtain ⟨keyRoom, room, within, keysAnchored, valuesAnchored⟩ := anchored
    -- Slots that live rows reach lie below the child count, so the entries are written behind them.
    have before : ∀ slot, index.Reached (nulls.Shown live) slot → slot < index.childCount :=
      fun _ => within.lt
    have known : ∀ slot, index.Reached (nulls.Shown live) slot → slot < values.slots :=
      fun slot reached => Nat.lt_of_lt_of_le (before slot reached) room
    have knownKeys : ∀ slot, index.Reached (nulls.Shown live) slot → slot < keys.spans.size :=
      fun slot reached => Nat.lt_of_lt_of_le (before slot reached) keyRoom
    have grown : Fits growable entry entries'.values := sameValues ▸ valuesFit.growIf growth
    obtain ⟨moreKeys, keysAnchored, keysKept⟩ := keys_of_grown sameKeys knownKeys keysAnchored
    have valuesAnchored' := valuesAnchored.growIf valuesFit known growth
    have valuesKept := preserves_growIf valuesFit known growth
    have moreValues := slots_le_growIf growth values
    rw [← sameValues] at valuesAnchored' valuesKept moreValues
    have run := frames_writeEntries (reshaped_write growable policy entry) step members
      index.childCount entries' _ grown enoughKeys enough before ⟨keysAnchored, valuesAnchored'⟩
    have sizes := sizes_writeEntries (reshaped_write growable policy entry) members index.childCount
      entries' grown
    rw [← counts, ← sizes.1] at enoughKeys
    rw [← counts, ← sizes.2] at enough
    rw [← sizes.1] at moreKeys
    rw [← sizes.2] at moreValues
    -- The row that is set is not live, so the live rows keep their spans and what they reach.
    have stays : ∀ other, nulls.Shown live other → index'.span other = index.span other :=
      fun _ => span_of_live inside spans fresh
    have within' := within_of_set inside spans counts within
    have fewer : ∀ slot, index'.Reached (nulls.Shown live) slot →
        index.Reached (nulls.Shown live) slot :=
      fun _ => (reached_of_agree (fun _ _ => rfl) stays).mp
    refine ⟨⟨enoughKeys, enough, fun other shown => within' other (shown.mono fun _ => .inl), ?_, ?_⟩,
      ⟨_, _, _, _, rfl, fun _ _ => rfl, stays, moreKeys, moreValues, ?_, ?_⟩,
      fun clean => ⟨enoughKeys, enough, within', ?_, ?_⟩⟩
    · exact run.anchored.1.mono fewer
    · exact Anchored.mono _ fewer run.anchored.2
    · exact fun slot reached => (run.preserves.1 slot reached).trans (keysKept slot reached)
    · exact Preserves.trans values valuesKept run.preserves.2
    · exact (run.added clean).1.mono fun _ => reached_of_set inside spans
    · exact Anchored.mono _ (fun _ => reached_of_set inside spans) (run.added clean).2

end

/-! ### Writes -/

/-- A value of the wrong kind makes its cell null, or changes nothing. -/
theorem frames_refuse {growable : Bool} {type : DataType} {column : Column} {live : Nat → Prop}
    {row : Nat} (fits : Fits growable type column) (inside : row < column.slots) (fresh : ¬live row)
    (anchored : Anchored live column) (policy : CellPolicy) (category : Category) (value : Json) :
    Frames columnFraming live (· = row) column (refuse policy category value row column) := by
  unfold refuse
  split
  · exact frames_setNull fits inside fresh anchored
  · exact .of_failed anchored _

mutual

/-- A write into a row that is not live leaves the live rows as they are and anchored, whether it
fails or not, and anchors its row if it does not fail. -/
theorem frames_write (growable : Bool) (policy : CellPolicy) : (type : DataType) →
    (value : Json) → (row : Nat) → (column : Column) → (live : Nat → Prop) →
      Fits growable type column → row < column.slots → ¬live row → Anchored live column →
        Frames columnFraming live (· = row) column (write policy type value row column)
  | .leaf _ _ _, value, _, _, _, fits, inside, fresh, anchored =>
    frames_write_leaf fits policy inside fresh anchored value
  | .struct attributes types, value, row, column, live, fits, inside, fresh, anchored => by
    cases value with
    | object members =>
      obtain ⟨nulls, fields, rfl, -, fieldsFit⟩ := fits.exists_struct
      have run := frames_writeFields growable policy types members row nulls.size fields
        (nulls.Shown live) fieldsFit inside (fun shown => fresh shown.1) anchored
      rw [write_struct fits]
      refine ⟨run.anchored, ⟨_, _, rfl, fun _ _ => rfl, run.preserves⟩, fun clean => ?_⟩
      refine AnchoredFields.mono _ (fun other shown => ?_) (run.added clean)
      exact shown.1.imp_left fun among => ⟨among, shown.2⟩
    | null | bool | int | real | text | array =>
      rw [write_of_leavesNull fits (fun _ => nofun) rfl]
      exact frames_refuse fits inside fresh anchored _ _ _
  | .list attributes element extra, value, row, column, live, fits, inside, fresh, anchored => by
    cases value with
    | array items =>
      obtain ⟨nulls, index, child, rfl, -⟩ := fits.exists_list
      rw [write_list fits]
      exact frames_writeList
        (fun value slot child live => frames_write growable policy element value slot child live)
        fits inside fresh anchored items
    | null | bool | int | real | text | object =>
      rw [write_of_leavesNull fits (fun _ => nofun) rfl]
      exact frames_refuse fits inside fresh anchored _ _ _
  | .map attributes key entry extra, value, row, column, live, fits, inside, fresh, anchored => by
    cases value with
    | object members =>
      obtain ⟨nulls, index, keys, values, rfl, -⟩ := fits.exists_map
      rw [write_map fits]
      exact frames_writeMap
        (fun value slot values live => frames_write growable policy entry value slot values live)
        fits inside fresh anchored members
    | null | bool | int | real | text | array =>
      rw [write_of_leavesNull fits (fun _ => nofun) rfl]
      exact frames_refuse fits inside fresh anchored _ _ _
termination_by structural type => type

/-- Writing an object into a row that is not live frames the live rows of every field, up to the
field that fails and behind it. -/
theorem frames_writeFields (growable : Bool) (policy : CellPolicy) :
    (types : List (String × DataType)) → (members : Json.Members) → (row size : Nat) →
      (columns : List (String × Column)) → (live : Nat → Prop) →
        FitsFields growable size types columns → row < size → ¬live row →
          AnchoredFields live columns →
            Frames fieldsFraming live (· = row) columns
              (writeFields policy types members row columns)
  | [], _, _, _, [], _, _, _, _, _ => .of_ok rfl trivial
  | [], _, _, _, _ :: _, _, fits, _, _, _ => fits.elim
  | _ :: _, _, _, _, [], _, fits, _, _, _ => fits.elim
  | (name, type) :: types, members, row, size, (columnName, column) :: columns, live, fits, inside,
      fresh, anchored => by
    obtain ⟨-, enough, columnFits, restFit⟩ := fits
    have here := frames_write growable policy type ((Json.Members.get? members name).getD .null) row
      column live columnFits (Nat.lt_of_lt_of_le inside enough) fresh anchored.1
    have others := frames_writeFields growable policy types members row size columns live restFit
      inside fresh anchored.2
    rw [writeFields, writeMember_eq]
    dsimp only [Attempt.within]
    split
    · exact ⟨⟨here.anchored, anchored.2⟩,
        ⟨_, _, rfl, here.preserves, PreservesFields.refl columns live⟩, fun clean => nomatch clean⟩
    · next clean =>
      have done : (write policy type ((Json.Members.get? members name).getD .null) row
          column).failure = none := Option.map_eq_none_iff.mp clean
      exact ⟨⟨here.anchored, others.anchored⟩, ⟨_, _, rfl, here.preserves, others.preserves⟩,
        fun clean => ⟨here.added done, others.added clean⟩⟩
termination_by structural types => types

end

end Columnar.Column
