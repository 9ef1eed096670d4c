import Columnar.Proofs.Column.ChildSlots
/-!
# Writes into a planned column

A write puts the next value of a plan where the plan says it goes. If it goes through, the value counts
as written and its child slots are taken. If it fails the column still holds the plan as it was before:
nothing that was written is lost, and nothing is flagged that the plan does not allow
(`lands_write`). So a failed write can be tried again, once the child counts are put back.
-/

set_option autoImplicit false

namespace Columnar.Column

variable {policy : CellPolicy}

/-- What an attempt to write the next slots of a plan leaves: the plan as it was, and the plan with the
slots written if the attempt went through. -/
structure Lands (policy : CellPolicy) (type : DataType) (origin : Column) (start : Nat)
    (done slots due : List (Option Json)) (attempt : Attempt Column) : Prop where
  kept : Holds policy type origin ⟨start, done, slots ++ due⟩ attempt.state
  holds : attempt.failure = none →
    Holds policy type origin ⟨start, done ++ slots, due⟩ attempt.state
  taken : attempt.failure = none → Taken type origin (done ++ slots) attempt.state

namespace Lands

variable {type : DataType} {origin : Column} {start : Nat} {done slots due : List (Option Json)}

/-- Of an attempt that went through only the end matters. -/
theorem of_written {attempt : Attempt Column}
    (holds : Holds policy type origin ⟨start, done ++ slots, due⟩ attempt.state)
    (taken : Taken type origin (done ++ slots) attempt.state) :
    Lands policy type origin start done slots due attempt :=
  ⟨Holds.weaken type origin _ _ _ (Plan.Covers.undo start done slots due) holds,
    fun _ => holds, fun _ => taken⟩

/-- An attempt that failed has to keep the plan as it was. -/
theorem of_failed {attempt : Attempt Column} {failure : Failure}
    (failed : attempt.failure = some failure)
    (kept : Holds policy type origin ⟨start, done, slots ++ due⟩ attempt.state) :
    Lands policy type origin start done slots due attempt :=
  ⟨kept, fun clean => absurd (failed.symm.trans clean) nofun,
    fun clean => absurd (failed.symm.trans clean) nofun⟩

/-- What is landed behind other slots is landed together with them. -/
theorem behind {more : List (Option Json)} {attempt : Attempt Column}
    (lands : Lands policy type origin start (done ++ slots) more due attempt) :
    Lands policy type origin start done (slots ++ more) due attempt := by
  obtain ⟨kept, holds, taken⟩ := lands
  rw [List.append_assoc] at holds taken
  refine ⟨?_, holds, taken⟩
  rw [List.append_assoc]
  exact Holds.weaken type origin _ _ _ (Plan.Covers.undo start done slots (more ++ due)) kept

end Lands

/-! ### Leaf columns -/

/-- The row of the next value is flagged already only if the value leaves it null. -/
theorem isNull_next {null : Json → Bool} {start : Nat} {done due : List (Option Json)} {value : Json}
    {column : Column} (marked : Marked null ⟨start, done, some value :: due⟩ column)
    (present : null value = false) : column.isNull (start + done.length) = false := by
  cases flag : column.isNull (start + done.length) with
  | false => rfl
  | true =>
    obtain ⟨other, found, leaves⟩ := marked.only done.length flag
    rw [List.getElem?_append_right (Nat.le_refl _)] at found
    have same : value = other := by simpa using found
    rw [← same, present] at leaves
    cases leaves

/-- Placing the next cell of a leaf column writes its value and no other. -/
theorem holds_place {kind : Primitive} {attributes : Attributes} {extra : List (String × DataType)}
    {origin column : Column} (fits : FitsPrimitive kind attributes column) {start : Nat}
    {done due : List (Option Json)} {value : Json} (room : start + done.length < column.slots)
    (holds : Holds policy (.leaf kind attributes extra) origin ⟨start, done, some value :: due⟩ column)
    {cell : Option LeafCell} (written : LeafCell.outcome policy kind attributes value = .ok cell) :
    Holds policy (.leaf kind attributes extra) origin ⟨start, done ++ [some value], due⟩
      (place (start + done.length) cell column) := by
  obtain ⟨marked, reads⟩ := holds
  have leaves := leavesNull_leaf written extra
  refine ⟨?_, ?_⟩
  · cases cell with
    | none => exact marked.setNull fits.consistent fits.size_nulls room leaves
    | some cell =>
      have same : ∀ row, (putCell (start + done.length) cell column).isNull row =
          column.isNull row := by
        intro row
        rw [isNull, nulls_putCell, isNull]
      refine (marked.congr same (Nat.le_of_eq (slots_putCell _ cell column).symm)).advance
        (by rw [slots_putCell]; exact room) ?_
      rintro _ ⟨⟩ null
      rw [leaves] at null
      cases null
  · intro i other found present
    -- Rows that were written before are not touched, and the one just placed reads as its cell.
    obtain ⟨before, found⟩ | ⟨rfl, value_eq⟩ := getElem?_concat found
    · obtain ⟨kept, settled⟩ := reads i other found present
      have apart : start + i ≠ start + done.length := by omega
      dsimp only
      rw [valueAt_place_of_ne fits apart settled]
      exact ⟨kept, settled_place_of_ne apart settled cell⟩
    · cases value_eq
      cases cell with
      | none =>
        rw [leaves] at present
        cases present
      | some cell =>
        have belongs := LeafCell.kind_of_outcome written
        have here := valueAt_putCell_self fits room belongs
        rw [isNull_next marked present] at here
        rw [← fits.kind_eq] at belongs
        rw [stored_leaf written]
        exact ⟨here, settled_putCell_self room belongs⟩

/-- A value that is written into the next cell of a leaf column lands there: it is stored, or the
cell is null because the plan lets the value leave it so, or nothing happened. -/
theorem lands_write_leaf {growable : Bool} {kind : Primitive} {attributes : Attributes}
    {extra : List (String × DataType)} {origin column : Column}
    (fits : Fits growable (.leaf kind attributes extra) column) {start : Nat}
    {done due : List (Option Json)} {value : Json} (room : start + done.length < column.slots)
    (holds : Holds policy (.leaf kind attributes extra) origin ⟨start, done, some value :: due⟩
      column) :
    Lands policy (.leaf kind attributes extra) origin start done [some value] due
      (write policy (.leaf kind attributes extra) value (start + done.length) column) := by
  rw [write_leaf fits]
  cases written : LeafCell.outcome policy kind attributes value with
  | error failure => exact .of_failed rfl holds
  | ok cell => exact .of_written (holds_place fits room holds written) trivial

/-! ### Values of the wrong kind -/

/-- A value of the wrong kind makes its cell null or is refused; there is nothing below it. -/
theorem lands_refuse_struct {growable : Bool} {attributes : Attributes}
    {types : List (String × DataType)} {origin column : Column}
    (fits : Fits growable (.struct attributes types) column) {start : Nat}
    {done due : List (Option Json)} {value : Json} (room : start + done.length < column.slots)
    (holds : Holds policy (.struct attributes types) origin ⟨start, done, some value :: due⟩ column)
    (taken : Taken (.struct attributes types) origin done column)
    (null : leavesNull policy (.struct attributes types) value = true) :
    Lands policy (.struct attributes types) origin start done [some value] due
      (refuse policy .struct value (start + done.length) column) := by
  unfold refuse
  cases kindFault policy .struct value with
  | some failure => exact .of_failed rfl holds
  | none =>
    have absent : ∀ name, memberSlot name (some value) = none := by
      intro name
      cases value <;> first | rfl | cases null
    have consistent := fits.consistent
    have sizes := fits.size_nulls
    obtain ⟨_, origins, nulls, fields, rfl, rfl, marked, held⟩ := holds.exists_struct
    rw [Fits] at fits
    exact .of_written
      ⟨marked.setNull consistent sizes room null,
        HoldsFields.skip types origins nulls.size fields fits.2 _ absent start done due room held⟩
      (TakenFields.skip types origins fields _ absent done taken)

/-- Whatever is no list lands in a list column by being refused: the row is null, or the column is
as it was. -/
theorem lands_refuse_list {growable : Bool} {attributes : Attributes} {element : DataType}
    {extra : List (String × DataType)} {origin column : Column}
    (fits : Fits growable (.list attributes element extra) column) {start : Nat}
    {done due : List (Option Json)} {value : Json} (room : start + done.length < column.slots)
    (holds : Holds policy (.list attributes element extra) origin ⟨start, done, some value :: due⟩
      column)
    (taken : Taken (.list attributes element extra) origin done column)
    (null : leavesNull policy (.list attributes element extra) value = true) :
    Lands policy (.list attributes element extra) origin start done [some value] due
      (refuse policy .list value (start + done.length) column) := by
  unfold refuse
  cases kindFault policy .list value with
  | some failure => exact .of_failed rfl holds
  | none =>
    have childless : itemSlots (some value) = [] := by
      cases value <;> first | rfl | cases null
    have same : (done ++ [some value]).flatMap itemSlots = done.flatMap itemSlots := by
      simp [childless]
    have consistent := fits.consistent
    have sizes := fits.size_nulls
    obtain ⟨_, base, origin, nulls, index, child, rfl, rfl, marked, spanned, held⟩ :=
      holds.exists_list
    refine .of_written ⟨marked.setNull consistent sizes room null, spanned.skip ?_, ?_⟩ ?_
    · rintro _ ⟨⟩
      exact null
    · rw [Plan.children_of_eq_nil childless]
      exact held
    · rw [setNull, Attempt.state_ok, Taken, same]
      exact taken

/-- Whatever has no members lands in a map column by being refused: the row is null, or the column
is as it was. -/
theorem lands_refuse_map {growable : Bool} {attributes : Attributes} {key entry : DataType}
    {extra : List (String × DataType)} {origin column : Column}
    (fits : Fits growable (.map attributes key entry extra) column) {start : Nat}
    {done due : List (Option Json)} {value : Json} (room : start + done.length < column.slots)
    (holds : Holds policy (.map attributes key entry extra) origin
      ⟨start, done, some value :: due⟩ column)
    (taken : Taken (.map attributes key entry extra) origin done column)
    (null : leavesNull policy (.map attributes key entry extra) value = true) :
    Lands policy (.map attributes key entry extra) origin start done [some value] due
      (refuse policy .map value (start + done.length) column) := by
  unfold refuse
  cases kindFault policy .map value with
  | some failure => exact .of_failed rfl holds
  | none =>
    have childless : entrySlots (some value) = [] ∧ entryKeys (some value) = [] := by
      cases value <;> first | exact ⟨rfl, rfl⟩ | cases null
    have same : (done ++ [some value]).flatMap entrySlots = done.flatMap entrySlots := by
      simp [childless.1]
    have consistent := fits.consistent
    have sizes := fits.size_nulls
    obtain ⟨_, base, _, origin, nulls, index, keys, values, rfl, rfl, marked, spanned, keyed, held⟩ :=
      holds.exists_map
    refine .of_written ⟨marked.setNull consistent sizes room null, spanned.skip ?_, ?_, ?_⟩ ?_
    · rintro _ ⟨⟩
      exact null
    · simpa [childless.2] using keyed
    · rw [Plan.children_of_eq_nil childless.1]
      exact held
    · rw [setNull, Attempt.state_ok, Taken, same]
      exact taken

/-! ### Runs of elements and entries -/

/-- The items of a list land one after the other. When one of them fails those before it have
landed, but the plan of the child does not count them as written, so it is held as if none had been
tried. -/
theorem lands_writeElements {growable : Bool} {element : DataType} {origin : Column}
    (step : ∀ (child : Column) (start : Nat) (done due : List (Option Json)) (value : Json),
      Fits growable element child → start + done.length < child.slots →
        Holds policy element origin ⟨start, done, some value :: due⟩ child →
          Taken element origin done child →
            Lands policy element origin start done [some value] due
              (write policy element value (start + done.length) child))
    (start : Nat) (due : List (Option Json)) (items : List Json) :
    ∀ (done : List (Option Json)) (child : Column), Fits growable element child →
      start + done.length + items.length ≤ child.slots →
        Holds policy element origin ⟨start, done, items.map some ++ due⟩ child →
          Taken element origin done child →
            Lands policy element origin start done (items.map some) due
              (writeElements (write policy element) items (start + done.length) child) := by
  induction items with
  | nil =>
    intro done child fits room holds taken
    rw [writeElements]
    refine .of_written ?_ ?_
    · rw [List.map_nil, List.append_nil]
      exact holds
    · rw [List.map_nil, List.append_nil]
      exact taken
  | cons item rest ih =>
    intro done child fits room holds taken
    rw [List.length_cons] at room
    have first := step child start done (rest.map some ++ due) item fits (by omega) holds taken
    have after := reshaped_write growable policy element item (start + done.length) child fits
    rw [writeElements, Attempt.andThen]
    cases failed : (write policy element item (start + done.length) child).failure with
    -- Elements written before the failure count as due again, which a plan allows.
    | some failure => exact .of_failed failed first.kept
    | none =>
      have next : start + done.length + 1 = start + (done ++ [some item]).length := by
        rw [List.length_append, List.length_singleton]
        omega
      dsimp only
      rw [next]
      have more := ih (done ++ [some item]) _ after.1 (by rw [after.2, ← next]; omega)
        (first.holds failed) (first.taken failed)
      exact more.behind

/-- A column that may have had to grow holds what it held. -/
theorem Holds.growIf {growable : Bool} {type : DataType} {origin column : Column} {plan : Plan}
    (fits : Fits growable type column) (holds : Holds policy type origin plan column)
    (growth : Option Nat) : Holds policy type origin plan (growIf growth column) := by
  cases growth with
  | none => exact holds
  | some size => exact Holds.grow size type origin column fits plan holds

/-- A column that may have had to grow has taken no more slots for it. -/
theorem Taken.growIf {type : DataType} {origin column : Column} {done : List (Option Json)}
    (taken : Taken type origin done column) (growth : Option Nat) :
    Taken type origin done (growIf growth column) := by
  cases growth with
  | none => exact taken
  | some size => exact Taken.grow size type origin column done taken

/-- Keys and values of a map column that hold the first entries of a plan. -/
structure EntriesHold (growable : Bool) (policy : CellPolicy) (entry : DataType) (origin : Column)
    (start : Nat) (names : List String) (done due : List (Option Json)) (entries : Entries) :
    Prop where
  sameLength : names.length = done.length
  keys : entries.keys.HoldKeys
  keyed : Keyed start names entries.keys
  fits : Fits growable entry entries.values
  holds : Holds policy entry origin ⟨start, done, due⟩ entries.values
  taken : Taken entry origin done entries.values

/-- Entries hold what they held when their keys and values may have had to grow. -/
theorem EntriesHold.grown {growable : Bool} {entry : DataType} {origin : Column} {start : Nat}
    {names : List String} {done due : List (Option Json)} {entries entries' : Entries}
    (held : EntriesHold growable policy entry origin start names done due entries)
    (sameValues : ∃ growth, entries'.values = growIf growth entries.values)
    (sameKeys : entries'.keys = entries.keys ∨ ∃ size, entries'.keys = entries.keys.grow size) :
    EntriesHold growable policy entry origin start names done due entries' := by
  obtain ⟨keys', values'⟩ := entries'
  obtain ⟨growth, rfl⟩ := sameValues
  have keysHeld : keys'.HoldKeys ∧ Keyed start names keys' := by
    obtain rfl | ⟨size, rfl⟩ := sameKeys
    · exact ⟨held.keys, held.keyed⟩
    · exact ⟨held.keys.grow size, held.keyed.grow size⟩
  exact ⟨held.sameLength, keysHeld.1, keysHeld.2, held.fits.growIf growth,
    held.holds.growIf held.fits growth, held.taken.growIf growth⟩

/-- The entries of a map land one after the other, each key with its value. What the keys say is
kept beside what the values hold, since an entry that fails may have its key written already. -/
theorem lands_writeEntries {growable : Bool} {entry : DataType} {origin : Column}
    (step : ∀ (values : Column) (start : Nat) (done due : List (Option Json)) (value : Json),
      Fits growable entry values → start + done.length < values.slots →
        Holds policy entry origin ⟨start, done, some value :: due⟩ values →
          Taken entry origin done values →
            Lands policy entry origin start done [some value] due
              (write policy entry value (start + done.length) values))
    (start : Nat) (due : List (Option Json)) (members : Json.Members) :
    ∀ (names : List String) (done : List (Option Json)) (entries : Entries),
      start + done.length + members.length ≤ entries.keys.spans.size →
        start + done.length + members.length ≤ entries.values.slots →
          EntriesHold growable policy entry origin start names done
              (entrySlots (some (.object members)) ++ due) entries →
            let attempt := writeEntries (write policy entry) members (start + done.length) entries
            Keyed start names attempt.state.keys ∧
              (attempt.failure = none →
                Keyed start (names ++ entryKeys (some (.object members))) attempt.state.keys) ∧
              Lands policy entry origin start done (entrySlots (some (.object members))) due
                (attempt.map Entries.values) := by
  induction members with
  | nil =>
    intro names done entries _ _ before
    have noKeys : names ++ entryKeys (some (.object [])) = names := List.append_nil names
    have noSlots : done ++ entrySlots (some (.object [])) = done := List.append_nil done
    refine ⟨before.keyed, ?_, .of_written ?_ ?_⟩
    · rw [noKeys]
      exact fun _ => before.keyed
    · rw [noSlots]
      exact before.holds
    · rw [noSlots]
      exact before.taken
  | cons member rest ih =>
    obtain ⟨key, value⟩ := member
    intro names done entries keyRoom room before
    rw [List.length_cons] at keyRoom room
    have first := step entries.values start done (entrySlots (some (.object rest)) ++ due) value
      before.fits (by omega) before.holds before.taken
    have after := reshaped_write growable policy entry value (start + done.length) entries.values
      before.fits
    -- The key is set before its value is written, so it stands there also if that fails.
    have keyed := before.keyed.set before.keys key (by rw [before.sameLength]; omega)
    rw [before.sameLength] at keyed
    dsimp only
    rw [writeEntries, Attempt.andThen]
    cases failed : (writeEntry (write policy entry) key value (start + done.length) entries).failure
      with
    | some failure =>
      refine ⟨keyed.weaken (List.prefix_append _ _), ?_, .of_failed failed first.kept⟩
      intro clean
      rw [failed] at clean
      cases clean
    | none =>
      have clean := (Attempt.failure_within_eq_none_iff key _).mp failed
      have next : start + done.length + 1 = start + (done ++ [some value]).length := by
        rw [List.length_append, List.length_singleton]
        omega
      have held : EntriesHold growable policy entry origin start (names ++ [key])
          (done ++ [some value]) (entrySlots (some (.object rest)) ++ due)
          (writeEntry (write policy entry) key value (start + done.length) entries).state :=
        { sameLength := by simp [before.sameLength]
          keys := before.keys.set _ _
          keyed := keyed
          fits := after.1
          holds := first.holds clean
          taken := first.taken clean }
      have more := ih (names ++ [key]) (done ++ [some value]) _
        (by
          rw [← next]
          simp only [writeEntry, Attempt.state_map, ByteCells.set, Array.size_setIfInBounds]
          omega)
        (by
          rw [← next]
          simp only [writeEntry, Attempt.state_map, Attempt.state_within, after.2]
          omega)
        held
      rw [← next] at more
      obtain ⟨kept, keyedAll, lands⟩ := more
      refine ⟨kept.weaken (List.prefix_append _ _), ?_, lands.behind⟩
      intro done
      have all := keyedAll done
      rw [List.append_assoc] at all
      exact all

/-! ### Values of the right kind -/

/-- A list lands in the next row of a list column. The slots it takes are the next ones of the plan
of the child; if they are refused nothing happened, and if an item fails they stay due. -/
theorem lands_write_list {growable : Bool} {attributes : Attributes} {element : DataType}
    {extra : List (String × DataType)}
    (step : ∀ (origin child : Column) (start : Nat) (done due : List (Option Json)) (value : Json),
      Fits growable element child → start + done.length < child.slots →
        Holds policy element origin ⟨start, done, some value :: due⟩ child →
          Taken element origin done child →
            Lands policy element origin start done [some value] due
              (write policy element value (start + done.length) child))
    {origin column : Column} (fits : Fits growable (.list attributes element extra) column)
    {start : Nat} {done due : List (Option Json)} {items : List Json}
    (room : start + done.length < column.slots)
    (holds : Holds policy (.list attributes element extra) origin
      ⟨start, done, some (.array items) :: due⟩ column)
    (taken : Taken (.list attributes element extra) origin done column) :
    Lands policy (.list attributes element extra) origin start done [some (.array items)] due
      (write policy (.list attributes element extra) (.array items) (start + done.length)
        column) := by
  obtain ⟨originNulls, base, origin, nulls, index, child, rfl, rfl, marked, spanned, held⟩ :=
    holds.exists_list
  rw [write_list fits, writeList]
  rw [Fits] at fits
  obtain ⟨counts, childTaken⟩ := taken
  cases started : startList (start + done.length) items.length index child with
  | error failure => exact .of_failed rfl holds
  | ok begun =>
    obtain ⟨offset, index', child'⟩ := begun
    obtain ⟨rfl, spans, counts', -, enough, growth, rfl⟩ := startList_eq_ok started
    have childFits := fits.2.2.2.growIf growth
    have landed : Lands policy element origin base.childCount (done.flatMap itemSlots)
        (items.map some) (due.flatMap itemSlots)
        (writeElements (write policy element) items index.childCount (growIf growth child)) := by
      rw [counts] at enough ⊢
      exact lands_writeElements (step origin) base.childCount _ items _ _ childFits enough
        (held.growIf fits.2.2.2 growth) (childTaken.growIf growth)
    have flags : Marked (leavesNull policy (.list attributes element extra))
        ⟨start, done, some (.array items) :: due⟩
        (list nulls index' (writeElements (write policy element) items index.childCount
          (growIf growth child)).state) :=
      marked.congr (fun _ => rfl) (by simp [slots, spans])
    have lengths : items.length = (itemSlots (some (.array items))).length := by simp [itemSlots]
    rw [counts, lengths] at spans
    have spanned' : Spanned (leavesNull policy (.list attributes element extra)) itemSlots
        base.childCount ⟨start, done ++ [some (.array items)], due⟩ index' :=
      spanned.take room spans
    -- The elements stand behind those of the rows before, as the plan of the child says.
    have below : (done ++ [some (Json.array items)]).flatMap itemSlots =
        done.flatMap itemSlots ++ items.map some := by
      rw [List.flatMap_append, List.flatMap_singleton]
      rfl
    refine ⟨⟨flags, spanned'.weaken (.undo start done [_] due), landed.kept⟩, ?_, ?_⟩
    · intro clean
      refine ⟨flags.advance (by simpa [slots, spans] using room) ?_, spanned', ?_⟩
      · rintro _ ⟨⟩ ⟨⟩
      · rw [Plan.children, below]
        exact landed.holds clean
    · intro clean
      rw [Attempt.state_map, Taken, below]
      refine ⟨?_, landed.taken clean⟩
      rw [counts', counts, List.length_append, List.length_map]
      omega

/-- A map lands in the next row of a map column. The slots it takes are the next ones of the plan of
the entries, in the keys as in the values; if an entry fails they stay due. -/
theorem lands_write_map {growable : Bool} {attributes : Attributes} {key entry : DataType}
    {extra : List (String × DataType)}
    (step : ∀ (origin values : Column) (start : Nat) (done due : List (Option Json)) (value : Json),
      Fits growable entry values → start + done.length < values.slots →
        Holds policy entry origin ⟨start, done, some value :: due⟩ values →
          Taken entry origin done values →
            Lands policy entry origin start done [some value] due
              (write policy entry value (start + done.length) values))
    {origin column : Column} (fits : Fits growable (.map attributes key entry extra) column)
    {start : Nat} {done due : List (Option Json)} {members : Json.Members}
    (room : start + done.length < column.slots)
    (holds : Holds policy (.map attributes key entry extra) origin
      ⟨start, done, some (.object members) :: due⟩ column)
    (taken : Taken (.map attributes key entry extra) origin done column) :
    Lands policy (.map attributes key entry extra) origin start done [some (.object members)] due
      (write policy (.map attributes key entry extra) (.object members) (start + done.length)
        column) := by
  obtain ⟨_, base, _, origin, nulls, index, keys, values, rfl, rfl, marked, spanned, keyed, held⟩ :=
    holds.exists_map
  rw [write_map fits, writeMap]
  rw [Fits] at fits
  obtain ⟨-, -, -, keysFit, valuesFit⟩ := fits
  obtain ⟨counts, valuesTaken⟩ := taken
  cases started : startMap (start + done.length) members.length index ⟨keys, values⟩ with
  | error failure => exact .of_failed rfl holds
  | ok begun =>
    obtain ⟨offset, index', entries'⟩ := begun
    obtain ⟨rfl, spans, counts', -, keyRoom, enough, sameValues, sameKeys⟩ :=
      startMap_eq_ok started
    -- What was held before the row was opened is held by what grew for it.
    have ready : EntriesHold growable policy entry origin base.childCount
        (done.flatMap entryKeys) (done.flatMap entrySlots)
        (entrySlots (some (.object members)) ++ due.flatMap entrySlots) ⟨keys, values⟩ :=
      ⟨length_entryKeys done, keysFit, keyed, valuesFit, held, valuesTaken⟩
    have landed := lands_writeEntries (step origin) base.childCount (due.flatMap entrySlots) members
      (done.flatMap entryKeys) (done.flatMap entrySlots) entries' (by rw [← counts]; exact keyRoom)
      (by rw [← counts]; exact enough) (ready.grown sameValues sameKeys)
    rw [← counts] at landed
    obtain ⟨keptKeys, writtenKeys, landed⟩ := landed
    have flags : ∀ entries : Entries, Marked (leavesNull policy (.map attributes key entry extra))
        ⟨start, done, some (.object members) :: due⟩
        (map nulls index' entries.keys entries.values) := by
      intro entries
      exact marked.congr (fun _ => rfl) (by simp [slots, spans])
    have lengths : members.length = (entrySlots (some (.object members))).length := by
      simp [entrySlots]
    rw [counts, lengths] at spans
    have spanned' : Spanned (leavesNull policy (.map attributes key entry extra)) entrySlots
        base.childCount ⟨start, done ++ [some (.object members)], due⟩ index' :=
      spanned.take room spans
    -- The entries stand behind those of the rows before, in the keys as in the values.
    have below : (done ++ [some (Json.object members)]).flatMap entrySlots =
        done.flatMap entrySlots ++ entrySlots (some (.object members)) := by
      rw [List.flatMap_append, List.flatMap_singleton]
    have belowKeys : (done ++ [some (Json.object members)]).flatMap entryKeys =
        done.flatMap entryKeys ++ entryKeys (some (.object members)) := by
      rw [List.flatMap_append, List.flatMap_singleton]
    refine ⟨⟨flags _, spanned'.weaken (.undo start done [_] due), keptKeys, landed.kept⟩, ?_, ?_⟩
    · intro clean
      refine ⟨(flags _).advance (by simpa [slots, spans] using room) ?_, spanned', ?_, ?_⟩
      · rintro _ ⟨⟩ ⟨⟩
      · dsimp only
        rw [belowKeys]
        exact writtenKeys clean
      · rw [Plan.children, below]
        exact landed.holds clean
    · intro clean
      rw [Attempt.state_map, Taken, below]
      refine ⟨?_, landed.taken clean⟩
      rw [counts', counts, List.length_append, lengths]
      omega

/-- What an attempt to write the next object into the columns of fields leaves. -/
structure LandsFields (policy : CellPolicy) (types : List (String × DataType))
    (origins : List (String × Column)) (start : Nat) (done : List (Option Json))
    (members : Json.Members) (due : List (Option Json))
    (attempt : Attempt (List (String × Column))) : Prop where
  kept : HoldsFields policy types origins ⟨start, done, some (.object members) :: due⟩
    attempt.state
  holds : attempt.failure = none →
    HoldsFields policy types origins ⟨start, done ++ [some (.object members)], due⟩ attempt.state
  taken : attempt.failure = none →
    TakenFields types origins (done ++ [some (.object members)]) attempt.state

mutual

/-- A write of the next value of a plan leaves the plan as it was, and if it goes through, the plan
with the value written. -/
theorem lands_write (growable : Bool) (policy : CellPolicy) : (type : DataType) →
    (origin column : Column) → (start : Nat) → (done due : List (Option Json)) → (value : Json) →
      Fits growable type column → start + done.length < column.slots →
        Holds policy type origin ⟨start, done, some value :: due⟩ column →
          Taken type origin done column →
            Lands policy type origin start done [some value] due
              (write policy type value (start + done.length) column)
  | .leaf _ _ _, _, _, _, _, _, _, fits, room, holds, _ => lands_write_leaf fits room holds
  | .struct attributes types, _, column, start, done, due, value, fits, room, holds, taken => by
    cases value with
    | object members =>
      obtain ⟨_, origins, nulls, fields, rfl, rfl, marked, held⟩ := holds.exists_struct
      rw [write_struct fits]
      rw [Fits] at fits
      obtain ⟨kept, written, fieldsTaken⟩ := lands_writeFields growable policy types origins
        nulls.size fields start done due members fits.2 room held taken
      have flags : ∀ fields', Marked (leavesNull policy (.struct attributes types))
          ⟨start, done, some (.object members) :: due⟩ (struct nulls fields') := by
        intro fields'
        exact marked.congr (fun _ => rfl) (Nat.le_refl _)
      refine ⟨⟨flags _, kept⟩, fun clean => ⟨(flags _).advance room ?_, written clean⟩,
        fieldsTaken⟩
      rintro _ ⟨⟩ ⟨⟩
    | null | bool | int | real | text | array =>
      rw [write_of_leavesNull fits nofun rfl]
      exact lands_refuse_struct fits room holds taken rfl
  | .list _ element _, _, _, _, _, _, value, fits, room, holds, taken => by
    cases value with
    | array items =>
      exact lands_write_list
        (fun origin child => lands_write growable policy element origin child) fits room holds taken
    | null | bool | int | real | text | object =>
      rw [write_of_leavesNull fits nofun rfl]
      exact lands_refuse_list fits room holds taken rfl
  | .map _ _ entry _, _, _, _, _, _, value, fits, room, holds, taken => by
    cases value with
    | object members =>
      exact lands_write_map
        (fun origin values => lands_write growable policy entry origin values) fits room holds taken
    | null | bool | int | real | text | array =>
      rw [write_of_leavesNull fits nofun rfl]
      exact lands_refuse_map fits room holds taken rfl
termination_by structural type => type

/-- The members of an object land in the next row of the fields, in the order of the fields. When
one of them fails the fields before it have landed and those behind it are untouched, and all of
them still hold the plan in which the object is due. -/
theorem lands_writeFields (growable : Bool) (policy : CellPolicy) :
    (types : List (String × DataType)) → (origins : List (String × Column)) → (size : Nat) →
      (columns : List (String × Column)) → (start : Nat) → (done due : List (Option Json)) →
        (members : Json.Members) → FitsFields growable size types columns →
          start + done.length < size →
            HoldsFields policy types origins ⟨start, done, some (.object members) :: due⟩ columns →
              TakenFields types origins done columns →
                LandsFields policy types origins start done members due
                  (writeFields policy types members (start + done.length) columns)
  | [], _, _, _, _, _, _, _, _, _, _, _ => ⟨trivial, fun _ => trivial, fun _ => trivial⟩
  | (name, type) :: types, _, size, _, start, done, due, members, fits, room, holds, taken => by
    obtain ⟨_, origin, origins, columnName, column, columns, rfl, rfl, first, rest⟩ :=
      holds.exists_cons
    obtain ⟨-, enough, columnFits, restFit⟩ := fits
    obtain ⟨firstTaken, restTaken⟩ := taken
    -- The field lands first; the fields behind it hold the plan whether it does or not.
    have landed := lands_write growable policy type origin column start
      (done.map (memberSlot name)) (due.map (memberSlot name))
      ((Json.Members.get? members name).getD .null) columnFits
      (by rw [List.length_map]; omega) first firstTaken
    rw [List.length_map] at landed
    have others := lands_writeFields growable policy types origins size columns start done due
      members restFit room rest restTaken
    have next : (done ++ [some (Json.object members)]).map (memberSlot name) =
        done.map (memberSlot name) ++ [some ((Json.Members.get? members name).getD .null)] := by
      rw [List.map_append, List.map_singleton]
      rfl
    rw [writeFields, writeMember_eq]
    dsimp only [Attempt.within]
    split
    · next failure failed =>
      exact ⟨⟨landed.kept, rest⟩, nofun, nofun⟩
    · next clean =>
      have went := Option.map_eq_none_iff.mp clean
      refine ⟨⟨landed.kept, others.kept⟩, fun done => ⟨?_, others.holds done⟩,
        fun done => ⟨?_, others.taken done⟩⟩
      · rw [Plan.field, next]
        exact landed.holds went
      · rw [next]
        exact landed.taken went
termination_by structural types => types

end

end Columnar.Column
