import Columnar.Proofs.Column.Anchored
import Columnar.Proofs.Column.Snapshots
/-!
# What stays of live rows

A column preserves the live rows of another one when each of them is null in both or in neither, lists
and maps have them at the same child slots, and these slots are preserved in turn. Then live rows read
the same in both (`Preserves.valueAt_eq`). Child counts are no part of this, so the counts that one
column had can be put back into the other: the live rows are still anchored
(`Anchored.restore`).
-/

set_option autoImplicit false

namespace Columnar.Column

mutual

/-- The live rows of a column are in another one as they are, which has at least as many child
slots. -/
def Preserves (live : Nat → Prop) : Column → Column → Prop
  | struct nulls fields, after => ∃ nulls' fields', after = struct nulls' fields' ∧
    (∀ row, live row → nulls'.isNull row = nulls.isNull row) ∧
      PreservesFields (nulls.Shown live) fields fields'
  | list nulls index child, after => ∃ nulls' index' child', after = list nulls' index' child' ∧
    (∀ row, live row → nulls'.isNull row = nulls.isNull row) ∧
      (∀ row, nulls.Shown live row → index'.span row = index.span row) ∧
      child.slots ≤ child'.slots ∧ Preserves (index.Reached (nulls.Shown live)) child child'
  | map nulls index keys values, after => ∃ nulls' index' keys' values',
    after = map nulls' index' keys' values' ∧
      (∀ row, live row → nulls'.isNull row = nulls.isNull row) ∧
      (∀ row, nulls.Shown live row → index'.span row = index.span row) ∧
      keys.spans.size ≤ keys'.spans.size ∧ values.slots ≤ values'.slots ∧
      (∀ slot, index.Reached (nulls.Shown live) slot → keys'.key slot = keys.key slot) ∧
      Preserves (index.Reached (nulls.Shown live)) values values'
  | leaf, after => ∀ row, live row → valueAt after row = valueAt leaf row
termination_by structural column => column

/-- The live rows of the columns of fields are in others as they are. -/
def PreservesFields (live : Nat → Prop) : List (String × Column) → List (String × Column) → Prop
  | [], after => after = []
  | (name, column) :: rest, after => ∃ column' rest', after = (name, column') :: rest' ∧
    Preserves live column column' ∧ PreservesFields live rest rest'
termination_by structural columns => columns

end

mutual

/-- A column preserves its own rows. -/
theorem Preserves.refl : (column : Column) → (live : Nat → Prop) → Preserves live column column
  | struct nulls fields, _ =>
    ⟨nulls, fields, rfl, fun _ _ => rfl, PreservesFields.refl fields _⟩
  | list nulls index child, _ =>
    ⟨nulls, index, child, rfl, fun _ _ => rfl, fun _ _ => rfl, Nat.le_refl _,
      Preserves.refl child _⟩
  | map nulls index keys values, _ =>
    ⟨nulls, index, keys, values, rfl, fun _ _ => rfl, fun _ _ => rfl, Nat.le_refl _, Nat.le_refl _,
      fun _ _ => rfl, Preserves.refl values _⟩
  | long _ _, _ | double _, _ | bytes _, _ | decimal _ _ _, _ | timestamp _, _ => fun _ _ => rfl
termination_by structural column => column

/-- Columns of fields preserve their own rows. -/
theorem PreservesFields.refl : (columns : List (String × Column)) → (live : Nat → Prop) →
    PreservesFields live columns columns
  | [], _ => rfl
  | (_, column) :: columns, live =>
    ⟨column, columns, rfl, Preserves.refl column live, PreservesFields.refl columns live⟩
termination_by structural columns => columns

end

mutual

/-- With fewer live rows there is less to preserve. -/
theorem Preserves.mono : (column : Column) → {live live' : Nat → Prop} →
    (∀ row, live' row → live row) → {after : Column} → Preserves live column after →
      Preserves live' column after
  | struct _ fields, _, _, fewer, _, ⟨nulls', fields', same, nulls, fieldsKept⟩ =>
    ⟨nulls', fields', same, fun row inside => nulls row (fewer row inside),
      PreservesFields.mono fields (fun _ shown => shown.mono fewer) fieldsKept⟩
  | list _ _ child, _, _, fewer, _, ⟨nulls', index', child', same, nulls, spans, room, kept⟩ =>
    ⟨nulls', index', child', same, fun row inside => nulls row (fewer row inside),
      fun row shown => spans row (shown.mono fewer), room,
      Preserves.mono child (fun _ reached => reached.mono fun _ shown => shown.mono fewer) kept⟩
  | map _ _ _ values, _, _, fewer, _,
      ⟨nulls', index', keys', values', same, nulls, spans, keyRoom, room, keysKept, kept⟩ =>
    ⟨nulls', index', keys', values', same, fun row inside => nulls row (fewer row inside),
      fun row shown => spans row (shown.mono fewer), keyRoom, room,
      fun slot reached => keysKept slot (reached.mono fun _ shown => shown.mono fewer),
      Preserves.mono values (fun _ reached => reached.mono fun _ shown => shown.mono fewer) kept⟩
  | long _ _, _, _, fewer, _, kept | double _, _, _, fewer, _, kept
  | bytes _, _, _, fewer, _, kept | decimal _ _ _, _, _, fewer, _, kept
  | timestamp _, _, _, fewer, _, kept => fun row inside => kept row (fewer row inside)
termination_by structural column => column

/-- With fewer live rows there is less to preserve in every field. -/
theorem PreservesFields.mono : (columns : List (String × Column)) → {live live' : Nat → Prop} →
    (∀ row, live' row → live row) → {after : List (String × Column)} →
      PreservesFields live columns after → PreservesFields live' columns after
  | [], _, _, _, _, same => same
  | (_, column) :: columns, _, _, fewer, _, ⟨column', rest', same, first, rest⟩ =>
    ⟨column', rest', same, Preserves.mono column fewer first,
      PreservesFields.mono columns fewer rest⟩
termination_by structural columns => columns

end

/-! ### Live rows of both columns -/

section

variable {live : Nat → Prop} {nulls nulls' : NullMask} {index index' : ChildIndex}

/-- Masks that agree on the live rows show the same ones. -/
theorem shown_of_agree (agree : ∀ row, live row → nulls'.isNull row = nulls.isNull row) {row : Nat} :
    nulls'.Shown live row ↔ nulls.Shown live row :=
  and_congr_right fun inside => by rw [agree row inside]

/-- Where flags and spans agree, live rows have the same child slots. -/
theorem reached_of_agree (agree : ∀ row, live row → nulls'.isNull row = nulls.isNull row)
    (spans : ∀ row, nulls.Shown live row → index'.span row = index.span row) {slot : Nat} :
    index'.Reached (nulls'.Shown live) slot ↔ index.Reached (nulls.Shown live) slot := by
  constructor
  · rintro ⟨row, shown, inside⟩
    have shown := (shown_of_agree agree).mp shown
    exact ⟨row, shown, spans row shown ▸ inside⟩
  · rintro ⟨row, shown, inside⟩
    exact ⟨row, (shown_of_agree agree).mpr shown, (spans row shown).symm ▸ inside⟩

/-- A row that is not among the live ones may be flagged. -/
theorem agree_setNull (consistent : nulls.Consistent) {row : Nat} (fresh : ¬live row) :
    ∀ other, live other → (nulls.setNull row).isNull other = nulls.isNull other := by
  intro other inside
  have apart : other ≠ row := by
    rintro rfl
    exact fresh inside
  exact NullMask.isNull_setNull_of_ne consistent apart

end

mutual

/-- Live rows read as they did. -/
theorem Preserves.valueAt_eq : (column : Column) → {live : Nat → Prop} → {after : Column} →
    Preserves live column after → {row : Nat} → live row → valueAt after row = valueAt column row
  | struct nulls fields, _, _, ⟨nulls', fields', same, agree, kept⟩, row, inside => by
    subst same
    rw [valueAt, valueAt, agree row inside]
    cases null : nulls.isNull row with
    | true => rfl
    | false => rw [PreservesFields.fieldValues_eq fields kept ⟨inside, null⟩]
  | list nulls index child, _, _, ⟨nulls', index', child', same, agree, spans, _, kept⟩, row,
      inside => by
    subst same
    rw [valueAt, valueAt, agree row inside]
    cases null : nulls.isNull row with
    | true => rfl
    | false =>
      have items : (index.span row).positions.map (valueAt child') =
          (index.span row).positions.map (valueAt child) :=
        List.map_congr_left fun slot among =>
          Preserves.valueAt_eq child kept ⟨row, ⟨inside, null⟩, among⟩
      rw [spans row ⟨inside, null⟩, items]
  | map nulls index keys values, _, _,
      ⟨nulls', index', keys', values', same, agree, spans, _, _, keysKept, kept⟩, row, inside => by
    subst same
    rw [valueAt, valueAt, agree row inside]
    cases null : nulls.isNull row with
    | true => rfl
    | false =>
      have entries :
          (index.span row).positions.map (fun slot => (keys'.key slot, valueAt values' slot)) =
          (index.span row).positions.map (fun slot => (keys.key slot, valueAt values slot)) :=
        List.map_congr_left fun slot among => by
          have reached : index.Reached (nulls.Shown _) slot := ⟨row, ⟨inside, null⟩, among⟩
          rw [keysKept slot reached, Preserves.valueAt_eq values kept reached]
      rw [spans row ⟨inside, null⟩]
      simp only [entries]
  | long _ _, _, _, kept, _, inside | double _, _, _, kept, _, inside
  | bytes _, _, _, kept, _, inside | decimal _ _ _, _, _, kept, _, inside
  | timestamp _, _, _, kept, _, inside => kept _ inside
termination_by structural column => column

/-- Live rows read the same in fields that preserve them. -/
theorem PreservesFields.fieldValues_eq : (columns : List (String × Column)) → {live : Nat → Prop} →
    {after : List (String × Column)} → PreservesFields live columns after → {row : Nat} →
      live row → fieldValues after row = fieldValues columns row
  | [], _, _, same, _, _ => by rw [same]
  | (name, column) :: columns, _, _, ⟨column', rest', same, first, rest⟩, row, inside => by
    subst same
    rw [fieldValues, fieldValues, Preserves.valueAt_eq column first inside,
      PreservesFields.fieldValues_eq columns rest inside]
termination_by structural columns => columns

end

mutual

/-- What preserves live rows step by step preserves them altogether. -/
theorem Preserves.trans : (column : Column) → {live : Nat → Prop} → {middle after : Column} →
    Preserves live column middle → Preserves live middle after → Preserves live column after
  | struct _ fields, _, _, _, ⟨nulls', fields', same, agree, kept⟩, next => by
    subst same
    obtain ⟨nulls'', fields'', same, agree', kept'⟩ := next
    -- The rows that show after the first change are those that showed before it.
    refine ⟨nulls'', fields'', same, fun row inside => (agree' row inside).trans (agree row inside),
      PreservesFields.trans fields kept ?_⟩
    exact PreservesFields.mono _ (fun _ => (shown_of_agree agree).mpr) kept'
  | list _ _ child, _, _, _, ⟨nulls', index', child', same, agree, spans, room, kept⟩, next => by
    subst same
    obtain ⟨nulls'', index'', child'', same, agree', spans', room', kept'⟩ := next
    refine ⟨nulls'', index'', child'', same,
      fun row inside => (agree' row inside).trans (agree row inside), ?_, Nat.le_trans room room',
      Preserves.trans child kept ?_⟩
    · intro row shown
      exact (spans' row ((shown_of_agree agree).mpr shown)).trans (spans row shown)
    · exact Preserves.mono _ (fun _ => (reached_of_agree agree spans).mpr) kept'
  | map _ _ _ values, _, _, _,
      ⟨nulls', index', keys', values', same, agree, spans, keyRoom, room, keysKept, kept⟩, next => by
    subst same
    obtain ⟨nulls'', index'', keys'', values'', same, agree', spans', keyRoom', room', keysKept',
      kept'⟩ := next
    refine ⟨nulls'', index'', keys'', values'', same,
      fun row inside => (agree' row inside).trans (agree row inside), ?_,
      Nat.le_trans keyRoom keyRoom', Nat.le_trans room room', ?_, Preserves.trans values kept ?_⟩
    · intro row shown
      exact (spans' row ((shown_of_agree agree).mpr shown)).trans (spans row shown)
    · intro slot reached
      exact (keysKept' slot ((reached_of_agree agree spans).mpr reached)).trans
        (keysKept slot reached)
    · exact Preserves.mono _ (fun _ => (reached_of_agree agree spans).mpr) kept'
  | long _ _, _, _, _, kept, next | double _, _, _, _, kept, next | bytes _, _, _, _, kept, next
  | decimal _ _ _, _, _, _, kept, next | timestamp _, _, _, _, kept, next =>
    fun row inside => (Preserves.valueAt_eq _ next inside).trans (kept row inside)
termination_by structural column => column

/-- What is preserved of the fields twice is preserved. -/
theorem PreservesFields.trans : (columns : List (String × Column)) → {live : Nat → Prop} →
    {middle after : List (String × Column)} → PreservesFields live columns middle →
      PreservesFields live middle after → PreservesFields live columns after
  | [], _, _, _, same, next => by
    subst same
    exact next
  | (_, column) :: columns, _, _, _, ⟨column', rest', same, first, rest⟩, next => by
    subst same
    obtain ⟨column'', rest'', same, first', rest'⟩ := next
    exact ⟨column'', rest'', same, Preserves.trans column first first',
      PreservesFields.trans columns rest rest'⟩
termination_by structural columns => columns

end

/-! ### Operations that move nothing -/

section

variable {growable : Bool} {live : Nat → Prop}

mutual

/-- Growing a column that has all its live rows preserves them. -/
theorem preserves_grow (size : Nat) : (type : DataType) → (column : Column) →
    Fits growable type column → {live : Nat → Prop} → (∀ row, live row → row < column.slots) →
      Preserves live column (grow size column)
  | .leaf _ _ _, column, fits, _, inside => by
    have kept := fun row shown => valueAt_grow_of_fitsPrimitive fits size (inside row shown)
    cases column with
    | long | double | bytes | decimal | timestamp => exact kept
    | struct | list | map => exact fits.elim
  | .struct _ types, _, fits, _, inside => by
    obtain ⟨nulls, fields, rfl, -, fieldsFit⟩ := fits.exists_struct
    exact ⟨_, _, rfl, fun row _ => NullMask.isNull_grow nulls size row,
      preservesFields_grow size types nulls.size fields fieldsFit fun row shown => inside row shown.1⟩
  | .list _ _ _, _, fits, _, _ => by
    obtain ⟨nulls, index, child, rfl, -⟩ := fits.exists_list
    exact ⟨_, _, _, rfl, fun row _ => NullMask.isNull_grow nulls size row,
      fun row _ => ChildIndex.span_grow index size row, Nat.le_refl _, Preserves.refl child _⟩
  | .map _ _ _ _, _, fits, _, _ => by
    obtain ⟨nulls, index, keys, values, rfl, -⟩ := fits.exists_map
    exact ⟨_, _, _, _, rfl, fun row _ => NullMask.isNull_grow nulls size row,
      fun row _ => ChildIndex.span_grow index size row, Nat.le_refl _, Nat.le_refl _,
      fun _ _ => rfl, Preserves.refl values _⟩
termination_by structural type => type

/-- Fields that grow preserve all rows that they had. -/
theorem preservesFields_grow (more : Nat) : (types : List (String × DataType)) → (size : Nat) →
    (columns : List (String × Column)) → FitsFields growable size types columns →
      {live : Nat → Prop} → (∀ row, live row → row < size) →
        PreservesFields live columns (growFields more columns)
  | _, _, [], _, _, _ => rfl
  | [], _, _ :: _, fits, _, _ => fits.elim
  | (_, type) :: types, size, (_, column) :: columns, fits, _, inside => by
    obtain ⟨-, enough, columnFits, restFit⟩ := fits
    exact ⟨_, _, rfl,
      preserves_grow more type column columnFits
        fun row shown => Nat.lt_of_lt_of_le (inside row shown) enough,
      preservesFields_grow more types size columns restFit inside⟩
termination_by structural types => types

end

mutual

/-- A permission to grow has no part in what a row reads as. -/
theorem preserves_setGrowable (allowed : Bool) : (column : Column) → {live : Nat → Prop} →
    Preserves live column (setGrowable allowed column)
  | struct _ fields, _ =>
    ⟨_, _, rfl, fun _ _ => rfl, preservesFields_setGrowable allowed fields⟩
  | list _ _ child, _ =>
    ⟨_, _, _, rfl, fun _ _ => rfl, fun _ _ => rfl,
      Nat.le_of_eq (slots_setGrowable allowed child).symm, preserves_setGrowable allowed child⟩
  | map _ _ _ values, _ =>
    ⟨_, _, _, _, rfl, fun _ _ => rfl, fun _ _ => rfl, Nat.le_refl _,
      Nat.le_of_eq (slots_setGrowable allowed values).symm, fun _ _ => rfl,
      preserves_setGrowable allowed values⟩
  | long _ _, _ | double _, _ | bytes _, _ | decimal _ _ _, _ | timestamp _, _ => fun _ _ => rfl
termination_by structural column => column

/-- A permission to grow has no part in what the fields of a row read as. -/
theorem preservesFields_setGrowable (allowed : Bool) : (columns : List (String × Column)) →
    {live : Nat → Prop} → PreservesFields live columns (setGrowableFields allowed columns)
  | [], _ => rfl
  | (_, column) :: columns, _ =>
    ⟨_, _, rfl, preserves_setGrowable allowed column, preservesFields_setGrowable allowed columns⟩
termination_by structural columns => columns

end

/-- A child count that is put back moves no span. -/
theorem span_restoreIndex (index : ChildIndex) (counts : List Nat) (row : Nat) :
    (restoreIndex index counts).1.span row = index.span row := by
  rw [ChildIndex.span, spans_restoreIndex, ChildIndex.span]

mutual

/-- Child counts are no part of what is preserved. -/
theorem preserves_restore : (column : Column) → (counts : List Nat) → {live : Nat → Prop} →
    Preserves live column (restore column counts).1
  | struct _ fields, counts, _ =>
    ⟨_, _, rfl, fun _ _ => rfl, preservesFields_restore fields counts⟩
  | list _ index child, counts, _ =>
    ⟨_, _, _, rfl, fun _ _ => rfl, fun row _ => span_restoreIndex index counts row,
      Nat.le_of_eq (slots_restore child _).symm, preserves_restore child _⟩
  | map _ index _ values, counts, _ =>
    ⟨_, _, _, _, rfl, fun _ _ => rfl, fun row _ => span_restoreIndex index counts row,
      Nat.le_refl _, Nat.le_of_eq (slots_restore values _).symm, fun _ _ => rfl,
      preserves_restore values _⟩
  | long _ _, _, _ | double _, _, _ | bytes _, _, _ | decimal _ _ _, _, _ | timestamp _, _, _ =>
    fun _ _ => rfl
termination_by structural column => column

/-- Child counts that are put back have no part in what the fields of a row read as. -/
theorem preservesFields_restore : (columns : List (String × Column)) → (counts : List Nat) →
    {live : Nat → Prop} → PreservesFields live columns (restoreFields columns counts).1
  | [], _, _ => rfl
  | (_, column) :: columns, counts, _ =>
    ⟨_, _, rfl, preserves_restore column counts, preservesFields_restore columns _⟩
termination_by structural columns => columns

end

end

/-! ### Putting child counts back -/

mutual

/-- Where live rows were anchored before, and are still what they were, the child counts from before
anchor them again. -/
theorem Anchored.restore {growable allowed : Bool} : (type : DataType) →
    (before after : Column) → Fits growable type before → Fits allowed type after →
      {live : Nat → Prop} → Anchored live before → Preserves live before after →
        Anchored live after → (more : List Nat) →
          Anchored live (Column.restore after (childCounts before ++ more)).1
  | .leaf _ _ _, _, _, beforeFits, afterFits, _, _, _, anchored, more => by
    rw [childCounts_of_fitsPrimitive beforeFits, restore_of_fitsPrimitive afterFits]
    exact anchored
  | .struct _ types, _, _, beforeFits, afterFits, _, held, kept, anchored, more => by
    obtain ⟨nulls, fields, rfl, -, fieldsFit⟩ := beforeFits.exists_struct
    obtain ⟨nulls', fields', same, agree, kept⟩ := kept
    subst same
    rw [Fits] at afterFits
    exact AnchoredFields.mono _ (fun _ => (shown_of_agree agree).mp)
      (AnchoredFields.restore types nulls.size fields nulls'.size fields' fieldsFit afterFits.2 held
        kept (AnchoredFields.mono _ (fun _ => (shown_of_agree agree).mpr) anchored) more)
  | .list _ element _, _, _, beforeFits, afterFits, _, held, kept, anchored, more => by
    obtain ⟨nulls, index, child, rfl, -, -, -, childFits⟩ := beforeFits.exists_list
    obtain ⟨nulls', index', child', same, agree, spans, more_slots, kept⟩ := kept
    subst same
    rw [Fits] at afterFits
    obtain ⟨room, within, childHeld⟩ := held
    obtain ⟨-, -, childAnchored⟩ := anchored
    have restored := Anchored.restore element child child' childFits afterFits.2.2.2 childHeld kept
      (Anchored.mono child' (fun _ => (reached_of_agree agree spans).mpr) childAnchored) more
    refine ⟨?_, ?_, Anchored.mono _ (fun _ => (reached_of_agree agree spans).mp) restored⟩
    · rw [slots_restore]
      exact Nat.le_trans room more_slots
    · intro row shown
      have shown := (shown_of_agree agree).mp shown
      have ends := within row shown
      rw [← spans row shown] at ends
      exact ends
  | .map _ _ entry _, _, _, beforeFits, afterFits, _, held, kept, anchored, more => by
    obtain ⟨nulls, index, keys, values, rfl, -, -, -, -, valuesFit⟩ := beforeFits.exists_map
    obtain ⟨nulls', index', keys', values', same, agree, spans, more_keys, more_slots, -, kept⟩ :=
      kept
    subst same
    rw [Fits] at afterFits
    obtain ⟨keyRoom, room, within, -, valuesHeld⟩ := held
    obtain ⟨-, -, -, keysAnchored, valuesAnchored⟩ := anchored
    have restored := Anchored.restore entry values values' valuesFit afterFits.2.2.2.2 valuesHeld
      kept (Anchored.mono values' (fun _ => (reached_of_agree agree spans).mpr) valuesAnchored) more
    refine ⟨Nat.le_trans keyRoom more_keys, ?_, ?_, keysAnchored,
      Anchored.mono _ (fun _ => (reached_of_agree agree spans).mp) restored⟩
    · rw [slots_restore]
      exact Nat.le_trans room more_slots
    · intro row shown
      have shown := (shown_of_agree agree).mp shown
      have ends := within row shown
      rw [← spans row shown] at ends
      exact ends
termination_by structural type => type

/-- With the child counts put back that the fields had, live rows that were preserved are still
anchored in every field. Each field finds its own counts at the head of the list, since the field
before it took exactly as many as it had. -/
theorem AnchoredFields.restore {growable allowed : Bool} : (types : List (String × DataType)) →
    (size : Nat) → (before : List (String × Column)) → (size' : Nat) →
      (after : List (String × Column)) → FitsFields growable size types before →
        FitsFields allowed size' types after → {live : Nat → Prop} → AnchoredFields live before →
          PreservesFields live before after → AnchoredFields live after → (more : List Nat) →
            AnchoredFields live (restoreFields after (childCountsFields before ++ more)).1
  | _, _, _, _, [], _, _, _, _, _, _, _ => by trivial
  | [], _, _, _, _ :: _, _, fits, _, _, _, _, _ => fits.elim
  | _ :: _, _, [], _, _ :: _, fits, _, _, _, _, _, _ => fits.elim
  | (_, type) :: types, size, (_, before) :: befores, size', (_, after) :: afters, ⟨_, _, first, rest⟩,
      ⟨_, _, first', rest'⟩, _, ⟨held, othersHeld⟩, kept, ⟨anchored, othersAnchored⟩, more => by
    obtain ⟨_, _, same, kept, othersKept⟩ := kept
    cases same
    have here := Anchored.restore type before after first first' held kept anchored
      (childCountsFields befores ++ more)
    have left := (childCounts_restore first first' (childCountsFields befores ++ more)).1
    rw [← List.append_assoc] at here left
    rw [childCountsFields, restoreFields]
    dsimp only
    rw [left]
    exact ⟨here, AnchoredFields.restore types size befores size' afters rest rest' othersHeld
      othersKept othersAnchored more⟩
termination_by structural types => types

end

end Columnar.Column
