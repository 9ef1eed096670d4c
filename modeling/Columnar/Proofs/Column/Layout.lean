import Columnar.Proofs.Column.Plan
/-!
# Columns that hold what a plan says

`Holds` is the invariant of the columnar layout: every node of a column tree holds the values that
the plan of its parent makes for it. It says what was written and which flags may stand, but not how
many child slots are taken, so child counts can be put back without losing it. Child slots are counted
from the child counts of an earlier column, the origin of the plan. Whatever holds a plan reads as the
plan says (`Holds.valueAt_eq`).
-/

set_option autoImplicit false

namespace Columnar.Column

mutual

/-- A column holds what a plan says, at every node of its tree. -/
def Holds (policy : CellPolicy) : DataType → Column → Plan → Column → Prop
  | .leaf kind attributes extra, _, plan, column =>
    Marked (leavesNull policy (.leaf kind attributes extra)) plan column ∧
      ∀ i value, plan.done[i]? = some (some value) →
        leavesNull policy (.leaf kind attributes extra) value = false →
          valueAt column (plan.start + i) = stored policy (.leaf kind attributes extra) value ∧
            Settled (plan.start + i) column
  | .struct attributes types, struct _ origins, plan, struct nulls fields =>
    Marked (leavesNull policy (.struct attributes types)) plan (struct nulls fields) ∧
      HoldsFields policy types origins plan fields
  | .list attributes element extra, list _ base origin, plan, list nulls index child =>
    Marked (leavesNull policy (.list attributes element extra)) plan (list nulls index child) ∧
      Spanned (leavesNull policy (.list attributes element extra)) itemSlots base.childCount plan
        index ∧
      Holds policy element origin (plan.children base.childCount itemSlots) child
  | .map attributes key entry extra, map _ base _ origin, plan, map nulls index keys values =>
    Marked (leavesNull policy (.map attributes key entry extra)) plan
        (map nulls index keys values) ∧
      Spanned (leavesNull policy (.map attributes key entry extra)) entrySlots base.childCount plan
        index ∧
      Keyed base.childCount (plan.done.flatMap entryKeys) keys ∧
      Holds policy entry origin (plan.children base.childCount entrySlots) values
  | _, _, _, _ => False
termination_by structural type => type

/-- The columns of fields hold what a plan for their struct says. -/
def HoldsFields (policy : CellPolicy) : List (String × DataType) → List (String × Column) →
    Plan → List (String × Column) → Prop
  | [], _, _, _ => True
  | (name, type) :: types, (_, origin) :: origins, plan, (_, column) :: columns =>
    Holds policy type origin (plan.field name) column ∧
      HoldsFields policy types origins plan columns
  | _, _, _, _ => False
termination_by structural types => types

end

variable {policy : CellPolicy}

/-! ### What a column that holds a plan is made of -/

/-- A struct column that holds a plan has the flags of the plan, and its fields hold the members of
the values. -/
theorem Holds.exists_struct {attributes : Attributes} {types : List (String × DataType)}
    {origin column : Column} {plan : Plan}
    (holds : Holds policy (.struct attributes types) origin plan column) :
    ∃ originNulls origins nulls fields,
      origin = struct originNulls origins ∧ column = struct nulls fields ∧
      Marked (leavesNull policy (.struct attributes types)) plan (struct nulls fields) ∧
      HoldsFields policy types origins plan fields := by
  cases origin <;> try exact holds.elim
  case struct originNulls origins =>
    cases column <;> try exact holds.elim
    case struct nulls fields => exact ⟨originNulls, origins, nulls, fields, rfl, rfl, holds⟩

/-- A list column that holds a plan has the flags of the plan and spans for the items of the values,
and its child holds the items, counted from the child count of the origin. -/
theorem Holds.exists_list {attributes : Attributes} {element : DataType}
    {extra : List (String × DataType)} {origin column : Column} {plan : Plan}
    (holds : Holds policy (.list attributes element extra) origin plan column) :
    ∃ originNulls base originChild nulls index child,
      origin = list originNulls base originChild ∧ column = list nulls index child ∧
      Marked (leavesNull policy (.list attributes element extra)) plan (list nulls index child) ∧
      Spanned (leavesNull policy (.list attributes element extra)) itemSlots base.childCount plan
        index ∧
      Holds policy element originChild (plan.children base.childCount itemSlots) child := by
  cases origin <;> try exact holds.elim
  case list originNulls base originChild =>
    cases column <;> try exact holds.elim
    case list nulls index child =>
      exact ⟨originNulls, base, originChild, nulls, index, child, rfl, rfl, holds⟩

/-- A map column that holds a plan has the flags of the plan, spans for the entries and their keys,
and its values hold those of the entries, counted from the child count of the origin. -/
theorem Holds.exists_map {attributes : Attributes} {key entry : DataType}
    {extra : List (String × DataType)} {origin column : Column} {plan : Plan}
    (holds : Holds policy (.map attributes key entry extra) origin plan column) :
    ∃ originNulls base originKeys originValues nulls index keys values,
      origin = map originNulls base originKeys originValues ∧
      column = map nulls index keys values ∧
      Marked (leavesNull policy (.map attributes key entry extra)) plan
        (map nulls index keys values) ∧
      Spanned (leavesNull policy (.map attributes key entry extra)) entrySlots base.childCount plan
        index ∧
      Keyed base.childCount (plan.done.flatMap entryKeys) keys ∧
      Holds policy entry originValues (plan.children base.childCount entrySlots) values := by
  cases origin <;> try exact holds.elim
  case map originNulls base originKeys originValues =>
    cases column <;> try exact holds.elim
    case map nulls index keys values =>
      exact ⟨originNulls, base, originKeys, originValues, nulls, index, keys, values, rfl, rfl,
        holds⟩

/-- The first field holds the members of its name, and the other fields hold theirs. -/
theorem HoldsFields.exists_cons {name : String} {type : DataType}
    {types : List (String × DataType)} {origins columns : List (String × Column)} {plan : Plan}
    (holds : HoldsFields policy ((name, type) :: types) origins plan columns) :
    ∃ originName origin restOrigins columnName column restColumns,
      origins = (originName, origin) :: restOrigins ∧
      columns = (columnName, column) :: restColumns ∧
      Holds policy type origin (plan.field name) column ∧
      HoldsFields policy types restOrigins plan restColumns := by
  cases origins with
  | nil => exact holds.elim
  | cons origin restOrigins =>
    cases columns with
    | nil => exact holds.elim
    | cons column restColumns => exact ⟨_, _, _, _, _, _, rfl, rfl, holds⟩

/-! ### What does not disturb a layout -/

mutual

/-- What holds a plan holds every plan that it covers. -/
theorem Holds.weaken : (type : DataType) → (origin column : Column) → (plan weaker : Plan) →
    plan.Covers weaker → Holds policy type origin plan column →
      Holds policy type origin weaker column
  | .leaf _ _ _, _, _, plan, weaker, covers, holds => by
    refine ⟨holds.1.weaken covers, ?_⟩
    intro i value written present
    rw [covers.start]
    exact holds.2 i value (getElem?_of_initial covers.done written) present
  | .struct _ types, _, _, plan, weaker, covers, holds => by
    obtain ⟨_, origins, _, fields, rfl, rfl, marked, held⟩ := holds.exists_struct
    exact ⟨marked.weaken covers, HoldsFields.weaken types origins fields plan weaker covers held⟩
  | .list _ element _, _, _, plan, weaker, covers, holds => by
    obtain ⟨_, base, origin, _, _, child, rfl, rfl, marked, spanned, held⟩ := holds.exists_list
    exact ⟨marked.weaken covers, spanned.weaken covers,
      Holds.weaken element origin child _ _ (covers.children base.childCount itemSlots) held⟩
  | .map _ _ entry _, _, _, plan, weaker, covers, holds => by
    obtain ⟨_, base, _, origin, _, _, _, values, rfl, rfl, marked, spanned, keyed, held⟩ :=
      holds.exists_map
    have fewer : weaker.done.flatMap entryKeys <+: plan.done.flatMap entryKeys := by
      obtain ⟨more, same⟩ := covers.done
      rw [← same, List.flatMap_append]
      exact List.prefix_append _ _
    exact ⟨marked.weaken covers, spanned.weaken covers, keyed.weaken fewer,
      Holds.weaken entry origin values _ _ (covers.children base.childCount entrySlots) held⟩
termination_by structural type => type

/-- Fields that hold a plan hold any plan that it covers. -/
theorem HoldsFields.weaken : (types : List (String × DataType)) →
    (origins columns : List (String × Column)) → (plan weaker : Plan) →
      plan.Covers weaker → HoldsFields policy types origins plan columns →
        HoldsFields policy types origins weaker columns
  | [], _, _, _, _, _, _ => by trivial
  | (name, type) :: types, _, _, plan, weaker, covers, holds => by
    obtain ⟨_, origin, origins, _, column, columns, rfl, rfl, first, rest⟩ := holds.exists_cons
    exact ⟨Holds.weaken type origin column _ _ (covers.field name) first,
      HoldsFields.weaken types origins columns plan weaker covers rest⟩
termination_by structural types => types

end

mutual

/-- A slot without a value counts as written when nothing is done. -/
theorem Holds.skip {growable : Bool} : (type : DataType) → (origin column : Column) →
    Fits growable type column → (start : Nat) → (done due : List (Option Json)) →
      start + done.length < column.slots →
        Holds policy type origin ⟨start, done, none :: due⟩ column →
          Holds policy type origin ⟨start, done ++ [none], due⟩ column
  | .leaf _ _ _, _, _, _, start, done, due, room, holds => by
    refine ⟨holds.1.advance room nofun, ?_⟩
    intro i value written present
    obtain ⟨-, written⟩ | ⟨-, nothing⟩ := getElem?_concat written
    · exact holds.2 i value written present
    · cases nothing
  | .struct _ types, _, _, fits, start, done, due, room, holds => by
    obtain ⟨_, origins, nulls, fields, rfl, rfl, marked, held⟩ := holds.exists_struct
    rw [Fits] at fits
    exact ⟨marked.advance room nofun,
      HoldsFields.skip types origins nulls.size fields fits.2 none (fun _ => rfl) start done due
        room held⟩
  | .list _ element _, _, _, _, start, done, due, room, holds => by
    obtain ⟨_, base, origin, _, _, child, rfl, rfl, marked, spanned, held⟩ := holds.exists_list
    refine ⟨marked.advance room nofun, spanned.skip nofun, ?_⟩
    rw [Plan.children_of_eq_nil rfl]
    exact held
  | .map _ _ entry _, _, _, _, start, done, due, room, holds => by
    obtain ⟨_, base, _, origin, _, _, _, values, rfl, rfl, marked, spanned, keyed, held⟩ :=
      holds.exists_map
    refine ⟨marked.advance room nofun, spanned.skip nofun, ?_, ?_⟩
    · simpa [entryKeys] using keyed
    · rw [Plan.children_of_eq_nil rfl]
      exact held
termination_by structural type => type

/-- The fields of a struct that is null are not written. -/
theorem HoldsFields.skip {growable : Bool} : (types : List (String × DataType)) →
    (origins : List (String × Column)) → (size : Nat) → (columns : List (String × Column)) →
      FitsFields growable size types columns → (slot : Option Json) →
        (∀ name, memberSlot name slot = none) → (start : Nat) → (done due : List (Option Json)) →
          start + done.length < size →
            HoldsFields policy types origins ⟨start, done, slot :: due⟩ columns →
              HoldsFields policy types origins ⟨start, done ++ [slot], due⟩ columns
  | [], _, _, _, _, _, _, _, _, _, _, _ => by trivial
  | (name, type) :: types, _, size, _, fits, slot, absent, start, done, due, room, holds => by
    obtain ⟨_, origin, origins, _, column, columns, rfl, rfl, first, rest⟩ := holds.exists_cons
    rw [FitsFields] at fits
    obtain ⟨-, enough, columnFits, restFit⟩ := fits
    refine ⟨?_, HoldsFields.skip types origins size columns restFit slot absent start done due room
      rest⟩
    have skipped := Holds.skip type origin column columnFits start (done.map (memberSlot name))
      (due.map (memberSlot name)) (by rw [List.length_map]; omega)
    simp only [Plan.field, List.map_append, List.map_cons, List.map_nil, absent] at first ⊢
    exact skipped first
termination_by structural types => types

end

mutual

/-- Growing a column does not disturb what it holds. -/
theorem Holds.grow {growable : Bool} (size : Nat) : (type : DataType) →
    (origin column : Column) → Fits growable type column → (plan : Plan) →
      Holds policy type origin plan column →
        Holds policy type origin plan (Column.grow size column)
  | .leaf _ _ _, _, column, fits, plan, holds => by
    refine ⟨holds.1.grow size, ?_⟩
    intro i value written present
    have inside : plan.start + i < column.slots := by
      have bound := (List.getElem?_eq_some_iff.mp written).1
      have most := holds.1.inside
      omega
    obtain ⟨reads, settled⟩ := holds.2 i value written present
    rw [valueAt_grow_of_fitsPrimitive fits size inside]
    exact ⟨reads, settled_grow_of_fitsPrimitive fits size inside settled⟩
  | .struct _ types, _, column, fits, plan, holds => by
    obtain ⟨_, origins, nulls, fields, rfl, rfl, marked, held⟩ := holds.exists_struct
    rw [Fits] at fits
    exact ⟨marked.grow size,
      HoldsFields.grow size types origins nulls.size fields fits.2 plan held⟩
  | .list _ element _, _, _, _, plan, holds => by
    obtain ⟨_, base, origin, _, _, child, rfl, rfl, marked, spanned, held⟩ := holds.exists_list
    exact ⟨marked.grow size, spanned.grow size, held⟩
  | .map _ _ entry _, _, _, _, plan, holds => by
    obtain ⟨_, base, _, origin, _, _, _, values, rfl, rfl, marked, spanned, keyed, held⟩ :=
      holds.exists_map
    exact ⟨marked.grow size, spanned.grow size, keyed, held⟩
termination_by structural type => type

/-- Fields that grow hold what they held; their new rows lie behind the plan and are not flagged. -/
theorem HoldsFields.grow {growable : Bool} (more : Nat) : (types : List (String × DataType)) →
    (origins : List (String × Column)) → (size : Nat) → (columns : List (String × Column)) →
      FitsFields growable size types columns → (plan : Plan) →
        HoldsFields policy types origins plan columns →
          HoldsFields policy types origins plan (growFields more columns)
  | [], _, _, _, _, _, _ => by trivial
  | (name, type) :: types, _, size, _, fits, plan, holds => by
    obtain ⟨_, origin, origins, _, column, columns, rfl, rfl, first, rest⟩ := holds.exists_cons
    rw [FitsFields] at fits
    obtain ⟨-, -, columnFits, restFit⟩ := fits
    exact ⟨Holds.grow more type origin column columnFits (plan.field name) first,
      HoldsFields.grow more types origins size columns restFit plan rest⟩
termination_by structural types => types

end

/-! Whether children may grow has no part in a layout, and neither have child counts. -/

/-- Putting child counts back changes no flag. -/
theorem nulls_restore (column : Column) (counts : List Nat) :
    (restore column counts).1.nulls = column.nulls := by
  cases column <;> rfl

/-- A column keeps the flags of a plan when child counts are put back. -/
theorem marked_restore {null : Json → Bool} {plan : Plan} {column : Column}
    (marked : Marked null plan column) (counts : List Nat) :
    Marked null plan (restore column counts).1 := by
  refine marked.congr (fun row => ?_) (Nat.le_of_eq (slots_restore column counts).symm)
  rw [isNull, nulls_restore, isNull]

mutual

/-- A column holds what it held when its permission changes. -/
theorem Holds.setGrowable {growable : Bool} (allowed : Bool) : (type : DataType) →
    (origin column : Column) → Fits growable type column → (plan : Plan) →
      Holds policy type origin plan column →
        Holds policy type origin plan (Column.setGrowable allowed column)
  | .leaf _ _ _, _, _, fits, plan, holds => by
    rw [setGrowable_of_fitsPrimitive fits]
    exact holds
  | .struct _ types, _, _, fits, plan, holds => by
    obtain ⟨_, origins, nulls, fields, rfl, rfl, marked, held⟩ := holds.exists_struct
    rw [Fits] at fits
    exact ⟨marked.congr (fun _ => rfl) (Nat.le_refl _),
      HoldsFields.setGrowable allowed types origins nulls.size fields fits.2 plan held⟩
  | .list _ element _, _, _, fits, plan, holds => by
    obtain ⟨_, base, origin, _, _, child, rfl, rfl, marked, spanned, held⟩ := holds.exists_list
    rw [Fits] at fits
    exact ⟨marked.congr (fun _ => rfl) (Nat.le_refl _), spanned,
      Holds.setGrowable allowed element origin child fits.2.2.2 _ held⟩
  | .map _ _ entry _, _, _, fits, plan, holds => by
    obtain ⟨_, base, _, origin, _, _, _, values, rfl, rfl, marked, spanned, keyed, held⟩ :=
      holds.exists_map
    rw [Fits] at fits
    exact ⟨marked.congr (fun _ => rfl) (Nat.le_refl _), spanned, keyed,
      Holds.setGrowable allowed entry origin values fits.2.2.2.2 _ held⟩
termination_by structural type => type

/-- Fields hold what they held when their permission changes. -/
theorem HoldsFields.setGrowable {growable : Bool} (allowed : Bool) :
    (types : List (String × DataType)) → (origins : List (String × Column)) → (size : Nat) →
      (columns : List (String × Column)) → FitsFields growable size types columns →
        (plan : Plan) → HoldsFields policy types origins plan columns →
          HoldsFields policy types origins plan (setGrowableFields allowed columns)
  | [], _, _, _, _, _, _ => by trivial
  | (name, type) :: types, _, size, _, fits, plan, holds => by
    obtain ⟨_, origin, origins, _, column, columns, rfl, rfl, first, rest⟩ := holds.exists_cons
    rw [FitsFields] at fits
    obtain ⟨-, -, columnFits, restFit⟩ := fits
    exact ⟨Holds.setGrowable allowed type origin column columnFits (plan.field name) first,
      HoldsFields.setGrowable allowed types origins size columns restFit plan rest⟩
termination_by structural types => types

end

mutual

/-- Putting child counts back does not disturb what a column holds. -/
theorem Holds.restore {growable : Bool} : (type : DataType) → (origin column : Column) →
    Fits growable type column → (plan : Plan) → (counts : List Nat) →
      Holds policy type origin plan column →
        Holds policy type origin plan (Column.restore column counts).1
  | .leaf _ _ _, _, _, fits, plan, counts, holds => by
    rw [restore_of_fitsPrimitive fits]
    exact holds
  | .struct _ types, _, _, fits, plan, counts, holds => by
    obtain ⟨_, origins, nulls, fields, rfl, rfl, marked, held⟩ := holds.exists_struct
    rw [Fits] at fits
    exact ⟨marked_restore marked counts,
      HoldsFields.restore types origins nulls.size fields fits.2 plan counts held⟩
  | .list _ element _, _, _, fits, plan, counts, holds => by
    obtain ⟨_, base, origin, _, index, child, rfl, rfl, marked, spanned, held⟩ := holds.exists_list
    rw [Fits] at fits
    exact ⟨marked_restore marked counts, spanned.congr (spans_restoreIndex index counts),
      Holds.restore element origin child fits.2.2.2 _ _ held⟩
  | .map _ _ entry _, _, _, fits, plan, counts, holds => by
    obtain ⟨_, base, _, origin, _, index, _, values, rfl, rfl, marked, spanned, keyed, held⟩ :=
      holds.exists_map
    rw [Fits] at fits
    exact ⟨marked_restore marked counts, spanned.congr (spans_restoreIndex index counts), keyed,
      Holds.restore entry origin values fits.2.2.2.2 _ _ held⟩
termination_by structural type => type

/-- Fields hold what they held when child counts are put back, whatever these are. -/
theorem HoldsFields.restore {growable : Bool} : (types : List (String × DataType)) →
    (origins : List (String × Column)) → (size : Nat) → (columns : List (String × Column)) →
      FitsFields growable size types columns → (plan : Plan) → (counts : List Nat) →
        HoldsFields policy types origins plan columns →
          HoldsFields policy types origins plan (restoreFields columns counts).1
  | [], _, _, _, _, _, _, _ => by trivial
  | (name, type) :: types, _, size, _, fits, plan, counts, holds => by
    obtain ⟨_, origin, origins, _, column, columns, rfl, rfl, first, rest⟩ := holds.exists_cons
    rw [FitsFields] at fits
    obtain ⟨-, -, columnFits, restFit⟩ := fits
    exact ⟨Holds.restore type origin column columnFits (plan.field name) counts first,
      HoldsFields.restore types origins size columns restFit plan _ rest⟩
termination_by structural types => types

end

/-! ### Reading a layout -/

section

variable {growable : Bool}

/-- Child slots read in order are the values that were planned for them. -/
theorem map_positions_eq {α : Type} {read : Nat → α} {span : Span} {values : List α}
    (length : span.length = values.length)
    (reads : ∀ j value, values[j]? = some value → read (span.start + j) = value) :
    span.positions.map read = values := by
  apply List.ext_getElem
  · rw [List.length_map, Span.positions, List.length_range', length]
  · intro j inside within
    have here : values[j]? = some values[j] := List.getElem?_eq_getElem within
    rw [List.getElem_map, ← reads j values[j] here]
    simp [Span.positions]

mutual

/-- A written slot reads as the value that was stored in it. -/
theorem Holds.valueAt_eq : (type : DataType) → (origin column : Column) →
    Fits growable type column → (plan : Plan) → Holds policy type origin plan column →
      ∀ i value, plan.done[i]? = some (some value) →
        valueAt column (plan.start + i) = stored policy type value
  | .leaf kind attributes extra, _, column, _, plan, holds, i, value, written => by
    have flag := holds.1.isNull_eq written
    cases null : leavesNull policy (.leaf kind attributes extra) value with
    | true => rw [valueAt_of_isNull (by rw [flag, null]), stored_of_leavesNull null]
    | false => exact (holds.2 i value written null).1
  | .struct attributes types, _, _, fits, plan, holds, i, value, written => by
    obtain ⟨_, origins, nulls, fields, rfl, rfl, marked, held⟩ := holds.exists_struct
    have flag := marked.isNull_eq written
    cases value with
    | object members =>
      rw [Fits] at fits
      have present : nulls.isNull (plan.start + i) = false := flag
      rw [valueAt, present, stored, HoldsFields.fieldValues_eq types origins nulls.size fields
        fits.2 plan held i members written]
      rfl
    | null | bool | int | real | text | array => exact valueAt_of_isNull flag
  | .list attributes element extra, _, _, fits, plan, holds, i, value, written => by
    obtain ⟨_, base, origin, nulls, index, child, rfl, rfl, marked, spanned, held⟩ :=
      holds.exists_list
    have flag := marked.isNull_eq written
    cases value with
    | array items =>
      rw [Fits] at fits
      have present : nulls.isNull (plan.start + i) = false := flag
      -- The span of the row is where the plan of the child has its elements, each of which reads as
      -- it is stored by induction.
      have elements : (index.span (plan.start + i)).positions.map (valueAt child) =
          items.map (stored policy element) := by
        rw [spanned i (.array items) written rfl]
        apply map_positions_eq
        · simp [itemSlots]
        · intro j other found
          rw [List.getElem?_map, Option.map_eq_some_iff] at found
          obtain ⟨item, item_at, rfl⟩ := found
          have inner : (itemSlots (some (.array items)))[j]? = some (some item) := by
            simp [itemSlots, item_at]
          rw [Nat.add_assoc]
          exact Holds.valueAt_eq element origin child fits.2.2.2 _ held _ item
            (getElem?_flatMap itemSlots written inner)
      rw [valueAt, present, stored, elements]
      rfl
    | null | bool | int | real | text | object => exact valueAt_of_isNull flag
  | .map attributes key entry extra, _, _, fits, plan, holds, i, value, written => by
    obtain ⟨_, base, _, origin, nulls, index, keys, values, rfl, rfl, marked, spanned, keyed, held⟩ :=
      holds.exists_map
    have flag := marked.isNull_eq written
    cases value with
    | object members =>
      rw [Fits] at fits
      have present : nulls.isNull (plan.start + i) = false := flag
      have entries : (index.span (plan.start + i)).positions.map
            (fun slot => (keys.key slot, valueAt values slot)) =
          members.map fun member => (member.1, stored policy entry member.2) := by
        rw [spanned i (.object members) written rfl]
        apply map_positions_eq
        · simp [entrySlots]
        · intro j other found
          rw [List.getElem?_map, Option.map_eq_some_iff] at found
          obtain ⟨member, member_at, rfl⟩ := found
          have inner : (entrySlots (some (.object members)))[j]? = some (some member.2) := by
            simp [entrySlots, member_at]
          have innerKey : (entryKeys (some (.object members)))[j]? = some member.1 := by
            simp [entryKeys, member_at]
          have value_eq := Holds.valueAt_eq entry origin values fits.2.2.2.2 _ held _ member.2
            (getElem?_flatMap entrySlots written inner)
          have key_eq := keyed.key_eq (getElem?_flatMap entryKeys written innerKey)
          rw [length_entryKeys] at key_eq
          rw [Nat.add_assoc, key_eq]
          exact congrArg (member.1, ·) value_eq
      rw [valueAt, present, stored]
      exact congrArg Json.objectOf entries
    | null | bool | int | real | text | array => exact valueAt_of_isNull flag
termination_by structural type => type

/-- The fields of a written struct read as its members. -/
theorem HoldsFields.fieldValues_eq : (types : List (String × DataType)) →
    (origins : List (String × Column)) → (size : Nat) → (columns : List (String × Column)) →
      FitsFields growable size types columns → (plan : Plan) →
        HoldsFields policy types origins plan columns →
          ∀ i members, plan.done[i]? = some (some (.object members)) →
            fieldValues columns (plan.start + i) = storedFields policy types members
  | [], _, _, [], _, _, _, _, _, _ => rfl
  | [], _, _, _ :: _, fits, _, _, _, _, _ => fits.elim
  | (name, type) :: types, _, size, _, fits, plan, holds, i, members, written => by
    obtain ⟨_, origin, origins, columnName, column, columns, rfl, rfl, first, rest⟩ :=
      holds.exists_cons
    obtain ⟨rfl, -, columnFits, restFit⟩ := fits
    have member : (plan.field columnName).done[i]? =
        some (some ((Json.Members.get? members columnName).getD .null)) := by
      simp only [Plan.field, List.getElem?_map, written, Option.map_some, memberSlot]
    rw [fieldValues, storedFields_cons,
      HoldsFields.fieldValues_eq types origins size columns restFit plan rest i members written]
    rw [← Holds.valueAt_eq type origin column columnFits (plan.field columnName) first i _ member]
    rfl
termination_by structural types => types

end

end

end Columnar.Column
