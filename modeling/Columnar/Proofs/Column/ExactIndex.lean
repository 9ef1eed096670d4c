import Mathlib.Algebra.GroupWithZero.Nat
import Columnar.Proofs.Column.ChildSlots
import Columnar.Proofs.Column.Kinds
/-!
# Exact child indexes

The child index of a list or map column is exact for some rows when their spans follow each other
without a gap, are as long as what was written there, and together are all the child slots taken. A
column tree is exact when the index of each list and map in it is, for the rows that are live there:
those that are not null among the live rows of a struct, and all child slots taken of a list or map
(`ExactIndex`). A column that holds a plan from its first row on, and has taken child slots for it
alone, is exact (`exactIndex_of_holds`).
-/

set_option autoImplicit false

namespace Columnar

/-- Values with their positions, from a first position on. -/
def numbered {α : Type} (first : Nat) (values : List α) : List (Nat × α) :=
  (values.zipIdx first).map Prod.swap

/-- What stands in the rows of a list that are not null. -/
def NullMask.present {α : Type} (mask : NullMask) (live : List (Nat × α)) : List (Nat × α) :=
  live.filter fun entry => !mask.isNull entry.1

/-- The spans of rows are as long as is said, each begins where the earlier ones end, and together they
are the child slots that are taken. -/
structure ChildIndex.Exact (index : ChildIndex) (rows : List (Nat × Nat)) : Prop where
  span_eq : ∀ i row length, rows[i]? = some (row, length) →
    index.span row = ⟨((rows.take i).map Prod.snd).sum, length⟩
  childCount_eq : index.childCount = (rows.map Prod.snd).sum

namespace Column

mutual

/-- The child index of every list and map in a column tree is exact, for live rows with the values
that were written there. -/
def ExactIndex : Column → List (Nat × Json) → Prop
  | struct nulls fields, live => ∃ objects : List (Nat × Json.Members),
    nulls.present live = objects.map (fun object => (object.1, .object object.2)) ∧
      ExactFields fields objects
  | list nulls index child, live => ∃ arrays : List (Nat × List Json),
    nulls.present live = arrays.map (fun array => (array.1, .array array.2)) ∧
      index.Exact (arrays.map fun array => (array.1, array.2.length)) ∧
      ExactIndex child (numbered 0 (arrays.flatMap Prod.snd))
  | map nulls index _ values, live => ∃ objects : List (Nat × Json.Members),
    nulls.present live = objects.map (fun object => (object.1, .object object.2)) ∧
      index.Exact (objects.map fun object => (object.1, object.2.length)) ∧
      ExactIndex values (numbered 0 (objects.flatMap fun object => object.2.map Prod.snd))
  | _, _ => True
termination_by structural column => column

/-- The child indexes in the columns of fields are exact, for live rows with the objects that were
written there. -/
def ExactFields : List (String × Column) → List (Nat × Json.Members) → Prop
  | [], _ => True
  | (name, column) :: rest, objects =>
    ExactIndex column
        (objects.map fun object => (object.1, (object.2.get? name).getD .null)) ∧
      ExactFields rest objects
termination_by structural columns => columns

end

/-! ### Live rows of a plan -/

/-- What a value has inside, if it is of the right kind, with its position in a plan. -/
def opened {α : Type} (inside : Json → Option α) (start : Nat) (done : List (Option Json)) :
    List (Nat × α) :=
  (numbered start done).filterMap fun slot => (slot.2.bind inside).map (slot.1, ·)

/-- The written values of a plan with their positions. -/
def writtenRows (start : Nat) (done : List (Option Json)) : List (Nat × Json) :=
  opened some start done

/-- A struct is null for whatever has no members. -/
theorem leavesNull_struct (policy : CellPolicy) (attributes : Attributes)
    (types : List (String × DataType)) (value : Json) :
    leavesNull policy (.struct attributes types) value = (members? value).isNone := by
  cases value <;> rfl

/-- A list is null for whatever has no items. -/
theorem leavesNull_list (policy : CellPolicy) (attributes : Attributes) (element : DataType)
    (extra : List (String × DataType)) (value : Json) :
    leavesNull policy (.list attributes element extra) value = (items? value).isNone := by
  cases value <;> rfl

/-- A map is null for whatever has no members. -/
theorem leavesNull_map (policy : CellPolicy) (attributes : Attributes) (key entry : DataType)
    (extra : List (String × DataType)) (value : Json) :
    leavesNull policy (.map attributes key entry extra) value = (members? value).isNone := by
  cases value <;> rfl

section

variable {α : Type} {inside : Json → Option α}

/-- The first value has the first number, and the others go on from the next. -/
theorem numbered_cons {β : Type} (first : Nat) (value : β) (rest : List β) :
    numbered first (value :: rest) = (first, value) :: numbered (first + 1) rest := by
  simp [numbered, List.zipIdx_cons]

/-- The first value of a plan is open if it has the right kind, and the others go on from the next
row. -/
theorem opened_cons (start : Nat) (slot : Option Json) (done : List (Option Json)) :
    opened inside start (slot :: done) =
      ((slot.bind inside).map (start, ·)).toList ++ opened inside (start + 1) done := by
  rw [opened, numbered_cons, List.filterMap_cons, opened]
  cases slot.bind inside <;> rfl

/-- A row that is open is a value of the plan, and the ones before it come from the values before. -/
theorem getElem?_opened : ∀ (done : List (Option Json)) (start k : Nat) {row : Nat} {a : α},
    (opened inside start done)[k]? = some (row, a) →
      ∃ i value, row = start + i ∧ done[i]? = some (some value) ∧ inside value = some a ∧
        (opened inside start done).take k = opened inside start (done.take i) := by
  intro done
  induction done with
  | nil =>
    intro start k row a found
    simp [opened, numbered] at found
  | cons slot done ih =>
    intro start k row a found
    rw [opened_cons] at found
    cases opens : slot.bind inside with
    | none =>
      rw [opens] at found
      obtain ⟨i, value, rfl, here, same, earlier⟩ := ih (start + 1) k found
      refine ⟨i + 1, value, by omega, here, same, ?_⟩
      rw [opened_cons, List.take_succ_cons, opened_cons, opens]
      exact earlier
    | some b =>
      obtain ⟨value, rfl, same⟩ := Option.bind_eq_some_iff.mp opens
      rw [opens] at found
      cases k with
      | zero =>
        cases found
        exact ⟨0, value, rfl, rfl, same, rfl⟩
      | succ k =>
        obtain ⟨i, value', rfl, here, same', earlier⟩ := ih (start + 1) k found
        refine ⟨i + 1, value', by omega, here, same', ?_⟩
        rw [opened_cons, List.take_succ_cons, opened_cons, opens]
        exact congrArg ((start, b) :: ·) earlier

/-- The children of the slots of a plan are those of its open rows. -/
theorem flatMap_opened {below : Option Json → List (Option Json)} {children : α → List Json}
    (same : ∀ slot, below slot = (((slot.bind inside).map children).getD []).map some) :
    ∀ (done : List (Option Json)) (start : Nat),
      done.flatMap below =
        ((opened inside start done).flatMap fun entry => children entry.2).map some := by
  intro done
  induction done with
  | nil => exact fun _ => rfl
  | cons slot done ih =>
    intro start
    rw [List.flatMap_cons, ih (start + 1), same slot, opened_cons, List.flatMap_append,
      List.map_append]
    cases slot.bind inside <;> simp

/-- If every value was written then every row is one of those written. -/
theorem writtenRows_some (start : Nat) (values : List Json) :
    writtenRows start (values.map some) = numbered start values := by
  induction values generalizing start with
  | nil => rfl
  | cons value rest ih =>
    rw [writtenRows, List.map_cons, opened_cons, numbered_cons, ← ih]
    rfl

/-- The rows of a field are the open rows of its struct. -/
theorem writtenRows_field (name : String) (start : Nat) (done : List (Option Json)) :
    writtenRows start (done.map (memberSlot name)) =
      (opened members? start done).map fun object =>
        (object.1, (object.2.get? name).getD .null) := by
  induction done generalizing start with
  | nil => rfl
  | cons slot done ih =>
    rw [writtenRows, List.map_cons, opened_cons, opened_cons, List.map_append, ← ih]
    cases slot with
    | none => rfl
    | some value => cases value <;> rfl

/-- The rows of a plan that are not null are the open ones. -/
theorem present_writtenRows {policy : CellPolicy} {type : DataType} {column : Column} {plan : Plan}
    (marked : Marked (leavesNull policy type) plan column) {wrap : α → Json}
    (null : ∀ value, leavesNull policy type value = (inside value).isNone)
    (opens : ∀ {value a}, inside value = some a → value = wrap a) :
    column.nulls.present (writtenRows plan.start plan.done) =
      (opened inside plan.start plan.done).map fun entry => (entry.1, wrap entry.2) := by
  have every : ∀ (done : List (Option Json)) (start : Nat),
      (∀ i value, done[i]? = some (some value) →
        column.isNull (start + i) = leavesNull policy type value) →
      column.nulls.present (writtenRows start done) =
        (opened inside start done).map fun entry => (entry.1, wrap entry.2) := by
    intro done
    induction done with
    | nil => exact fun _ _ => rfl
    | cons slot done ih =>
      intro start flags
      have rest := ih (start + 1) fun i value found => by
        rw [Nat.add_assoc, Nat.add_comm 1 i]
        exact flags (i + 1) value found
      rw [NullMask.present] at rest
      rw [NullMask.present, writtenRows, opened_cons, opened_cons, List.filter_append, ← writtenRows,
        rest, List.map_append]
      cases slot with
      | none => rfl
      | some value =>
        have flag : column.nulls.isNull start = (inside value).isNone :=
          (flags 0 value rfl).trans (null value)
        cases kind : inside value with
        | none => simp [flag, kind]
        | some a =>
          have same := opens kind
          subst same
          simp [flag, kind]
  exact every plan.done plan.start fun i value found => marked.isNull_eq found

/-- A child index with spans as planned from the first child slot on is exact. -/
theorem exact_of_spanned {shut : Json → Bool} {below : Option Json → List (Option Json)}
    {children : α → List Json} {plan : Plan} {index : ChildIndex}
    (same : ∀ slot, below slot = (((slot.bind inside).map children).getD []).map some)
    (null : ∀ value, shut value = (inside value).isNone)
    (spanned : Spanned shut below 0 plan index)
    (total : index.childCount = 0 + (plan.done.flatMap below).length) :
    index.Exact ((opened inside plan.start plan.done).map fun entry =>
      (entry.1, (children entry.2).length)) := by
  have lengths : ∀ done start, (done.flatMap below).length =
      (((opened inside start done).map fun entry =>
        (entry.1, (children entry.2).length)).map Prod.snd).sum := by
    intro done start
    rw [flatMap_opened same done start, List.length_map, List.length_flatMap, List.map_map]
    rfl
  refine ⟨fun i row length found => ?_, ?_⟩
  · rw [List.getElem?_map] at found
    obtain ⟨⟨row', a⟩, entry, same'⟩ := Option.map_eq_some_iff.mp found
    cases same'
    obtain ⟨j, value, rfl, here, isOpen, earlier⟩ := getElem?_opened plan.done plan.start i entry
    have present : shut value = false := by
      rw [null, isOpen]
      rfl
    rw [spanned j value here present, ← List.map_take, earlier, Nat.zero_add,
      lengths (plan.done.take j) plan.start, same]
    simp [isOpen]
  · rw [total, Nat.zero_add]
    exact lengths plan.done plan.start

end

/-! ### Columns that hold a plan from their first child slots on -/

/-- No list or map in a column has taken child slots. -/
def Vacant (column : Column) : Prop :=
  ∀ count ∈ childCounts column, count = 0

/-- No list or map in the columns of fields has taken child slots. -/
def VacantFields (columns : List (String × Column)) : Prop :=
  ∀ count ∈ childCountsFields columns, count = 0

/-- If no child slot of the fields is taken then none is of the first, and none of the others. -/
theorem VacantFields.cons {name : String} {column : Column} {rest : List (String × Column)}
    (vacant : VacantFields ((name, column) :: rest)) : Vacant column ∧ VacantFields rest :=
  ⟨fun count among => vacant count (List.mem_append_left _ among),
    fun count among => vacant count (List.mem_append_right _ among)⟩

/-- If no child slot of a field is taken, and none of the others, then none is of all of them. -/
theorem vacantFields_cons {name : String} {column : Column} {rest : List (String × Column)}
    (first : Vacant column) (others : VacantFields rest) : VacantFields ((name, column) :: rest) :=
  fun count among => (List.mem_append.mp among).elim (first count) (others count)

/-- A count of zero before counts of zero. -/
theorem vacant_cons {count : Nat} {child : Column} (zero : count = 0) (vacant : Vacant child) :
    ∀ other ∈ count :: childCounts child, other = 0 := by
  intro other among
  obtain rfl | among := List.mem_cons.mp among
  · exact zero
  · exact vacant other among

mutual

/-- A new column has taken no child slots, at any depth. -/
theorem vacant_allocate (size : Nat) : (type : DataType) → Vacant (allocate size type)
  | .leaf kind attributes _ => by
    rw [allocate, Vacant, childCounts_of_fitsPrimitive (fitsPrimitive_ofPrimitive kind attributes size)]
    simp
  | .struct _ types => vacantFields_allocate size types
  | .list _ element _ => vacant_cons rfl (vacant_allocate size element)
  | .map _ _ entry _ => vacant_cons rfl (vacant_allocate size entry)
termination_by structural type => type

/-- New columns of fields have taken no child slots. -/
theorem vacantFields_allocate (size : Nat) :
    (types : List (String × DataType)) → VacantFields (allocateFields size types)
  | [] => by simp [VacantFields, allocateFields, childCountsFields]
  | (_, type) :: types => vacantFields_cons (vacant_allocate size type)
    (vacantFields_allocate size types)
termination_by structural types => types

end

mutual

/-- A reset frees all child slots, at every depth. -/
theorem vacant_reset : (column : Column) → Vacant (reset column)
  | struct _ fields => vacantFields_reset fields
  | list _ _ child => vacant_cons rfl (vacant_reset child)
  | map _ _ _ values => vacant_cons rfl (vacant_reset values)
  | long _ _ | double _ | bytes _ | decimal _ _ _ | timestamp _ => by
    simp [Vacant, reset, childCounts]
termination_by structural column => column

/-- A reset frees all child slots of every field. -/
theorem vacantFields_reset : (columns : List (String × Column)) → VacantFields (resetFields columns)
  | [] => by simp [VacantFields, resetFields, childCountsFields]
  | (_, column) :: columns => vacantFields_cons (vacant_reset column) (vacantFields_reset columns)
termination_by structural columns => columns

end

section

variable {growable : Bool} {policy : CellPolicy}

/-- The slots of a list are the items of its value, all of them present; there are none if the value
is no list. -/
theorem itemSlots_eq (slot : Option Json) :
    itemSlots slot = (((slot.bind items?).map id).getD []).map some := by
  cases slot with
  | none => rfl
  | some value => cases value <;> rfl

/-- The slots of a map are the values of its members, all of them present; there are none if the
value has no members. -/
theorem entrySlots_eq (slot : Option Json) :
    entrySlots slot =
      (((slot.bind members?).map fun members => members.map Prod.snd).getD []).map some := by
  cases slot with
  | none => rfl
  | some value => cases value <;> simp [entrySlots, members?]

mutual

/-- A column that holds a plan has exact child indexes if the plan begins with the first child slots
and only what is written has taken any. -/
theorem exactIndex_of_holds : (type : DataType) → (origin column : Column) → (plan : Plan) →
    Fits growable type column → Holds policy type origin plan column →
      Taken type origin plan.done column → Vacant origin →
        ExactIndex column (writtenRows plan.start plan.done)
  | .leaf _ _ _, _, column, _, fits, _, _, _ => by
    cases column with
    | long | double | bytes | decimal | timestamp => trivial
    | struct | list | map => exact fits.elim
  | .struct attributes types, _, _, plan, fits, holds, taken, vacant => by
    obtain ⟨_, origins, nulls, fields, rfl, rfl, marked, held⟩ := holds.exists_struct
    rw [Fits] at fits
    exact ⟨opened members? plan.start plan.done,
      present_writtenRows marked (leavesNull_struct policy attributes types) eq_object_of_members?,
      exactFields_of_holds types origins nulls.size fields plan fits.2 held taken vacant⟩
  | .list attributes element extra, _, _, plan, fits, holds, taken, vacant => by
    obtain ⟨_, base, origin, nulls, index, child, rfl, rfl, marked, spanned, held⟩ :=
      holds.exists_list
    obtain ⟨counts, childTaken⟩ := taken
    rw [Fits] at fits
    -- The child slots of the plan are those behind what its origin had taken, which is nothing.
    have zero : base.childCount = 0 := vacant base.childCount List.mem_cons_self
    rw [zero] at spanned held counts
    have null := leavesNull_list policy attributes element extra
    refine ⟨opened items? plan.start plan.done, present_writtenRows marked null eq_array_of_items?,
      exact_of_spanned itemSlots_eq null spanned counts, ?_⟩
    · have below := exactIndex_of_holds element origin child _ fits.2.2.2 held childTaken
        fun count among => vacant count (List.mem_cons_of_mem _ among)
      rw [Plan.children] at below
      dsimp only at below
      rw [flatMap_opened itemSlots_eq plan.done plan.start, writtenRows_some] at below
      exact below
  | .map attributes key entry extra, _, _, plan, fits, holds, taken, vacant => by
    obtain ⟨_, base, _, origin, nulls, index, keys, values, rfl, rfl, marked, spanned, -, held⟩ :=
      holds.exists_map
    obtain ⟨counts, valuesTaken⟩ := taken
    rw [Fits] at fits
    have zero : base.childCount = 0 := vacant base.childCount List.mem_cons_self
    rw [zero] at spanned held counts
    have null := leavesNull_map policy attributes key entry extra
    have lengths := exact_of_spanned entrySlots_eq null spanned counts
    refine ⟨opened members? plan.start plan.done,
      present_writtenRows marked null eq_object_of_members?, by simpa using lengths, ?_⟩
    · have below := exactIndex_of_holds entry origin values _ fits.2.2.2.2 held valuesTaken
        fun count among => vacant count (List.mem_cons_of_mem _ among)
      rw [Plan.children] at below
      dsimp only at below
      rw [flatMap_opened entrySlots_eq plan.done plan.start, writtenRows_some] at below
      exact below
termination_by structural type => type

/-- Fields that hold a plan from their first child slots on, and took slots for it alone, are exact
for the objects of the plan. -/
theorem exactFields_of_holds : (types : List (String × DataType)) →
    (origins : List (String × Column)) → (size : Nat) → (columns : List (String × Column)) →
      (plan : Plan) → FitsFields growable size types columns →
        HoldsFields policy types origins plan columns →
          TakenFields types origins plan.done columns → VacantFields origins →
            ExactFields columns (opened members? plan.start plan.done)
  | [], _, _, [], _, _, _, _, _ => by trivial
  | [], _, _, _ :: _, _, fits, _, _, _ => fits.elim
  | (name, type) :: types, _, size, _, plan, fits, holds, taken, vacant => by
    obtain ⟨_, origin, origins, _, column, columns, rfl, rfl, first, rest⟩ := holds.exists_cons
    obtain ⟨rfl, -, columnFits, restFit⟩ := fits
    obtain ⟨firstTaken, restTaken⟩ := taken
    obtain ⟨vacant, vacantRest⟩ := vacant.cons
    have here := exactIndex_of_holds type origin column _ columnFits first firstTaken vacant
    rw [Plan.field] at here
    dsimp only at here
    rw [writtenRows_field] at here
    exact ⟨here, exactFields_of_holds types origins size columns plan restFit rest restTaken
      vacantRest⟩
termination_by structural types => types

end

end

end Column

end Columnar
