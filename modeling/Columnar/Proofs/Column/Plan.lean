import Columnar.Proofs.Column.Stored
/-!
# Plans for the slots of a column

A plan says which value stands, or is to stand, in which slot of a column: a stretch of slots, of
which the first are written and the others still due. The slots of a struct column and the values in
them plan the columns of its fields. For lists and maps they plan the child column too: the children
of one slot stand behind those of the slots before it.
-/

set_option autoImplicit false

namespace Columnar

/-! ### The slots below a slot -/

/-- The value that a slot of a struct column has for a field: null if it is absent, and none at all if
the slot holds no object. -/
def memberSlot (name : String) : Option Json → Option Json
  | some (.object members) => some ((Json.Members.get? members name).getD .null)
  | _ => none

/-- The child slots of a slot of a list column. -/
def itemSlots : Option Json → List (Option Json)
  | some (.array items) => items.map some
  | _ => []

/-- The child slots of a slot of a map column. -/
def entrySlots : Option Json → List (Option Json)
  | some (.object members) => members.map fun member => some member.2
  | _ => []

/-- The keys of a slot of a map column. -/
def entryKeys : Option Json → List String
  | some (.object members) => members.map Prod.fst
  | _ => []

/-- There is one key for each entry, over any number of slots. -/
theorem length_entryKeys (slots : List (Option Json)) :
    (slots.flatMap entryKeys).length = (slots.flatMap entrySlots).length := by
  have same : ∀ slot, (entryKeys slot).length = (entrySlots slot).length := by
    intro slot
    unfold entryKeys entrySlots
    split <;> simp
  simp only [List.length_flatMap, same]

/-- The children of a slot stand behind those of the slots before it. -/
theorem getElem?_flatMap {α β : Type} (below : α → List β) {slots : List α} {i : Nat} {slot : α}
    (found : slots[i]? = some slot) {j : Nat} {child : β} (inner : (below slot)[j]? = some child) :
    (slots.flatMap below)[((slots.take i).flatMap below).length + j]? = some child := by
  obtain ⟨bound, rfl⟩ := List.getElem?_eq_some_iff.mp found
  obtain ⟨inside, -⟩ := List.getElem?_eq_some_iff.mp inner
  have parts : slots = slots.take i ++ slots[i] :: slots.drop (i + 1) := by
    rw [← List.drop_eq_getElem_cons bound, List.take_append_drop]
  have below_parts : slots.flatMap below =
      (slots.take i).flatMap below ++ (below slots[i] ++ (slots.drop (i + 1)).flatMap below) := by
    conv => lhs; rw [parts]
    rw [List.flatMap_append, List.flatMap_cons]
  rw [below_parts, List.getElem?_append_right (Nat.le_add_right _ _), Nat.add_sub_cancel_left,
    List.getElem?_append_left inside, inner]

/-- What a first part of a list has, the list has at the same place. -/
theorem getElem?_of_initial {α : Type} {some_of all : List α} (part : some_of <+: all) {i : Nat}
    {a : α} (found : some_of[i]? = some a) : all[i]? = some a := by
  obtain ⟨rest, rfl⟩ := part
  obtain ⟨bound, -⟩ := List.getElem?_eq_some_iff.mp found
  rw [List.getElem?_append_left bound, found]

/-- What is found in a list with one more element is found in the list, or is that element. -/
theorem getElem?_concat {α : Type} {earlier : List α} {last a : α} {i : Nat}
    (found : (earlier ++ [last])[i]? = some a) :
    (i < earlier.length ∧ earlier[i]? = some a) ∨ (i = earlier.length ∧ last = a) := by
  by_cases before : i < earlier.length
  · rw [List.getElem?_append_left before] at found
    exact .inl ⟨before, found⟩
  · obtain ⟨bound, here⟩ := List.getElem?_eq_some_iff.mp found
    have same : i = earlier.length := by
      simp only [List.length_append, List.length_singleton] at bound
      omega
    subst same
    rw [List.getElem_append_right (Nat.le_refl _)] at here
    exact .inr ⟨rfl, by simpa using here⟩

/-! ### Plans -/

/-- A stretch of slots from a first one on: values that are written, and values still due. -/
structure Plan where
  start : Nat
  done : List (Option Json)
  due : List (Option Json)

namespace Plan

/-- What a plan for a struct column plans for the column of a field. -/
def field (plan : Plan) (name : String) : Plan :=
  ⟨plan.start, plan.done.map (memberSlot name), plan.due.map (memberSlot name)⟩

/-- What a plan for a list or map column plans for its child column. -/
def children (plan : Plan) (start : Nat) (below : Option Json → List (Option Json)) : Plan :=
  ⟨start, plan.done.flatMap below, plan.due.flatMap below⟩

/-- A slot without children plans the same children whether it counts as written or as due. -/
theorem children_of_eq_nil {below : Option Json → List (Option Json)} {slot : Option Json}
    (childless : below slot = []) (start base : Nat) (done due : List (Option Json)) :
    children ⟨start, done ++ [slot], due⟩ base below =
      children ⟨start, done, slot :: due⟩ base below := by
  simp [children, childless]

/-- A plan asks at least what another asks: no less is written, and nothing else is allowed. -/
structure Covers (plan weaker : Plan) : Prop where
  start : weaker.start = plan.start
  done : weaker.done <+: plan.done
  all : plan.done ++ plan.due <+: weaker.done ++ weaker.due

namespace Covers

variable {plan weaker : Plan}

/-- What a plan covers it covers for the members of every name. -/
theorem field (covers : plan.Covers weaker) (name : String) :
    (plan.field name).Covers (weaker.field name) := by
  refine ⟨covers.start, covers.done.map _, ?_⟩
  simp only [Plan.field, ← List.map_append]
  exact covers.all.map _

/-- What a plan covers it covers for the children of its slots. -/
theorem children (covers : plan.Covers weaker) (start : Nat)
    (below : Option Json → List (Option Json)) :
    (plan.children start below).Covers (weaker.children start below) := by
  obtain ⟨moreDone, done⟩ := covers.done
  obtain ⟨moreDue, all⟩ := covers.all
  refine ⟨rfl, ⟨moreDone.flatMap below, ?_⟩, ⟨moreDue.flatMap below, ?_⟩⟩
  · simp only [Plan.children, ← done, List.flatMap_append]
  · simp only [Plan.children, ← List.flatMap_append, all]

/-- A plan covers the one that takes its last values for due again. -/
theorem undo (start : Nat) (done more due : List (Option Json)) :
    Covers ⟨start, done ++ more, due⟩ ⟨start, done, more ++ due⟩ :=
  ⟨rfl, List.prefix_append _ _, by simp only [List.append_assoc, List.prefix_rfl]⟩

/-- A plan covers the one in which more values are due behind its own. -/
theorem extend (start : Nat) (done due more : List (Option Json)) :
    Covers ⟨start, done, due⟩ ⟨start, done, due ++ more⟩ :=
  ⟨rfl, List.prefix_rfl, by rw [← List.append_assoc]; exact List.prefix_append _ _⟩

end Covers

end Plan

/-! ### Flags, spans and keys by plan -/

/-- The flags of a column are as planned: what is written and leaves its cell null is flagged, and
nothing is flagged but such values, written or due. -/
structure Marked (null : Json → Bool) (plan : Plan) (column : Column) : Prop where
  inside : plan.start + plan.done.length ≤ column.slots
  flagged : ∀ i value, plan.done[i]? = some (some value) → null value = true →
    column.isNull (plan.start + i) = true
  only : ∀ i, column.isNull (plan.start + i) = true →
    ∃ value, (plan.done ++ plan.due)[i]? = some (some value) ∧ null value = true

namespace Marked

variable {null : Json → Bool} {plan : Plan} {column : Column}

/-- A written value is flagged exactly if it leaves its cell null. -/
theorem isNull_eq (marked : Marked null plan column) {i : Nat} {value : Json}
    (written : plan.done[i]? = some (some value)) :
    column.isNull (plan.start + i) = null value := by
  cases leaves : null value with
  | true => exact marked.flagged i value written leaves
  | false =>
    cases flag : column.isNull (plan.start + i) with
    | false => rfl
    | true =>
      obtain ⟨other, found, leavesOther⟩ := marked.only i flag
      rw [getElem?_of_initial (List.prefix_append _ _) written] at found
      cases found
      rw [leaves] at leavesOther
      cases leavesOther

/-- The flags that fit a plan fit every plan that it covers. -/
theorem weaken (marked : Marked null plan column) {weaker : Plan} (covers : plan.Covers weaker) :
    Marked null weaker column := by
  obtain ⟨start, done, due⟩ := weaker
  obtain ⟨rfl, doneLess, all⟩ := covers
  refine ⟨?_, ?_, ?_⟩
  · have shorter := doneLess.length_le
    have inside := marked.inside
    dsimp only at shorter ⊢
    omega
  · intro i value written
    exact marked.flagged i value (getElem?_of_initial doneLess written)
  · intro i flag
    obtain ⟨value, found, leaves⟩ := marked.only i flag
    exact ⟨value, getElem?_of_initial all found, leaves⟩

/-- The flags of a plan are all that counts, and that there are slots enough. -/
theorem congr (marked : Marked null plan column) {other : Column}
    (flags : ∀ row, other.isNull row = column.isNull row) (slots : column.slots ≤ other.slots) :
    Marked null plan other := by
  refine ⟨Nat.le_trans marked.inside slots, ?_, ?_⟩
  · intro i value written leaves
    rw [flags]
    exact marked.flagged i value written leaves
  · intro i flag
    rw [flags] at flag
    exact marked.only i flag

/-- New rows are not flagged, so the flags still fit the plan. -/
theorem grow (marked : Marked null plan column) (size : Nat) :
    Marked null plan (Column.grow size column) := by
  refine marked.congr (Column.isNull_grow size column) ?_
  rw [Column.slots_grow]
  exact Nat.le_max_left _ _

variable {start : Nat} {slot : Option Json} {done due : List (Option Json)}

/-- The next slot counts as written once it is flagged if its value leaves it null. -/
theorem advance (marked : Marked null ⟨start, done, slot :: due⟩ column)
    (room : start + done.length < column.slots)
    (flag : ∀ value, slot = some value → null value = true →
      column.isNull (start + done.length) = true) :
    Marked null ⟨start, done ++ [slot], due⟩ column := by
  refine ⟨?_, ?_, ?_⟩
  · simp only [List.length_append, List.length_singleton]
    omega
  · intro i value written leaves
    obtain ⟨-, written⟩ | ⟨rfl, rfl⟩ := getElem?_concat written
    · exact marked.flagged i value written leaves
    · exact flag value rfl leaves
  · intro i isFlagged
    obtain ⟨value, found, leaves⟩ := marked.only i isFlagged
    exact ⟨value, by simpa using found, leaves⟩

/-- Flagging the next slot is as planned if its value leaves it null. -/
theorem setNull {value : Json} (marked : Marked null ⟨start, done, some value :: due⟩ column)
    (consistent : column.nulls.Consistent) (flags : column.nulls.size = column.slots)
    (room : start + done.length < column.slots) (leaves : null value = true) :
    Marked null ⟨start, done ++ [some value], due⟩ (column.setNull (start + done.length)) := by
  have here : (column.setNull (start + done.length)).isNull (start + done.length) = true := by
    rw [Column.isNull, Column.nulls_setNull]
    exact NullMask.isNull_setNull_self _ (by omega)
  have before : Marked null ⟨start, done, some value :: due⟩
      (column.setNull (start + done.length)) := by
    refine ⟨by simpa using marked.inside, ?_, ?_⟩
    · intro i other written leavesOther
      have earlier := (List.getElem?_eq_some_iff.mp written).1
      dsimp only at earlier ⊢
      rw [Column.isNull_setNull_of_ne consistent (by omega)]
      exact marked.flagged i other written leavesOther
    · intro i flag
      by_cases same : i = done.length
      · subst same
        exact ⟨value, by simp, leaves⟩
      · dsimp only at flag
        rw [Column.isNull_setNull_of_ne consistent (by omega)] at flag
        exact marked.only i flag
  exact before.advance (by simpa using room) fun _ _ _ => here

end Marked

/-- The slots of a list or map column whose values are written have the spans of their children. -/
def Spanned (null : Json → Bool) (below : Option Json → List (Option Json)) (base : Nat)
    (plan : Plan) (index : ChildIndex) : Prop :=
  ∀ i value, plan.done[i]? = some (some value) → null value = false →
    index.span (plan.start + i) =
      ⟨base + ((plan.done.take i).flatMap below).length, (below (some value)).length⟩

namespace Spanned

variable {null : Json → Bool} {below : Option Json → List (Option Json)} {base : Nat}

/-- The spans that fit a plan fit every plan that it covers, since that takes no more values for
written. -/
theorem weaken {plan weaker : Plan} {index : ChildIndex}
    (spanned : Spanned null below base plan index) (covers : plan.Covers weaker) :
    Spanned null below base weaker index := by
  obtain ⟨start, done, due⟩ := weaker
  obtain ⟨rfl, ⟨more, same⟩, -⟩ := covers
  dsimp only at same
  intro i value written present
  obtain ⟨bound, -⟩ := List.getElem?_eq_some_iff.mp written
  dsimp only at bound written ⊢
  have kept := spanned i value (by rw [← same, List.getElem?_append_left bound, written]) present
  rw [← same, List.take_append_of_le_length (by omega)] at kept
  exact kept

/-- The spans of an index are all that counts, not how many child slots are taken. -/
theorem congr {plan : Plan} {index other : ChildIndex} (spanned : Spanned null below base plan index)
    (same : other.spans = index.spans) : Spanned null below base plan other := by
  intro i value written present
  rw [ChildIndex.span, same]
  exact spanned i value written present

/-- Spans of old rows stay where they are, so they still fit the plan. -/
theorem grow {plan : Plan} {index : ChildIndex} (spanned : Spanned null below base plan index)
    (size : Nat) : Spanned null below base plan (index.grow size) := by
  intro i value written present
  rw [ChildIndex.span_grow]
  exact spanned i value written present

variable {start : Nat} {done due due' : List (Option Json)} {index : ChildIndex}

/-- The next slot counts as written without a span if it has no value or is null. -/
theorem skip (spanned : Spanned null below base ⟨start, done, due⟩ index) {slot : Option Json}
    (nothing : ∀ value, slot = some value → null value = true) :
    Spanned null below base ⟨start, done ++ [slot], due'⟩ index := by
  intro i value written present
  obtain ⟨before, written⟩ | ⟨rfl, rfl⟩ := getElem?_concat written
  · dsimp only
    rw [List.take_append_of_le_length (by omega)]
    exact spanned i value written present
  · rw [nothing value rfl] at present
    cases present

/-- The next slot takes child slots behind those of all slots before it. -/
theorem take (spanned : Spanned null below base ⟨start, done, due⟩ index)
    (room : start + done.length < index.spans.size) {value : Json} {taken : ChildIndex}
    (spans : taken.spans = index.spans.setIfInBounds (start + done.length)
      ⟨base + (done.flatMap below).length, (below (some value)).length⟩) :
    Spanned null below base ⟨start, done ++ [some value], due'⟩ taken := by
  intro i other written present
  dsimp only
  obtain ⟨before, written⟩ | ⟨rfl, value_eq⟩ := getElem?_concat written
  · rw [List.take_append_of_le_length (by omega), ← spanned i other written present]
    simp only [ChildIndex.span, spans, Array.getD_eq_getD_getElem?]
    rw [Array.getElem?_setIfInBounds_ne (by omega)]
  · cases value_eq
    rw [List.take_left]
    simp only [ChildIndex.span, spans, Array.getD_eq_getD_getElem?,
      Array.getElem?_setIfInBounds_self_of_lt room, Option.getD_some]

end Spanned

/-- The key slots from a first one on hold these keys. -/
structure Keyed (base : Nat) (names : List String) (keys : ByteCells) : Prop where
  inside : base + names.length ≤ keys.spans.size
  held : ∀ i name, names[i]? = some name →
    keys.get? (base + i) = some name.toUTF8 ∧ keys.Settled (base + i)

namespace Keyed

variable {base : Nat} {names : List String} {keys : ByteCells}

/-- A key that is held is read as the name that it stands for. -/
theorem key_eq (keyed : Keyed base names keys) {i : Nat} {name : String}
    (found : names[i]? = some name) : keys.key (base + i) = name := by
  rw [ByteCells.key, (keyed.held i name found).1]
  exact Text.Utf8.decode_toUTF8 name

/-- The keys that hold names hold any first part of them. -/
theorem weaken (keyed : Keyed base names keys) {fewer : List String} (part : fewer <+: names) :
    Keyed base fewer keys := by
  have shorter := part.length_le
  have inside := keyed.inside
  exact ⟨by omega, fun i name found => keyed.held i name (getElem?_of_initial part found)⟩

/-- More slots for keys leave those that are there. -/
theorem grow (keyed : Keyed base names keys) (size : Nat) : Keyed base names (keys.grow size) := by
  have inside := keyed.inside
  refine ⟨?_, ?_⟩
  · simp only [ByteCells.grow, size_growTo]
    omega
  · intro i name found
    obtain ⟨bound, -⟩ := List.getElem?_eq_some_iff.mp found
    obtain ⟨reads, settled⟩ := keyed.held i name found
    rw [ByteCells.get?_grow keys size (by omega)]
    exact ⟨reads, ByteCells.settled_grow size (by omega) settled⟩

/-- One more name is held by the key behind the others. -/
theorem set (keyed : Keyed base names keys) (held : keys.HoldKeys) (name : String)
    (room : base + names.length < keys.spans.size) :
    Keyed base (names ++ [name]) (keys.set (base + names.length) name.toUTF8) := by
  refine ⟨?_, ?_⟩
  · simp only [ByteCells.set, Array.size_setIfInBounds, List.length_append, List.length_singleton]
    omega
  · intro i other found
    obtain ⟨before, found⟩ | ⟨rfl, rfl⟩ := getElem?_concat found
    · obtain ⟨reads, settled⟩ := keyed.held i other found
      have apart : base + i ≠ base + names.length := by omega
      rw [ByteCells.get?_set_of_ne _ apart settled]
      exact ⟨reads, ByteCells.settled_set_of_ne _ apart settled⟩
    · rw [ByteCells.get?_set_self keys _ room, held.isNull]
      exact ⟨rfl, ByteCells.settled_set_self keys _ _ room⟩

end Keyed

end Columnar
