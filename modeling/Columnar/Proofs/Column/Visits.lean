import Columnar.Proofs.Column.Kinds
import Columnar.Proofs.Column.Stored
/-!
# The cells that a write comes to

A write goes through a value along its type: the value itself first, then the fields of a struct in
the order of their declaration, the elements of a list and the entries of a map in the order of the
input, and nothing below a null. `visits` lists the cells on this way, each with the path that leads
to it. Where failures stop a write, what is wrong with a value is what is wrong with the first of them
that cannot store its part (`fault_abort`), under the names of the fields and keys on its path.
-/

set_option autoImplicit false

namespace Columnar

/-- A step from a value into a part of it. -/
inductive PathStep where
  /-- To the field of a struct. -/
  | field (name : String)
  /-- To the element of a list at a position. -/
  | item (position : Nat)
  /-- To the value of a map under a key. -/
  | entry (key : String)
deriving DecidableEq

/-- The name that a step puts on the failures behind it; positions in lists have none. -/
def PathStep.name? : PathStep → Option String
  | field name => some name
  | item _ => none
  | entry key => some key

/-- A cell that a write comes to: the path that leads to it, its type and the value for it. -/
structure Visit where
  path : List PathStep
  type : DataType
  value : Json

namespace Failure

/-- A failure with names on the way to it, the outermost first. -/
def under (names : List String) (cause : Failure) : Failure :=
  names.foldr .inField cause

@[simp] theorem under_nil (cause : Failure) : cause.under [] = cause := rfl

/-- Without names on its way a failure stays as it is. -/
theorem map_under_nil (failure : Option Failure) : failure.map (under []) = failure := by
  cases failure <;> rfl

/-- Names on the way do not change whether a cell failed. -/
@[simp] theorem isCellFailure_under (names : List String) (cause : Failure) :
    (cause.under names).isCellFailure = cause.isCellFailure := by
  induction names with
  | nil => rfl
  | cons name names ih => exact ih

/-- Names on the way do not change the class of a failure. -/
@[simp] theorem classOf_under (names : List String) (cause : Failure) :
    (cause.under names).classOf = cause.classOf := by
  induction names with
  | nil => rfl
  | cons name names ih => exact ih

/-- Whatever a cell cannot store is a matter of conversion. -/
theorem classOf_of_isCellFailure {failure : Failure} (ofCell : failure.isCellFailure = true) :
    failure.classOf = .conversion := by
  induction failure with
  | inField name cause ih => exact ih ofCell
  | typeMismatch | numberOutOfRange | invalidDecimal | invalidTimestamp | invalidBinary => rfl
  | _ => cases ofCell

end Failure

/-- What an attempt without a result failed with. -/
def failureOf {α : Type} : Except Failure α → Option Failure
  | .ok _ => none
  | .error failure => some failure

namespace Visit

/-- The visit of a part, seen from the whole. -/
def below (step : PathStep) (visit : Visit) : Visit :=
  { visit with path := step :: visit.path }

/-- The names of fields and keys on the path to a cell, the outermost first. -/
def names (visit : Visit) : List String :=
  visit.path.filterMap PathStep.name?

/-- Why a cell cannot store its value, if it cannot. A struct, list or map looks no further than the
kind of its value; a leaf decodes it, and stores null for a decimal beyond its precision. -/
def refusal (visit : Visit) : Option Failure :=
  if visit.value.isNull then none
  else
    match visit.type with
    | .leaf kind attributes _ => failureOf (LeafCell.encode kind attributes visit.value)
    | type => failureOf (type.category.check visit.value)

/-- The refusal of a cell with the names on the path to it. -/
def failure (visit : Visit) : Option Failure :=
  visit.refusal.map (Failure.under visit.names)

/-- A step on the way to a cell puts its name, if it has one, on what is wrong with the cell. -/
theorem failure_below (step : PathStep) (visit : Visit) :
    (visit.below step).failure =
      visit.failure.map (Failure.under (step.name?.elim [] fun name => [name])) := by
  unfold failure names below
  rw [Option.map_map]
  cases step <;> rfl

/-- The first failure below a step is the first failure there, with the name of the step before it
if the step has one. -/
theorem findSome?_below (step : PathStep) (visits : List Visit) :
    (visits.map (below step)).findSome? failure =
      (visits.findSome? failure).map (Failure.under (step.name?.elim [] fun name => [name])) := by
  rw [List.findSome?_map, List.map_findSome?]
  congr 1
  exact funext (failure_below step)

end Visit

namespace Column

/-- The visits of parts in the order of the parts, each below the step to its part. -/
def partVisits {α : Type} (step : α → PathStep) (visits : α → List Visit) (parts : List α) :
    List Visit :=
  parts.flatMap fun part => (visits part).map (.below (step part))

mutual

/-- The cells that a write of a value of a type comes to, in order. An absent member of an object
counts as null. -/
def visits : DataType → Json → List Visit
  | .leaf kind attributes extra, value => [⟨[], .leaf kind attributes extra, value⟩]
  | .struct attributes types, value =>
    ⟨[], .struct attributes types, value⟩ :: (members? value).elim [] (fieldVisits types)
  | .list attributes element extra, value =>
    ⟨[], .list attributes element extra, value⟩ ::
      (items? value).elim [] fun items =>
        partVisits (fun part => .item part.2) (fun part => visits element part.1) items.zipIdx
  | .map attributes key entry extra, value =>
    ⟨[], .map attributes key entry extra, value⟩ ::
      (members? value).elim [] fun members =>
        partVisits (fun member => .entry member.1) (fun member => visits entry member.2) members
termination_by structural type => type

/-- The cells that a write of the members of an object comes to, field by field. -/
def fieldVisits : List (String × DataType) → Json.Members → List Visit
  | [], _ => []
  | (name, type) :: types, members =>
    (visits type ((members.get? name).getD .null)).map (.below (.field name)) ++
      fieldVisits types members
termination_by structural types => types

end

/-- The cells that a write of a value of a type comes to, in whatever order. -/
inductive Reaches : DataType → Json → Visit → Prop where
  | here (type : DataType) (value : Json) : Reaches type value ⟨[], type, value⟩
  | field {attributes : Attributes} {types : List (String × DataType)} {members : Json.Members}
      {name : String} {type : DataType} {visit : Visit} (declared : (name, type) ∈ types)
      (inside : Reaches type ((members.get? name).getD .null) visit) :
      Reaches (.struct attributes types) (.object members) (visit.below (.field name))
  | item {attributes : Attributes} {element : DataType} {extra : List (String × DataType)}
      {items : List Json} {item : Json} {position : Nat} {visit : Visit}
      (there : items[position]? = some item) (inside : Reaches element item visit) :
      Reaches (.list attributes element extra) (.array items) (visit.below (.item position))
  | entry {attributes : Attributes} {key entry : DataType} {extra : List (String × DataType)}
      {members : Json.Members} {name : String} {value : Json} {visit : Visit}
      (there : (name, value) ∈ members) (inside : Reaches entry value visit) :
      Reaches (.map attributes key entry extra) (.object members) (visit.below (.entry name))

/-! ### What is listed is what is reached -/

/-- A cell is come to in one of the parts, on a path that begins with the step to this part. -/
theorem mem_partVisits {α : Type} {step : α → PathStep} {visits : α → List Visit} {parts : List α}
    {visit : Visit} :
    visit ∈ partVisits step visits parts ↔
      ∃ part ∈ parts, ∃ inside ∈ visits part, inside.below (step part) = visit := by
  simp only [partVisits, List.mem_flatMap, List.mem_map]

mutual

/-- Every cell that is listed is reached. -/
theorem reaches_of_mem_visits : (type : DataType) → (value : Json) → (visit : Visit) →
    visit ∈ visits type value → Reaches type value visit
  | .leaf kind attributes extra, value, visit, listed => by
    rw [visits, List.mem_singleton] at listed
    rw [listed]
    exact .here _ _
  | .struct attributes types, value, visit, listed => by
    rw [visits] at listed
    obtain rfl | inside := List.mem_cons.mp listed
    · exact .here _ _
    · cases value with
      | object members =>
        obtain ⟨name, type, part, declared, reached, rfl⟩ :=
          reaches_of_mem_fieldVisits types members visit inside
        exact .field declared reached
      | null | bool | int | real | text | array => exact (List.not_mem_nil inside).elim
  | .list attributes element extra, value, visit, listed => by
    rw [visits] at listed
    obtain rfl | inside := List.mem_cons.mp listed
    · exact .here _ _
    · cases value with
      | array items =>
        obtain ⟨⟨item, position⟩, placed, part, among, rfl⟩ := mem_partVisits.mp inside
        exact .item (List.mk_mem_zipIdx_iff_getElem?.mp placed)
          (reaches_of_mem_visits element item part among)
      | null | bool | int | real | text | object => exact (List.not_mem_nil inside).elim
  | .map attributes key entry extra, value, visit, listed => by
    rw [visits] at listed
    obtain rfl | inside := List.mem_cons.mp listed
    · exact .here _ _
    · cases value with
      | object members =>
        obtain ⟨⟨name, value⟩, placed, part, among, rfl⟩ := mem_partVisits.mp inside
        exact .entry placed (reaches_of_mem_visits entry value part among)
      | null | bool | int | real | text | array => exact (List.not_mem_nil inside).elim
termination_by structural type => type

/-- Every cell that is listed below the fields of a struct is reached through one of them. -/
theorem reaches_of_mem_fieldVisits : (types : List (String × DataType)) →
    (members : Json.Members) → (visit : Visit) → visit ∈ fieldVisits types members →
      ∃ name type part, (name, type) ∈ types ∧
        Reaches type ((members.get? name).getD .null) part ∧ part.below (.field name) = visit
  | [], _, _, listed => by cases listed
  | (name, type) :: types, members, visit, listed => by
    rw [fieldVisits, List.mem_append, List.mem_map] at listed
    obtain ⟨part, among, same⟩ | later := listed
    · exact ⟨name, type, part, List.mem_cons_self, reaches_of_mem_visits type _ part among, same⟩
    · obtain ⟨name', type', part, declared, reached, same⟩ :=
        reaches_of_mem_fieldVisits types members visit later
      exact ⟨name', type', part, List.mem_cons_of_mem _ declared, reached, same⟩
termination_by structural types => types

end

/-- Every cell that is listed below a declared field is listed below the fields. -/
theorem mem_fieldVisits {types : List (String × DataType)} {members : Json.Members} {name : String}
    {type : DataType} {visit : Visit} (declared : (name, type) ∈ types)
    (inside : visit ∈ visits type ((members.get? name).getD .null)) :
    visit.below (.field name) ∈ fieldVisits types members := by
  induction types with
  | nil => cases declared
  | cons first types ih =>
    rw [fieldVisits, List.mem_append]
    obtain rfl | later := List.mem_cons.mp declared
    · exact .inl (List.mem_map_of_mem inside)
    · exact .inr (ih later)

/-- The list of visits leaves out no cell and has no other. -/
theorem mem_visits_iff {type : DataType} {value : Json} {visit : Visit} :
    visit ∈ visits type value ↔ Reaches type value visit := by
  refine ⟨reaches_of_mem_visits type value visit, fun reached => ?_⟩
  induction reached with
  | here type value => cases type <;> exact List.mem_cons_self
  | field declared _ ih => exact List.mem_cons_of_mem _ (mem_fieldVisits declared ih)
  | @item _ _ _ _ item position visit there _ ih =>
    apply List.mem_cons_of_mem
    apply mem_partVisits.mpr
    exact ⟨(item, position), List.mk_mem_zipIdx_iff_getElem?.mpr there, visit, ih, rfl⟩
  | @entry _ _ _ _ _ name value visit there _ ih =>
    apply List.mem_cons_of_mem
    apply mem_partVisits.mpr
    exact ⟨(name, value), there, visit, ih, rfl⟩

/-! ### The first refusal is the fault -/

/-- The first failure in the parts is the first failure in the first part that has one. -/
theorem findSome?_partVisits {α : Type} (step : α → PathStep) (visits : α → List Visit)
    (parts : List α) :
    (partVisits step visits parts).findSome? Visit.failure =
      parts.findSome? fun part => ((visits part).findSome? Visit.failure).map
        (Failure.under ((step part).name?.elim [] fun name => [name])) := by
  induction parts with
  | nil => rfl
  | cons part parts ih =>
    rw [partVisits, List.flatMap_cons, List.findSome?_append, Visit.findSome?_below, ← partVisits,
      ih, List.findSome?_cons]
    cases ((visits part).findSome? Visit.failure).map
      (Failure.under ((step part).name?.elim [] fun name => [name])) <;> rfl

/-- Positions say nothing of what is wrong with the elements of a list. -/
theorem findSome?_zipIdx (faultOf : Json → Option Failure) (items : List Json) (start : Nat) :
    ((items.zipIdx start).findSome? fun part => faultOf part.1) = items.findSome? faultOf := by
  induction items generalizing start with
  | nil => rfl
  | cons item items ih => rw [List.zipIdx_cons, List.findSome?_cons, List.findSome?_cons, ih]

/-- A leaf is refused for what is wrong with it. -/
theorem failure_leaf (kind : Primitive) (attributes : Attributes)
    (extra : List (String × DataType)) (value : Json) :
    Visit.failure ⟨[], .leaf kind attributes extra, value⟩ =
      fault .abort (.leaf kind attributes extra) value := by
  rw [fault, LeafCell.outcome, Visit.failure, Visit.refusal]
  by_cases null : value.isNull = true
  · simp [null]
  · cases encoded : LeafCell.encode kind attributes value <;> simp [null, encoded, failureOf]
    rfl

/-- A struct, list or map refuses values of another kind and looks into all others. -/
theorem failure_composite {type : DataType} (composite : ∀ kind, type.category ≠ .primitive kind)
    (value : Json) :
    Visit.failure ⟨[], type, value⟩ =
      if type.category.accepts value.kind then none
      else kindFault .abort type.category value := by
  cases type with
  | leaf kind attributes extra => exact absurd rfl (composite kind)
  | struct | list | map =>
    by_cases null : value.isNull = true
    · simp [Visit.failure, Visit.refusal, kindFault, null]
    · simp only [Visit.failure, Visit.refusal, Category.check, kindFault, null, reduceCtorEq,
        Bool.false_eq_true, or_false, if_false]
      split <;> rfl

/-- What is wrong with an object is what is wrong with its members; anything else is of the wrong
kind. -/
theorem fault_struct (policy : CellPolicy) (attributes : Attributes)
    (types : List (String × DataType)) (value : Json) :
    fault policy (.struct attributes types) value =
      (members? value).elim (kindFault policy .struct value) (faultFields policy types) := by
  cases value <;> rfl

/-- What is wrong with an array is what is wrong with the first faulty element; anything else is of
the wrong kind. -/
theorem fault_list (policy : CellPolicy) (attributes : Attributes) (element : DataType)
    (extra : List (String × DataType)) (value : Json) :
    fault policy (.list attributes element extra) value =
      (items? value).elim (kindFault policy .list value) (·.findSome? (fault policy element)) := by
  cases value <;> rfl

/-- What is wrong with an object in a map is what is wrong with the first faulty value, under its
key; anything else is of the wrong kind. -/
theorem fault_map (policy : CellPolicy) (attributes : Attributes) (key entry : DataType)
    (extra : List (String × DataType)) (value : Json) :
    fault policy (.map attributes key entry extra) value =
      (members? value).elim (kindFault policy .map value) (·.findSome? fun member =>
        (fault policy entry member.2).map (.inField member.1)) := by
  cases value <;> rfl

mutual

/-- Where failures stop a write, the fault of a value is the failure of the first cell on the way that
cannot store its part. -/
theorem fault_abort : (type : DataType) → (value : Json) →
    fault .abort type value = (visits type value).findSome? Visit.failure
  | .leaf kind attributes extra, value => by
    rw [visits, List.findSome?_singleton, failure_leaf]
  | .struct attributes types, value => by
    rw [fault_struct, visits, List.findSome?_cons, failure_composite (by rintro _ ⟨⟩),
      DataType.category, Category.accepts_struct]
    cases members? value with
    | none => cases kindFault .abort .struct value <;> rfl
    | some members => exact faultFields_abort types members
  | .list attributes element extra, value => by
    -- By induction the fault of a part is the first failure on the way through it.
    have inside : fault .abort element =
        fun item => (visits element item).findSome? Visit.failure := funext (fault_abort element)
    rw [fault_list, visits, List.findSome?_cons, failure_composite (by rintro _ ⟨⟩),
      DataType.category, Category.accepts_list]
    cases items? value with
    | none => cases kindFault .abort .list value <;> rfl
    | some items =>
      simp only [Option.elim_some, Option.isSome_some, if_true, findSome?_partVisits,
        PathStep.name?, Option.elim_none, Failure.map_under_nil, inside]
      exact (findSome?_zipIdx _ items 0).symm
  | .map attributes key entry extra, value => by
    have inside : fault .abort entry =
        fun value => (visits entry value).findSome? Visit.failure := funext (fault_abort entry)
    rw [fault_map, visits, List.findSome?_cons, failure_composite (by rintro _ ⟨⟩),
      DataType.category, Category.accepts_map]
    cases members? value with
    | none => cases kindFault .abort .map value <;> rfl
    | some members =>
      simp only [Option.elim_some, Option.isSome_some, if_true, findSome?_partVisits, inside]
      rfl
termination_by structural type => type

/-- Where failures stop a write, what is wrong with the members of an object is what is wrong with
the first cell below the fields that cannot store its part. -/
theorem faultFields_abort : (types : List (String × DataType)) → (members : Json.Members) →
    faultFields .abort types members = (fieldVisits types members).findSome? Visit.failure
  | [], _ => rfl
  | (name, type) :: types, members => by
    rw [faultFields, fieldVisits, List.findSome?_append, Visit.findSome?_below,
      fault_abort type, faultFields_abort types members]
    rfl
termination_by structural types => types

end

end Column

end Columnar
