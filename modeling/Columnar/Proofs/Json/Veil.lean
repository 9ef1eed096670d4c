import Columnar.Json.Basic
/-!
# Values with hidden cells

A cell of a value is what the names of a path lead to, from one object to the next. Cells that are
hidden read as null. Hiding cells changes a value exactly if one of them is there and is not null
(`veil_eq_self_iff`).
-/

set_option autoImplicit false

namespace Columnar.Json

/-- A path leads to a cell of a value. -/
def Reaches : Json → List String → Json → Prop
  | value, [], cell => cell = value
  | .object members, name :: path, cell =>
    ∃ value, (name, value) ∈ members ∧ value.Reaches path cell
  | _, _ :: _, _ => False

mutual

/-- A value with the cells at some paths hidden. -/
def veil : Json → (List String → Bool) → Json
  | .object members, hidden =>
    if hidden [] then .null else .object (veilMembers members hidden)
  | value, hidden => if hidden [] then .null else value
termination_by structural value => value

/-- Members with the cells at some paths hidden. -/
def veilMembers : List (String × Json) → (List String → Bool) → List (String × Json)
  | [], _ => []
  | (name, value) :: rest, hidden =>
    (name, veil value fun path => hidden (name :: path)) :: veilMembers rest hidden
termination_by structural members => members

end

/-- A value that is hidden itself is null. -/
theorem veil_of_hidden (value : Json) {hidden : List String → Bool} (null : hidden [] = true) :
    value.veil hidden = .null := by
  cases value <;> simp [veil, null]

/-- Hiding cells of members leaves their names. -/
@[simp] theorem names_veilMembers (members : List (String × Json)) (hidden : List String → Bool) :
    (veilMembers members hidden).map Prod.fst = members.map Prod.fst := by
  induction members with
  | nil => rfl
  | cons member rest ih => rw [veilMembers, List.map_cons, List.map_cons, ih]

@[simp] theorem veil_null (hidden : List String → Bool) : veil .null hidden = .null := by
  simp [veil]

mutual

/-- Where nothing is hidden a value stays as it is. -/
theorem veil_of_shown : (value : Json) → (hidden : List String → Bool) →
    (∀ path, hidden path = false) → value.veil hidden = value
  | .object members, hidden, shown => by
    rw [veil, shown, veilMembers_of_shown members hidden shown]
    rfl
  | .null, hidden, shown | .bool _, hidden, shown | .int _, hidden, shown
  | .real _, hidden, shown | .text _, hidden, shown | .array _, hidden, shown => by
    simp [veil, shown]
termination_by structural value => value

/-- Members of which nothing is hidden stay as they are. -/
theorem veilMembers_of_shown : (members : List (String × Json)) → (hidden : List String → Bool) →
    (∀ path, hidden path = false) → veilMembers members hidden = members
  | [], _, _ => rfl
  | (name, value) :: rest, hidden, shown => by
    rw [veilMembers, veil_of_shown value _ fun path => shown (name :: path),
      veilMembers_of_shown rest hidden shown]
termination_by structural members => members

end

/-- Where nothing below a value is hidden the value is null or stays as it is. -/
theorem veil_of_shallow (value : Json) {hidden : List String → Bool}
    (shallow : ∀ name path, hidden (name :: path) = false) :
    value.veil hidden = if hidden [] then .null else value := by
  cases value with
  | object members =>
    have same : veilMembers members hidden = members := by
      induction members with
      | nil => rfl
      | cons member rest ih => rw [veilMembers, veil_of_shown _ _ (shallow member.1), ih]
    rw [veil, same]
  | null | bool | int | real | text | array => rfl

mutual

/-- Cells are hidden in one go or in two. -/
theorem veil_veil : (value : Json) → (hidden more : List String → Bool) →
    (value.veil hidden).veil more = value.veil fun path => hidden path || more path
  | .object members, hidden, more => by
    cases first : hidden [] with
    | true =>
      rw [veil_of_hidden _ first, veil_null, veil_of_hidden]
      rw [first]
      rfl
    | false =>
      have both := veilMembers_veilMembers members hidden more
      simp only [veil, first, both, Bool.false_or, Bool.false_eq_true, if_false]
  | .null, hidden, more | .bool _, hidden, more | .int _, hidden, more | .real _, hidden, more
  | .text _, hidden, more | .array _, hidden, more => by
    cases first : hidden [] <;> simp [veil, first]
termination_by structural value => value

/-- Hiding cells of members twice hides what is hidden either time. -/
theorem veilMembers_veilMembers : (members : List (String × Json)) →
    (hidden more : List String → Bool) →
      veilMembers (veilMembers members hidden) more =
        veilMembers members fun path => hidden path || more path
  | [], _, _ => rfl
  | (name, value) :: rest, hidden, more => by
    rw [veilMembers, veilMembers, veil_veil, veilMembers_veilMembers rest hidden more, veilMembers]
termination_by structural members => members

end

mutual

/-- Hiding cells changes nothing exactly if all of them that are there are null. -/
theorem veil_eq_self_iff : (value : Json) → (hidden : List String → Bool) →
    (value.veil hidden = value ↔
      ∀ path cell, hidden path = true → value.Reaches path cell → cell = .null)
  | .object members, hidden => by
    cases first : hidden [] with
    | true =>
      rw [veil_of_hidden _ first]
      constructor
      · intro same
        cases same
      · intro null
        exact (null [] _ first rfl).symm
    | false =>
      rw [veil, first]
      simp only [Bool.false_eq_true, if_false, Json.object.injEq]
      rw [veilMembers_eq_self_iff members hidden]
      constructor
      · intro null path cell covered reaches
        cases path with
        | nil =>
          rw [first] at covered
          cases covered
        | cons name path =>
          obtain ⟨value, among, reaches⟩ := reaches
          exact null name value among path cell covered reaches
      · intro null name value among path cell covered reaches
        exact null (name :: path) cell covered ⟨value, among, reaches⟩
  | .null, hidden => by
    rw [veil_null]
    refine ⟨fun _ path cell _ reaches => ?_, fun _ => rfl⟩
    cases path with
    | nil => exact reaches
    | cons name path => exact reaches.elim
  -- Of a value without members only the whole of it can be hidden.
  | .bool _, hidden | .int _, hidden | .real _, hidden | .text _, hidden | .array _, hidden => by
    rw [veil]
    constructor
    · intro same path cell covered reaches
      cases path with
      | nil =>
        rw [if_pos covered] at same
        cases same
      | cons name path => exact reaches.elim
    · intro null
      cases first : hidden [] with
      | true => cases null [] _ first rfl
      | false => rfl
    all_goals nofun
termination_by structural value => value

/-- Hiding cells leaves members as they are exactly if all cells that are hidden and there are null.
-/
theorem veilMembers_eq_self_iff : (members : List (String × Json)) →
    (hidden : List String → Bool) →
      (veilMembers members hidden = members ↔
        ∀ name value, (name, value) ∈ members → ∀ path cell, hidden (name :: path) = true →
          value.Reaches path cell → cell = .null)
  | [], _ => by simp [veilMembers]
  | (name, value) :: rest, hidden => by
    rw [veilMembers, List.cons.injEq, Prod.mk.injEq, veil_eq_self_iff value,
      veilMembers_eq_self_iff rest hidden]
    constructor
    · rintro ⟨⟨-, first⟩, others⟩ other otherValue among
      rcases List.mem_cons.mp among with same | among
      · cases same
        exact first
      · exact others other otherValue among
    · intro null
      exact ⟨⟨rfl, null name value List.mem_cons_self⟩,
        fun other otherValue among => null other otherValue (List.mem_cons_of_mem _ among)⟩
termination_by structural members => members

end

end Columnar.Json
