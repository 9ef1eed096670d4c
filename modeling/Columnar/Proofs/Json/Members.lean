import Columnar.Json.Basic
/-!
# Members of objects

An object made from pairs keeps them as they are when no name is repeated. If one is, the object still
has different names, and no members but these pairs.
-/

set_option autoImplicit false

namespace Columnar.Json

/-- A new name goes behind all others. -/
theorem Members.insert_of_not_mem {name : String} (value : Json) {members : Members}
    (new : name ∉ members.map Prod.fst) : members.insert name value = members ++ [(name, value)] := by
  induction members with
  | nil => rfl
  | cons member rest ih =>
    obtain ⟨other, old⟩ := member
    rw [List.map_cons, List.mem_cons, not_or] at new
    rw [Members.insert, if_neg (Ne.symm new.1), ih new.2]
    rfl

/-- Pairs with new and different names are put behind the members that there are. -/
theorem Members.foldl_insert_of_nodup (pairs : List (String × Json)) :
    ∀ members : Members, ((members ++ pairs).map Prod.fst).Nodup →
      pairs.foldl (fun members pair => members.insert pair.1 pair.2) members = members ++ pairs := by
  induction pairs with
  | nil => exact fun members _ => (List.append_nil members).symm
  | cons pair rest ih =>
    intro members distinct
    have new : pair.1 ∉ members.map Prod.fst := by
      rw [List.map_append, List.map_cons, List.nodup_append] at distinct
      exact fun old => distinct.2.2 pair.1 old pair.1 List.mem_cons_self rfl
    have moved : members ++ pair :: rest = (members ++ [pair]) ++ rest := by simp
    rw [List.foldl_cons, Members.insert_of_not_mem pair.2 new, moved]
    rw [moved] at distinct
    exact ih (members ++ [pair]) distinct

/-- Pairs without a repeated name are the members of their object, in their order. -/
theorem objectOf_of_nodup {pairs : List (String × Json)} (distinct : (pairs.map Prod.fst).Nodup) :
    objectOf pairs = .object pairs := by
  rw [objectOf, Members.ofList, Members.foldl_insert_of_nodup pairs [] distinct]
  rfl

/-- A member of an object without a repeated name is found by its name. -/
theorem Members.get?_of_mem {members : Members} (distinct : (members.map Prod.fst).Nodup)
    {name : String} {value : Json} (among : (name, value) ∈ members) :
    members.get? name = some value := by
  induction members with
  | nil => cases among
  | cons first rest ih =>
    obtain ⟨other, old⟩ := first
    rw [List.map_cons, List.nodup_cons] at distinct
    rw [Members.get?, List.lookup_cons]
    obtain same | later := List.mem_cons.mp among
    · cases same
      rw [beq_self_eq_true]
    · have differs : name ≠ other := fun same =>
        distinct.1 (List.mem_map.mpr ⟨(name, value), later, same⟩)
      rw [beq_false_of_ne differs]
      exact ih distinct.2 later

/-- So is what a name is paired with by a function of the pairs that it comes from. -/
theorem Members.get?_map_of_mem {α : Type} {pairs : List (String × α)}
    (distinct : (pairs.map Prod.fst).Nodup) {name : String} {source : α}
    (among : (name, source) ∈ pairs) (f : String → α → Json) :
    Members.get? (pairs.map fun pair => (pair.1, f pair.1 pair.2)) name = some (f name source) := by
  apply get?_of_mem
  · rw [List.map_map]
    exact distinct
  · exact List.mem_map_of_mem among

/-- A member that is there after an insertion is the inserted one or was there before. -/
theorem Members.mem_of_mem_insert {name : String} {value : Json} {member : String × Json}
    {members : Members} (among : member ∈ members.insert name value) :
    member = (name, value) ∨ member ∈ members := by
  induction members with
  | nil => exact .inl (List.mem_singleton.mp among)
  | cons first rest ih =>
    obtain ⟨other, old⟩ := first
    unfold Members.insert at among
    split at among
    · next same =>
      obtain rfl | among := List.mem_cons.mp among
      · exact .inl (by rw [same])
      · exact .inr (List.mem_cons_of_mem _ among)
    · obtain rfl | among := List.mem_cons.mp among
      · exact .inr List.mem_cons_self
      · exact (ih among).imp id (List.mem_cons_of_mem _)

/-- Different names stay different when a member is inserted, since one of its name is replaced. -/
theorem Members.nodup_insert (name : String) (value : Json) {members : Members}
    (distinct : (members.map Prod.fst).Nodup) :
    ((members.insert name value).map Prod.fst).Nodup := by
  induction members with
  | nil => exact List.nodup_cons.mpr ⟨List.not_mem_nil, List.nodup_nil⟩
  | cons first rest ih =>
    obtain ⟨other, old⟩ := first
    rw [List.map_cons, List.nodup_cons] at distinct
    unfold Members.insert
    split
    · exact List.nodup_cons.mpr distinct
    · next differs =>
      refine List.nodup_cons.mpr ⟨fun again => ?_, ih distinct.2⟩
      obtain ⟨member, among, same⟩ := List.mem_map.mp again
      obtain rfl | among := Members.mem_of_mem_insert among
      · exact differs same.symm
      · exact distinct.1 (List.mem_map.mpr ⟨member, among, same⟩)

/-- An object made from pairs has different names, and only pairs as its members. -/
theorem Members.ofList_spec (pairs : List (String × Json)) :
    ((Members.ofList pairs).map Prod.fst).Nodup ∧ ∀ member ∈ Members.ofList pairs, member ∈ pairs := by
  have every : ∀ (rest : List (String × Json)) (members : Members),
      (members.map Prod.fst).Nodup → (∀ member ∈ members, member ∈ pairs) →
        (∀ pair ∈ rest, pair ∈ pairs) →
          let made := rest.foldl (fun members pair => members.insert pair.1 pair.2) members
          (made.map Prod.fst).Nodup ∧ ∀ member ∈ made, member ∈ pairs := by
    intro rest
    induction rest with
    | nil => exact fun members distinct inside _ => ⟨distinct, inside⟩
    | cons pair rest ih =>
      intro members distinct inside others
      refine ih _ (Members.nodup_insert _ _ distinct) (fun member among => ?_) fun other among =>
        others other (List.mem_cons_of_mem _ among)
      obtain rfl | among := Members.mem_of_mem_insert among
      · exact others pair List.mem_cons_self
      · exact inside member among
  exact every pairs [] List.nodup_nil nofun fun pair among => among

end Columnar.Json
