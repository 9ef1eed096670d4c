import Columnar.DataType.Validity
/-!
# Which types pass validation

Validation walks a type tree and stops at the first defect. `validate_eq_ok_iff` says what it leaves
standing: the trees every node of which is well-formed on its own. The root has to be a struct
besides, and that is all (`validateRoot_eq_ok_iff`).
-/

set_option autoImplicit false

namespace Columnar.DataType

/-- No name is found a second time exactly when none is seen already and none is repeated. -/
theorem firstDuplicate_eq_none_iff (seen names : List String) :
    firstDuplicate seen names = none ↔ names.Nodup ∧ ∀ name ∈ names, name ∉ seen := by
  induction names generalizing seen with
  | nil => simp [firstDuplicate]
  | cons name rest ih =>
    unfold firstDuplicate
    split
    · next old =>
      constructor
      · intro none
        cases none
      · intro fresh
        exact absurd old (fresh.2 name List.mem_cons_self)
    · next new =>
      rw [ih (name :: seen), List.nodup_cons]
      constructor
      · rintro ⟨distinct, unseen⟩
        have once : name ∉ rest := fun again => unseen name again List.mem_cons_self
        refine ⟨⟨once, distinct⟩, ?_⟩
        intro other among
        rcases List.mem_cons.mp among with rfl | among
        · exact new
        · exact fun old => unseen other among (List.mem_cons_of_mem _ old)
      · rintro ⟨⟨once, distinct⟩, unseen⟩
        refine ⟨distinct, ?_⟩
        intro other among old
        rcases List.mem_cons.mp old with rfl | old
        · exact once among
        · exact unseen other (List.mem_cons_of_mem _ among) old

/-- A node that is in order by itself: its fields have different names if it is a struct, its
precision and scale are in range if it is a decimal, and it has no fields if it is anything else. -/
def NodeWellFormed : DataType → Prop
  | struct _ fields => (fields.map Prod.fst).Nodup
  | leaf .decimal attributes _ =>
    1 ≤ attributes.precision ∧ attributes.precision ≤ maxPrecision ∧
      attributes.scale ≤ attributes.precision
  | leaf _ _ fields => fields = []
  | list _ _ fields => fields = []
  | map _ _ _ fields => fields = []

mutual

/-- A type tree all of whose nodes are in order. -/
def WellFormed : DataType → Prop
  | leaf kind attributes fields =>
    NodeWellFormed (leaf kind attributes fields) ∧ FieldsWellFormed fields
  | struct attributes fields =>
    NodeWellFormed (struct attributes fields) ∧ FieldsWellFormed fields
  | list attributes element fields =>
    NodeWellFormed (list attributes element fields) ∧ WellFormed element ∧ FieldsWellFormed fields
  | map attributes key value fields =>
    NodeWellFormed (map attributes key value fields) ∧ WellFormed key ∧ WellFormed value ∧
      FieldsWellFormed fields
termination_by structural type => type

/-- Fields all of whose types are in order. -/
def FieldsWellFormed : List (String × DataType) → Prop
  | [] => True
  | (_, type) :: rest => WellFormed type ∧ FieldsWellFormed rest
termination_by structural fields => fields

end

/-- A node without a defect is one that is well-formed on its own. -/
theorem defect?_eq_none_iff (type : DataType) : type.defect? = none ↔ type.NodeWellFormed := by
  cases type with
  | struct attributes fields =>
    simp [defect?, NodeWellFormed, firstDuplicate_eq_none_iff]
  | leaf kind attributes fields =>
    cases kind <;>
      simp [defect?, NodeWellFormed, ownChildren, children, DataType.fields]
  | list attributes element fields =>
    simp [defect?, NodeWellFormed, ownChildren, children, DataType.fields]
  | map attributes key value fields =>
    simp [defect?, NodeWellFormed, ownChildren, children, DataType.fields]

/-- A node passes its check when it is well-formed on its own. -/
theorem checkNode_eq_ok_iff (type : DataType) : type.checkNode = .ok () ↔ type.NodeWellFormed := by
  rw [← defect?_eq_none_iff]
  unfold checkNode
  cases type.defect? <;> simp

/-- Two checks in a row pass when both do. -/
theorem bind_eq_ok_iff (first second : Except Failure Unit) :
    (first >>= fun _ => second) = .ok () ↔ first = .ok () ∧ second = .ok () := by
  cases first <;> simp [bind, Except.bind]

mutual

/-- Validation passes exactly the type trees all of whose nodes are in order. -/
theorem validate_eq_ok_iff : (type : DataType) → (type.validate = .ok () ↔ type.WellFormed)
  | leaf kind attributes fields => by
    rw [validate, WellFormed, bind_eq_ok_iff, checkNode_eq_ok_iff, validateFields_eq_ok_iff fields]
  | struct attributes fields => by
    rw [validate, WellFormed, bind_eq_ok_iff, checkNode_eq_ok_iff, validateFields_eq_ok_iff fields]
  | list attributes element fields => by
    rw [validate, WellFormed, bind_eq_ok_iff, bind_eq_ok_iff, checkNode_eq_ok_iff,
      validate_eq_ok_iff element, validateFields_eq_ok_iff fields]
  | map attributes key value fields => by
    rw [validate, WellFormed, bind_eq_ok_iff, bind_eq_ok_iff, bind_eq_ok_iff, checkNode_eq_ok_iff,
      validate_eq_ok_iff key, validate_eq_ok_iff value, validateFields_eq_ok_iff fields]
termination_by structural type => type

/-- Fields pass when the type of each of them is well-formed all the way down. -/
theorem validateFields_eq_ok_iff :
    (fields : List (String × DataType)) → (validateFields fields = .ok () ↔ FieldsWellFormed fields)
  | [] => by simp [validateFields, FieldsWellFormed]
  | (_, type) :: rest => by
    rw [validateFields, FieldsWellFormed, bind_eq_ok_iff, validate_eq_ok_iff type,
      validateFields_eq_ok_iff rest]
termination_by structural fields => fields

end

/-- The types that records can have are the well-formed structs. -/
theorem validateRoot_eq_ok_iff (type : DataType) :
    type.validateRoot = .ok () ↔
      ∃ attributes fields, type = struct attributes fields ∧ type.WellFormed := by
  cases type with
  | struct attributes fields =>
    rw [validateRoot, validate_eq_ok_iff]
    simp
  | leaf kind attributes fields => simp [validateRoot]
  | list attributes element fields => simp [validateRoot]
  | map attributes key value fields => simp [validateRoot]

/-- A record type has fields of different names, all of well-formed types. -/
theorem wellFormed_of_validateRoot {type : DataType} (valid : type.validateRoot = .ok ()) :
    ∃ attributes fields, type = struct attributes fields ∧ (fields.map Prod.fst).Nodup ∧
      FieldsWellFormed fields := by
  obtain ⟨attributes, fields, rfl, wellFormed⟩ := (validateRoot_eq_ok_iff type).mp valid
  rw [WellFormed] at wellFormed
  exact ⟨attributes, fields, rfl, wellFormed.1, wellFormed.2⟩

end Columnar.DataType
