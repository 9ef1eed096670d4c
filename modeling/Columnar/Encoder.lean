import Columnar.RecordEncoder
/-!
# Encoder trees

What a type says about writing is worked out once for a session. An encoder tree has a node for each
node of the type that values are written by: list elements and map entries, but no map keys, and no
attributes, which the columns have themselves. A column is then written by the tree alone. A tree and
the column that it writes to are built separately from the type, and a column of another kind than
its node asks for is refused.
-/

set_option autoImplicit false

namespace Columnar

/-- How values are written. -/
inductive Encoder where
  | leaf (kind : Primitive)
  | struct (fields : List (String × Encoder))
  | list (element : Encoder)
  | map (entry : Encoder)

namespace DataType

/-- The fields of a type are smaller than the type. -/
theorem sizeOf_fields_lt (type : DataType) : sizeOf type.fields < sizeOf type := by
  cases type <;>
    simp only [fields, leaf.sizeOf_spec, struct.sizeOf_spec, list.sizeOf_spec, map.sizeOf_spec] <;>
    omega

/-- The children of a type are smaller than the type. -/
theorem sizeOf_lt_of_mem_children {type child : DataType} (among : child ∈ type.children) :
    sizeOf child < sizeOf type := by
  rw [children, List.mem_append] at among
  rcases among with own | added
  · cases type with
    | leaf | struct => cases own
    | list attributes element fields =>
      obtain rfl := List.mem_singleton.mp own
      rw [list.sizeOf_spec]
      omega
    | map attributes key value fields =>
      rw [map.sizeOf_spec]
      obtain rfl | own := List.mem_cons.mp own
      · omega
      · obtain rfl := List.mem_singleton.mp own
        omega
  · obtain ⟨⟨name, field⟩, among, rfl⟩ := List.mem_map.mp added
    have inside := List.sizeOf_lt_of_mem among
    have outside := sizeOf_fields_lt type
    rw [Prod.mk.sizeOf_spec] at inside
    show sizeOf field < sizeOf type
    omega

/-- The child type at a position. -/
def child (type : DataType) (index : Nat) : Except Failure { child // child ∈ type.children } :=
  match here : type.children[index]? with
  | some child => .ok ⟨child, List.mem_of_getElem? here⟩
  | none => .error (.invalidType type (.missingChild index))

end DataType

namespace Encoder

mutual

/-- The encoder tree of a type. Lists are built from their first child, maps from their second. -/
def ofType (type : DataType) : Except Failure Encoder :=
  match type.category with
  | .primitive kind => .ok (.leaf kind)
  | .struct => do
    have := type.sizeOf_fields_lt
    return .struct (← ofFields type.fields)
  | .list => do
    let ⟨element, among⟩ ← type.child 0
    have := DataType.sizeOf_lt_of_mem_children among
    return .list (← ofType element)
  | .map => do
    let ⟨entry, among⟩ ← type.child 1
    have := DataType.sizeOf_lt_of_mem_children among
    return .map (← ofType entry)
termination_by sizeOf type

/-- The encoder trees of the types of fields. -/
def ofFields : List (String × DataType) → Except Failure (List (String × Encoder))
  | [] => .ok []
  | (name, type) :: rest => do
    let first ← ofType type
    let others ← ofFields rest
    return (name, first) :: others
termination_by fields => sizeOf fields

end

open Column (guard writeLeaf writeStruct writeList writeMap writeMember)

mutual

/-- Writes a value into a row of a column. -/
def write (policy : CellPolicy) : Encoder → Json → Nat → Column → Attempt Column
  | .leaf kind, value, row =>
    guard policy value row fun column => .ofExcept column (writeLeaf kind value row column)
  | .struct encoders, value, row =>
    guard policy value row
      (writeStruct (fun members fields => writeFields policy encoders members row fields) value)
  | .list element, value, row => guard policy value row (writeList (write policy element) value row)
  | .map entry, value, row => guard policy value row (writeMap (write policy entry) value row)
termination_by structural encoder => encoder

/-- Writes the members of an object into a row of the columns of fields, in the order of the fields,
up to the first failure. -/
def writeFields (policy : CellPolicy) :
    List (String × Encoder) → Json.Members → Nat → List (String × Column) →
      Attempt (List (String × Column))
  | (name, encoder) :: encoders, members, row, (columnName, column) :: columns =>
    let first := writeMember (write policy encoder) name (members.get? name) row column
    match first.failure with
    | some failure => .failed ((columnName, first.state) :: columns) failure
    | none =>
      (writeFields policy encoders members row columns).map ((columnName, first.state) :: ·)
  | _, _, _, columns => .ok columns
termination_by structural encoders => encoders

end

end Encoder

/-- The encoder for records of a type, with the encoder trees of the fields. -/
def RecordEncoder.build (type : DataType) (policy : CellPolicy) :
    Except Failure (RecordEncoder × List (String × Encoder)) := do
  let encoder ← ofType type policy
  let fields ← Encoder.ofFields type.fields
  return (encoder, fields)

/-- Writes a record behind the rows of a batch and counts it, by the encoder trees of its fields. -/
def RecordEncoder.writeBy (fields : List (String × Encoder)) (encoder : RecordEncoder)
    (record : Json.Members) (batch : RecordBatch) : Attempt RecordBatch :=
  if batch.isFull then .failed batch (.batchFull batch.capacity)
  else if encoder.type = batch.type then
    let written := Encoder.writeFields encoder.policy fields record batch.size batch.columns
    match written.failure with
    | some failure => .failed { batch with columns := written.state } failure
    | none => .ok { batch with columns := written.state, size := batch.size + 1 }
  else .failed batch (.typesDiffer encoder.type batch.type)

end Columnar
