import Columnar.Encoder
import Columnar.Proofs.Column.Shape
/-!
# Encoder trees and column trees

Encoder trees and columns are built from a type by two recursions that know nothing of each other.
Both have a node for each node of the type that values are written by: building an encoder tree never
fails (`ofType_eq`), a column that fits the type has the tree of the encoder (`matches_plain`), and
writing by the tree is writing by the type (`write_plain`).
-/

set_option autoImplicit false

namespace Columnar

/-- A child type that exists is found under its position. -/
theorem DataType.child_eq {type child : DataType} {index : Nat}
    (found : type.children[index]? = some child) :
    type.child index = .ok ⟨child, List.mem_of_getElem? found⟩ := by
  unfold DataType.child
  split
  · next other here =>
    cases here.symm.trans found
    rfl
  · next none =>
    rw [found] at none
    cases none

namespace Encoder

mutual

/-- A column has the tree of an encoder if it is of the kind that the encoder asks for, at each
node. -/
def Matches : Encoder → Column → Prop
  | .leaf kind, column => column.kind = kind.columnKind
  | .struct encoders, .struct _ columns => MatchesFields encoders columns
  | .list element, .list _ _ child => Matches element child
  | .map entry, .map _ _ _ values => Matches entry values
  | _, _ => False
termination_by structural encoder => encoder

/-- Columns have the trees of encoders one by one, under the same names. -/
def MatchesFields : List (String × Encoder) → List (String × Column) → Prop
  | [], [] => True
  | (name, encoder) :: encoders, (columnName, column) :: columns =>
    columnName = name ∧ Matches encoder column ∧ MatchesFields encoders columns
  | _, _ => False
termination_by structural encoders => encoders

end

mutual

/-- The encoder tree of a type that has all its children. -/
def plain : DataType → Encoder
  | .leaf kind _ _ => .leaf kind
  | .struct _ types => .struct (plainFields types)
  | .list _ element _ => .list (plain element)
  | .map _ _ entry _ => .map (plain entry)
termination_by structural type => type

/-- The encoder trees of the types of fields. -/
def plainFields : List (String × DataType) → List (String × Encoder)
  | [] => []
  | (name, type) :: types => (name, plain type) :: plainFields types
termination_by structural types => types

end

mutual

/-- Every type has the children that its encoder tree is built from. -/
theorem ofType_eq : (type : DataType) → ofType type = .ok (plain type)
  | .leaf kind attributes extra => by
    rw [ofType]
    rfl
  | .struct attributes types => by
    rw [ofType]
    show (do return Encoder.struct (← ofFields types)) = Except.ok _
    rw [ofFields_eq types]
    rfl
  | .list attributes element extra => by
    have first : (DataType.list attributes element extra).children[0]? = some element := rfl
    rw [ofType]
    simp only [DataType.category]
    rw [DataType.child_eq first]
    show (do return Encoder.list (← ofType element)) = Except.ok _
    rw [ofType_eq element]
    rfl
  | .map attributes key entry extra => by
    have second : (DataType.map attributes key entry extra).children[1]? = some entry := rfl
    rw [ofType]
    simp only [DataType.category]
    rw [DataType.child_eq second]
    show (do return Encoder.map (← ofType entry)) = Except.ok _
    rw [ofType_eq entry]
    rfl
termination_by structural type => type

/-- The encoders of fields are built one by one, and none of them fails. -/
theorem ofFields_eq : (types : List (String × DataType)) → ofFields types = .ok (plainFields types)
  | [] => by
    rw [ofFields]
    rfl
  | (name, type) :: types => by
    rw [ofFields, ofType_eq type, ofFields_eq types]
    rfl
termination_by structural types => types

end

mutual

/-- A column of a type has a node for each node of the encoder of the type, of the kind that the
encoder writes. -/
theorem matches_plain {growable : Bool} : (type : DataType) → (column : Column) →
    Column.Fits growable type column → Matches (plain type) column
  | .leaf kind attributes extra, column, fits => by
    rw [plain, Matches]
    exact Column.FitsPrimitive.kind_eq fits
  | .struct _ types, _, fits => by
    obtain ⟨nulls, fields, rfl, -, fieldsFit⟩ := fits.exists_struct
    rw [plain, Matches]
    exact matchesFields_plain types _ fields fieldsFit
  | .list _ element _, _, fits => by
    obtain ⟨nulls, index, child, rfl, -, -, -, childFits⟩ := fits.exists_list
    rw [plain, Matches]
    exact matches_plain element child childFits
  | .map _ _ entry _, _, fits => by
    obtain ⟨nulls, index, keys, values, rfl, -, -, -, -, valuesFit⟩ := fits.exists_map
    rw [plain, Matches]
    exact matches_plain entry values valuesFit
termination_by structural type => type

/-- The columns of fields have the names of the encoders, in the same order, and their trees. -/
theorem matchesFields_plain {growable : Bool} : (types : List (String × DataType)) →
    (size : Nat) → (columns : List (String × Column)) →
      Column.FitsFields growable size types columns → MatchesFields (plainFields types) columns
  | [], _, [], _ => by
    rw [plainFields, MatchesFields]
    trivial
  | [], _, _ :: _, fits => by simp [Column.FitsFields] at fits
  | _ :: _, _, [], fits => by simp [Column.FitsFields] at fits
  | (name, type) :: types, size, (_, column) :: columns, fits => by
    rw [Column.FitsFields] at fits
    obtain ⟨sameName, -, first, rest⟩ := fits
    rw [plainFields, MatchesFields]
    exact ⟨sameName, matches_plain type column first, matchesFields_plain types size columns rest⟩
termination_by structural types => types

end

mutual

/-- Writing by the encoder tree of a type is writing by the type, whatever the column. -/
theorem write_plain (policy : CellPolicy) :
    (type : DataType) → write policy (plain type) = Column.write policy type
  | .leaf kind attributes extra => by
    funext value row column
    rfl
  | .struct attributes types => by
    funext value row column
    rw [plain, write, Column.write, writeFields_plain policy types]
  | .list attributes element extra => by
    funext value row column
    rw [plain, write, Column.write, write_plain policy element]
  | .map attributes key entry extra => by
    funext value row column
    rw [plain, write, Column.write, write_plain policy entry]
termination_by structural type => type

/-- Writing fields by their encoders is writing them by their types. -/
theorem writeFields_plain (policy : CellPolicy) : (types : List (String × DataType)) →
    writeFields policy (plainFields types) = Column.writeFields policy types
  | [] => by
    funext members row columns
    rfl
  | (name, type) :: types => by
    funext members row columns
    cases columns with
    | nil => rfl
    | cons first rest =>
      rw [plainFields, writeFields, write_plain policy type, writeFields_plain policy types]
      rfl
termination_by structural types => types

end

end Encoder

namespace RecordEncoder

/-- An encoder is built for every record type, and is the same tree under both policies. -/
theorem build_eq {type : DataType} (valid : type.validateRoot = .ok ()) (policy : CellPolicy) :
    build type policy = .ok (⟨type, policy⟩, Encoder.plainFields type.fields) := by
  rw [build, ofType, valid, Encoder.ofFields_eq]
  rfl

/-- Writing records by the encoder trees of their fields is writing them by their type. -/
theorem writeBy_plain (encoder : RecordEncoder) :
    encoder.writeBy (Encoder.plainFields encoder.type.fields) = encoder.write := by
  funext record batch
  rw [writeBy, Encoder.writeFields_plain]
  rfl

end RecordEncoder

end Columnar
