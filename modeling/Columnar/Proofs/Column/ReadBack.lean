import Columnar.Proofs.Column.Flags
import Columnar.Proofs.Number.Binary64
import Columnar.Proofs.Number.Decimal
import Columnar.Proofs.Time.DateTime
/-!
# Values that are stored as they are

A value stays as it is in columns of a type if nothing is wrong with it and it reads back unchanged.
What any value reads as once it was stored is such a value (`stays_stored`): leaf by leaf, because the
text or number that a cell reads as is encoded to a cell that reads the same, and then through
structs, lists and maps, whose members come out with distinct names.
-/

set_option autoImplicit false

namespace Columnar

open Columnar.Number (Binary64)

/-! ### Leaves -/

/-- A number that was wrapped to a width once is not changed by wrapping it again. -/
theorem IntWidth.wrap_wrap (n : Int64) (width : IntWidth) :
    width.wrap (width.wrap n) = width.wrap n := by
  cases width <;> simp [IntWidth.wrap]

/-- A word of 64 bits is a number that fits into one. -/
theorem fitsInt64_toInt (n : Int64) : fitsInt64 n.toInt = true := by
  have low := n.le_toInt
  have high := n.toInt_lt
  simp only [fitsInt64, Bool.and_eq_true, decide_eq_true_eq]
  omega

/-- The value of an integer cell becomes the cell itself. -/
theorem Json.toInteger_int (n : Int64) (width : IntWidth) :
    (Json.int n.toInt).toInteger (.primitive (.integer width)) = .ok (width.wrap n) := by
  have kind : (Json.int n.toInt).kind = .integer := by rw [Json.kind, fitsInt64_toInt]; rfl
  have part : (Json.int n.toInt).integerPart? = some n := by
    rw [Json.integerPart?, fitsInt64_toInt, Int64.ofInt_toInt]
    rfl
  rw [Json.toInteger, Category.check, kind, part]
  rfl

/-- An integer that a column took is cut to its width already. -/
theorem Json.wrap_of_toInteger {value : Json} {width : IntWidth} {n : Int64}
    (taken : value.toInteger (.primitive (.integer width)) = .ok n) : width.wrap n = n := by
  obtain ⟨_, -, taken⟩ := LeafCell.eq_ok_of_bind taken
  split at taken
  · split at taken
    · cases taken
      exact IntWidth.wrap_wrap _ width
    · cases taken
  · cases taken

/-- A finite number that a column took is rounded to its width already. -/
theorem Json.roundReal_of_toReal {value : Json} {width : RealWidth} {x : Binary64}
    (taken : value.toReal (.primitive (.real width)) = .ok x) (finite : x.isFinite = true) :
    (Category.primitive (.real width)).roundReal x = x := by
  obtain ⟨_, -, taken⟩ := LeafCell.eq_ok_of_bind taken
  cases taken
  cases width with
  | single => exact Binary64.toSingle_toSingle finite
  | double => rfl

/-- Only null is null. -/
theorem Json.eq_null_of_isNull {value : Json} (null : value.isNull = true) : value = .null := by
  cases value <;> first | rfl | cases null

namespace LeafCell

variable {kind : Primitive} {attributes : Attributes} {value : Json} {cell : LeafCell}

/-- A cell reads as null, or as a value that is encoded to the cell again. -/
def ReadsBack (kind : Primitive) (attributes : Attributes) (cell : LeafCell) : Prop :=
  cell.read kind attributes = .null ∨
    encode kind attributes (cell.read kind attributes) = .ok (some cell)

/-- What is stored under a policy is what the value encodes to. -/
theorem encode_of_outcome {policy : CellPolicy}
    (written : outcome policy kind attributes value = .ok (some cell)) :
    encode kind attributes value = .ok (some cell) := by
  unfold outcome at written
  split at written
  · cases written
  · split at written
    · next encoded => cases written; exact encoded
    · split at written <;> cases written

/-- What a value other than null encodes to is stored under either policy. -/
theorem outcome_of_encode {policy : CellPolicy} (present : value.isNull = false)
    {written : Option LeafCell} (encoded : encode kind attributes value = .ok written) :
    outcome policy kind attributes value = .ok written := by
  rw [outcome, present, encoded]
  rfl

/-- A boolean is stored as zero or one, and reads back as the boolean. -/
theorem readsBack_boolean (encoded : encode .boolean attributes value = .ok (some cell)) :
    cell.ReadsBack .boolean attributes := by
  obtain ⟨b, -, encoded⟩ := eq_ok_of_bind encoded
  cases encoded
  cases b <;> exact .inr rfl

/-- An integer was wrapped to its width already, so it encodes to the same word. -/
theorem readsBack_integer {width : IntWidth}
    (encoded : encode (.integer width) attributes value = .ok (some cell)) :
    cell.ReadsBack (.integer width) attributes := by
  obtain ⟨n, taken, encoded⟩ := eq_ok_of_bind encoded
  cases encoded
  have read : read (.integer width) attributes (long n) = .int n.toInt := rfl
  rw [ReadsBack, read, encode, Json.toInteger_int, Json.wrap_of_toInteger taken]
  exact .inr rfl

/-- A number was rounded to its width already, so it encodes to the same number; one that is not
finite reads as null. -/
theorem readsBack_real {width : RealWidth}
    (encoded : encode (.real width) attributes value = .ok (some cell)) :
    cell.ReadsBack (.real width) attributes := by
  obtain ⟨x, taken, encoded⟩ := eq_ok_of_bind encoded
  cases encoded
  rw [ReadsBack, LeafCell.read, readDouble]
  cases finite : x.isFinite with
  | false => exact .inl rfl
  | true =>
    have again : (Json.real x).toReal (.primitive (.real width)) = .ok x :=
      congrArg Except.ok (Json.roundReal_of_toReal taken finite)
    rw [if_pos rfl, encode, again]
    exact .inr rfl

/-- A text reads back as its own characters. -/
theorem readsBack_text {text : TextKind}
    (encoded : encode (.text text) attributes value = .ok (some cell)) :
    cell.ReadsBack (.text text) attributes := by
  obtain ⟨written, -, encoded⟩ := eq_ok_of_bind encoded
  cases encoded
  have read : read (.text text) attributes (bytes written.toUTF8) = .text written :=
    congrArg Json.text (Text.Utf8.decode_toUTF8 written)
  rw [ReadsBack, read]
  exact .inr rfl

/-- Bytes read as their digits, and these decode to the same bytes. -/
theorem readsBack_binary (encoded : encode .binary attributes value = .ok (some cell)) :
    cell.ReadsBack .binary attributes := by
  obtain ⟨written, -, encoded⟩ := eq_ok_of_bind encoded
  split at encoded
  · next decoded _ =>
    cases encoded
    have read : read .binary attributes (bytes decoded) = .text (Text.Hex.encode decoded) := rfl
    have text : (Json.text (Text.Hex.encode decoded)).toText (.primitive .binary) =
        .ok (Text.Hex.encode decoded) := rfl
    rw [ReadsBack, read, encode, text]
    simp only [bind, Except.bind, Text.Hex.decode?_encode]
    exact .inr rfl
  · cases encoded

/-- A decimal reads as its canonical text, which is parsed to the same value. -/
theorem readsBack_decimal (most : attributes.precision ≤ 38)
    (encoded : encode .decimal attributes value = .ok (some cell)) :
    cell.ReadsBack .decimal attributes := by
  obtain ⟨written, -, encoded⟩ := eq_ok_of_bind encoded
  split at encoded
  · next unscaled parsed =>
    cases encoded
    have read : read .decimal attributes (decimal unscaled) =
        .text (Number.Decimal.format unscaled attributes.scale) := rfl
    have text : (Json.text (Number.Decimal.format unscaled attributes.scale)).toText
        (.primitive .decimal) = .ok (Number.Decimal.format unscaled attributes.scale) := rfl
    have again := Number.Decimal.parse_format most (Number.Decimal.natAbs_lt_of_parse parsed)
      attributes.scale
    rw [ReadsBack, read, encode, text]
    simp only [bind, Except.bind, again]
    exact .inr rfl
  · cases encoded
  · cases encoded

/-- A timestamp in a leap second reads as null. -/
theorem readsBack_timestamp (encoded : encode .timestamp attributes value = .ok (some cell)) :
    cell.ReadsBack .timestamp attributes := by
  obtain ⟨written, -, encoded⟩ := eq_ok_of_bind encoded
  split at encoded
  · next time parsed =>
    cases encoded
    have named := Time.named_of_parse? parsed
    rw [ReadsBack, LeafCell.read, readTimestamp, Time.toDateTime?_toInstant named]
    by_cases regular : time.nanos < 1000000000
    · have text : (Json.text time.format).toText (.primitive .timestamp) = .ok time.format := rfl
      rw [if_pos regular]
      simp only [encode, text, bind, Except.bind, Time.parse?_format named regular]
      exact .inr rfl
    · rw [if_neg regular]
      exact .inl rfl
  · cases encoded

/-- Every cell that a value is encoded to reads back. -/
theorem readsBack_of_encode {extra : List (String × DataType)}
    (wellFormed : DataType.NodeWellFormed (.leaf kind attributes extra))
    (encoded : encode kind attributes value = .ok (some cell)) : cell.ReadsBack kind attributes := by
  cases kind with
  | boolean => exact readsBack_boolean encoded
  | integer width => exact readsBack_integer encoded
  | real width => exact readsBack_real encoded
  | text text => exact readsBack_text encoded
  | decimal => exact readsBack_decimal wellFormed.2.1 encoded
  | timestamp => exact readsBack_timestamp encoded
  | binary => exact readsBack_binary encoded

end LeafCell

namespace Column

/-- Nothing is wrong with a value, and it reads back unchanged once it was stored. -/
structure Stays (type : DataType) (value : Json) : Prop where
  sound : fault .abort type value = none
  stored_eq : stored .abort type value = value

variable {policy : CellPolicy}

/-- Null stays null. -/
theorem stays_null (type : DataType) : Stays type .null := by
  refine ⟨?_, stored_null type⟩
  cases type <;> rfl

/-- A value that leaves its cell null reads as null, which stays. -/
theorem stays_of_leavesNull {type : DataType} {value : Json}
    (null : leavesNull policy type value = true) : Stays type (stored policy type value) := by
  rw [stored_of_leavesNull null]
  exact stays_null type

/-- What a leaf cell reads as, once a value was stored in it, stays as it is. -/
theorem stays_leaf {kind : Primitive} {attributes : Attributes} {extra : List (String × DataType)}
    (wellFormed : DataType.NodeWellFormed (.leaf kind attributes extra)) {value : Json}
    (sound : fault policy (.leaf kind attributes extra) value = none) :
    Stays (.leaf kind attributes extra) (stored policy (.leaf kind attributes extra) value) := by
  rw [fault] at sound
  split at sound
  · next cell written =>
    cases cell with
    | none => exact stays_of_leavesNull (leavesNull_leaf written extra)
    | some cell =>
      have encoded := LeafCell.encode_of_outcome written
      have reads : stored policy (.leaf kind attributes extra) value =
          cell.read kind attributes := stored_leaf written extra
      rw [reads]
      -- A time in a leap second is encoded, and its cell still reads as null.
      obtain null | again := LeafCell.readsBack_of_encode wellFormed encoded
      · rw [null]
        exact stays_null _
      · cases null : (cell.read kind attributes).isNull with
        | true =>
          rw [Json.eq_null_of_isNull null]
          exact stays_null _
        | false =>
          have outcome : LeafCell.outcome .abort kind attributes _ = .ok (some cell) :=
            LeafCell.outcome_of_encode null again
          exact ⟨by rw [fault, outcome], stored_leaf outcome extra⟩
  · cases sound

/-- The fields of a struct stay, by their names. -/
theorem stays_fields {members pairs : Json.Members} : (types : List (String × DataType)) →
    (∀ name type, (name, type) ∈ types →
      pairs.get? name = some (stored policy type ((members.get? name).getD .null)) ∧
        Stays type (stored policy type ((members.get? name).getD .null))) →
      faultFields .abort types pairs = none ∧
        storedFields .abort types pairs = storedFields policy types members
  | [], _ => ⟨rfl, rfl⟩
  | (name, type) :: types, each => by
    obtain ⟨found, stays⟩ := each name type List.mem_cons_self
    have others := stays_fields types fun name type among =>
      each name type (List.mem_cons_of_mem _ among)
    refine ⟨?_, ?_⟩
    · rw [faultFields, found, Option.getD_some, stays.sound, others.1]
      rfl
    · rw [storedFields_cons, storedFields_cons, found, Option.getD_some, stays.stored_eq, others.2]

/-- A list stays if its elements do. -/
theorem stays_array {attributes : Attributes} {element : DataType}
    {extra : List (String × DataType)} {items : List Json} (each : ∀ item ∈ items, Stays element item) :
    Stays (.list attributes element extra) (.array items) := by
  refine ⟨List.findSome?_eq_none_iff.mpr fun item among => (each item among).sound, ?_⟩
  have same : items.map (stored .abort element) = items := by
    conv => rhs; rw [← List.map_id items]
    exact List.map_congr_left fun item among => (each item among).stored_eq
  rw [stored, same]

/-- A map with different keys stays if its values do. -/
theorem stays_object {attributes : Attributes} {key entry : DataType}
    {extra : List (String × DataType)} {members : Json.Members}
    (distinct : (members.map Prod.fst).Nodup) (each : ∀ member ∈ members, Stays entry member.2) :
    Stays (.map attributes key entry extra) (.object members) := by
  refine ⟨List.findSome?_eq_none_iff.mpr fun member among => ?_, ?_⟩
  · rw [(each member among).sound]
    rfl
  · have same : members.map (fun member => (member.1, stored .abort entry member.2)) = members := by
      conv => rhs; rw [← List.map_id members]
      refine List.map_congr_left fun member among => ?_
      rw [(each member among).stored_eq]
      rfl
    rw [stored, same, Json.objectOf_of_nodup distinct]

/-- A declared field of a struct is found by its name. -/
theorem get?_storedFields {members : Json.Members} {types : List (String × DataType)}
    (distinct : (types.map Prod.fst).Nodup) {name : String} {type : DataType}
    (declared : (name, type) ∈ types) :
    Json.Members.get? (storedFields policy types members) name =
      some (stored policy type ((members.get? name).getD .null)) := by
  rw [storedFields_eq_map]
  exact Json.Members.get?_map_of_mem distinct declared fun name type =>
    stored policy type ((members.get? name).getD .null)

mutual

/-- What a value reads as once it was stored stays. -/
theorem stays_stored : (type : DataType) → type.WellFormed → (value : Json) →
    fault policy type value = none → Stays type (stored policy type value)
  | .leaf kind attributes extra, wellFormed, value, sound => by
    rw [DataType.WellFormed] at wellFormed
    exact stays_leaf wellFormed.1 sound
  | .struct attributes types, wellFormed, value, sound => by
    rw [DataType.WellFormed] at wellFormed
    obtain ⟨distinct, fields⟩ := wellFormed
    cases value with
    | object members =>
      -- The fields have distinct names, so the members are stored in their order and looked up by
      -- name.
      have names : ((storedFields policy types members).map Prod.fst).Nodup := by
        rw [names_storedFields]
        exact distinct
      have reads : stored policy (.struct attributes types) (.object members) =
          .object (storedFields policy types members) := Json.objectOf_of_nodup names
      obtain ⟨noFault, same⟩ := stays_fields types fun name type declared =>
        And.intro (get?_storedFields distinct declared)
          (stays_storedFields types fields members sound name type declared)
      rw [reads]
      refine ⟨noFault, ?_⟩
      rw [stored, same, Json.objectOf_of_nodup names]
    | null | bool | int | real | text | array => exact stays_of_leavesNull rfl
  | .list attributes element extra, wellFormed, value, sound => by
    rw [DataType.WellFormed] at wellFormed
    cases value with
    | array items =>
      refine stays_array fun item among => ?_
      obtain ⟨given, member, rfl⟩ := List.mem_map.mp among
      exact stays_stored element wellFormed.2.1 given
        (List.findSome?_eq_none_iff.mp sound given member)
    | null | bool | int | real | text | object => exact stays_of_leavesNull rfl
  | .map attributes key entry extra, wellFormed, value, sound => by
    rw [DataType.WellFormed] at wellFormed
    cases value with
    | object members =>
      obtain ⟨distinct, inside⟩ := Json.Members.ofList_spec
        (members.map fun member => (member.1, stored policy entry member.2))
      refine stays_object distinct fun pair among => ?_
      obtain ⟨given, member, rfl⟩ := List.mem_map.mp (inside pair among)
      have none := List.findSome?_eq_none_iff.mp sound given member
      exact stays_stored entry wellFormed.2.2.1 given.2 (Option.map_eq_none_iff.mp none)
    | null | bool | int | real | text | array => exact stays_of_leavesNull rfl
termination_by structural type => type

/-- What is stored for each field of a struct stays as it is. -/
theorem stays_storedFields : (types : List (String × DataType)) → DataType.FieldsWellFormed types →
    (members : Json.Members) → faultFields policy types members = none →
      ∀ name type, (name, type) ∈ types →
        Stays type (stored policy type ((members.get? name).getD .null))
  | [], _, _, _ => nofun
  | (first, other) :: types, wellFormed, members, sound => by
    rw [DataType.FieldsWellFormed] at wellFormed
    rw [faultFields, Option.or_eq_none_iff, Option.map_eq_none_iff] at sound
    intro name type declared
    obtain same | declared := List.mem_cons.mp declared
    · cases same
      exact stays_stored other wellFormed.1 _ sound.1
    · exact stays_storedFields types wellFormed.2 members sound.2 name type declared
termination_by structural types => types

end

end Column

end Columnar
