import Columnar.Proofs.Column.Layout
import Columnar.Proofs.Column.Snapshots
/-!
# Child slots that written values take

How many child slots the lists and maps of a column have taken, at every node of its tree, once the
first values of a plan are written (`Taken`). A failed write takes slots for values that do not count
as written; putting back the child counts from before it makes up for that (`Taken.restore`).
-/

set_option autoImplicit false

namespace Columnar.Column

mutual

/-- The child slots that written values take, and no others, are taken at every node of a column. -/
def Taken : DataType → Column → List (Option Json) → Column → Prop
  | .leaf _ _ _, _, _, _ => True
  | .struct _ types, struct _ origins, done, struct _ fields =>
    TakenFields types origins done fields
  | .list _ element _, list _ base origin, done, list _ index child =>
    index.childCount = base.childCount + (done.flatMap itemSlots).length ∧
      Taken element origin (done.flatMap itemSlots) child
  | .map _ _ entry _, map _ base _ origin, done, map _ index _ values =>
    index.childCount = base.childCount + (done.flatMap entrySlots).length ∧
      Taken entry origin (done.flatMap entrySlots) values
  | _, _, _, _ => False
termination_by structural type => type

/-- The child slots that written structs take are taken in the columns of their fields. -/
def TakenFields : List (String × DataType) → List (String × Column) →
    List (Option Json) → List (String × Column) → Prop
  | [], _, _, _ => True
  | (name, type) :: types, (_, origin) :: origins, done, (_, column) :: columns =>
    Taken type origin (done.map (memberSlot name)) column ∧
      TakenFields types origins done columns
  | _, _, _, _ => False
termination_by structural types => types

end

/-- A struct column that took the slots of a plan has fields that did, and so had its origin. -/
theorem Taken.exists_struct {attributes : Attributes} {types : List (String × DataType)}
    {origin column : Column} {done : List (Option Json)}
    (taken : Taken (.struct attributes types) origin done column) :
    ∃ originNulls origins nulls fields,
      origin = struct originNulls origins ∧ column = struct nulls fields ∧
      TakenFields types origins done fields := by
  cases origin <;> try exact taken.elim
  case struct originNulls origins =>
    cases column <;> try exact taken.elim
    case struct nulls fields => exact ⟨originNulls, origins, nulls, fields, rfl, rfl, taken⟩

/-- A list column that took the slots of a plan counts those of its own rows on top of those at the
origin, and its child took the slots of the items. -/
theorem Taken.exists_list {attributes : Attributes} {element : DataType}
    {extra : List (String × DataType)} {origin column : Column} {done : List (Option Json)}
    (taken : Taken (.list attributes element extra) origin done column) :
    ∃ originNulls base originChild nulls index child,
      origin = list originNulls base originChild ∧ column = list nulls index child ∧
      index.childCount = base.childCount + (done.flatMap itemSlots).length ∧
      Taken element originChild (done.flatMap itemSlots) child := by
  cases origin <;> try exact taken.elim
  case list originNulls base originChild =>
    cases column <;> try exact taken.elim
    case list nulls index child =>
      exact ⟨originNulls, base, originChild, nulls, index, child, rfl, rfl, taken⟩

/-- A map column that took the slots of a plan counts those of its own rows on top of those at the
origin, and its values took the slots of the entries. -/
theorem Taken.exists_map {attributes : Attributes} {key entry : DataType}
    {extra : List (String × DataType)} {origin column : Column} {done : List (Option Json)}
    (taken : Taken (.map attributes key entry extra) origin done column) :
    ∃ originNulls base originKeys originValues nulls index keys values,
      origin = map originNulls base originKeys originValues ∧
      column = map nulls index keys values ∧
      index.childCount = base.childCount + (done.flatMap entrySlots).length ∧
      Taken entry originValues (done.flatMap entrySlots) values := by
  cases origin <;> try exact taken.elim
  case map originNulls base originKeys originValues =>
    cases column <;> try exact taken.elim
    case map nulls index keys values =>
      exact ⟨originNulls, base, originKeys, originValues, nulls, index, keys, values, rfl, rfl,
        taken⟩

/-- The first field takes the slots of the members of its name, and the other fields those of
theirs. -/
theorem TakenFields.exists_cons {name : String} {type : DataType}
    {types : List (String × DataType)} {origins columns : List (String × Column)}
    {done : List (Option Json)} (taken : TakenFields ((name, type) :: types) origins done columns) :
    ∃ originName origin restOrigins columnName column restColumns,
      origins = (originName, origin) :: restOrigins ∧
      columns = (columnName, column) :: restColumns ∧
      Taken type origin (done.map (memberSlot name)) column ∧
      TakenFields types restOrigins done restColumns := by
  cases origins with
  | nil => exact taken.elim
  | cons origin restOrigins =>
    cases columns with
    | nil => exact taken.elim
    | cons column restColumns => exact ⟨_, _, _, _, _, _, rfl, rfl, taken⟩

mutual

/-- As long as nothing is written, the child slots taken are those of the origin. -/
theorem taken_self {growable : Bool} : (type : DataType) → (column : Column) →
    Fits growable type column → Taken type column [] column
  | .leaf _ _ _, _, _ => by trivial
  | .struct _ types, _, fits => by
    obtain ⟨nulls, fields, rfl, -, fieldsFit⟩ := fits.exists_struct
    exact takenFields_self types nulls.size fields fieldsFit
  | .list _ element _, _, fits => by
    obtain ⟨nulls, index, child, rfl, -, -, -, childFits⟩ := fits.exists_list
    exact ⟨rfl, taken_self element child childFits⟩
  | .map _ _ entry _, _, fits => by
    obtain ⟨nulls, index, keys, values, rfl, -, -, -, -, valuesFit⟩ := fits.exists_map
    exact ⟨rfl, taken_self entry values valuesFit⟩
termination_by structural type => type

/-- Columns of fields have taken nothing since themselves. -/
theorem takenFields_self {growable : Bool} : (types : List (String × DataType)) → (size : Nat) →
    (columns : List (String × Column)) → FitsFields growable size types columns →
      TakenFields types columns [] columns
  | [], _, _, _ => by trivial
  | _ :: _, _, [], fits => fits.elim
  | (_, type) :: types, size, (_, column) :: columns, fits =>
    ⟨taken_self type column fits.2.2.1, takenFields_self types size columns fits.2.2.2⟩
termination_by structural types => types

end

mutual

/-- A slot without a value takes no child slots. -/
theorem Taken.skip : (type : DataType) → (origin column : Column) → (done : List (Option Json)) →
    Taken type origin done column → Taken type origin (done ++ [none]) column
  | .leaf _ _ _, _, _, _, _ => by trivial
  | .struct _ types, _, _, done, taken => by
    obtain ⟨_, origins, _, fields, rfl, rfl, held⟩ := taken.exists_struct
    exact TakenFields.skip types origins fields none (fun _ => rfl) done held
  | .list _ element _, _, _, done, taken => by
    obtain ⟨_, base, origin, _, index, child, rfl, rfl, held⟩ := taken.exists_list
    simpa [Taken, itemSlots] using held
  | .map _ _ entry _, _, _, done, taken => by
    obtain ⟨_, base, _, origin, _, index, _, values, rfl, rfl, held⟩ := taken.exists_map
    simpa [Taken, entrySlots] using held
termination_by structural type => type

/-- Where no member has a value no field takes slots. -/
theorem TakenFields.skip : (types : List (String × DataType)) →
    (origins columns : List (String × Column)) → (slot : Option Json) →
      (∀ name, memberSlot name slot = none) → (done : List (Option Json)) →
        TakenFields types origins done columns → TakenFields types origins (done ++ [slot]) columns
  | [], _, _, _, _, _, _ => by trivial
  | (name, type) :: types, _, _, slot, absent, done, taken => by
    obtain ⟨_, origin, origins, _, column, columns, rfl, rfl, first, rest⟩ := taken.exists_cons
    refine ⟨?_, TakenFields.skip types origins columns slot absent done rest⟩
    rw [List.map_append, List.map_singleton, absent]
    exact Taken.skip type origin column _ first
termination_by structural types => types

end

mutual

/-- More slots are not slots taken. -/
theorem Taken.grow (size : Nat) : (type : DataType) → (origin column : Column) →
    (done : List (Option Json)) → Taken type origin done column →
      Taken type origin done (Column.grow size column)
  | .leaf _ _ _, _, _, _, _ => by trivial
  | .struct _ types, _, _, done, taken => by
    obtain ⟨_, origins, _, fields, rfl, rfl, held⟩ := taken.exists_struct
    exact TakenFields.grow size types origins fields done held
  | .list _ _ _, _, _, _, taken => by
    obtain ⟨_, base, origin, _, index, child, rfl, rfl, held⟩ := taken.exists_list
    exact held
  | .map _ _ _ _, _, _, _, taken => by
    obtain ⟨_, base, _, origin, _, index, _, values, rfl, rfl, held⟩ := taken.exists_map
    exact held
termination_by structural type => type

/-- More slots of the fields are not slots taken. -/
theorem TakenFields.grow (size : Nat) : (types : List (String × DataType)) →
    (origins columns : List (String × Column)) → (done : List (Option Json)) →
      TakenFields types origins done columns →
        TakenFields types origins done (growFields size columns)
  | [], _, _, _, _ => by trivial
  | (name, type) :: types, _, _, done, taken => by
    obtain ⟨_, origin, origins, _, column, columns, rfl, rfl, first, rest⟩ := taken.exists_cons
    exact ⟨Taken.grow size type origin column _ first,
      TakenFields.grow size types origins columns done rest⟩
termination_by structural types => types

end

mutual

/-- A permission to grow takes no slots. -/
theorem Taken.setGrowable (allowed : Bool) : (type : DataType) →
    (origin column : Column) → (done : List (Option Json)) → Taken type origin done column →
      Taken type origin done (Column.setGrowable allowed column)
  | .leaf _ _ _, _, _, _, _ => by trivial
  | .struct _ types, _, _, done, taken => by
    obtain ⟨_, origins, _, fields, rfl, rfl, held⟩ := taken.exists_struct
    exact TakenFields.setGrowable allowed types origins fields done held
  | .list _ element _, _, _, _, taken => by
    obtain ⟨_, base, origin, _, index, child, rfl, rfl, counts, held⟩ := taken.exists_list
    exact ⟨counts, Taken.setGrowable allowed element origin child _ held⟩
  | .map _ _ entry _, _, _, _, taken => by
    obtain ⟨_, base, _, origin, _, index, _, values, rfl, rfl, counts, held⟩ := taken.exists_map
    exact ⟨counts, Taken.setGrowable allowed entry origin values _ held⟩
termination_by structural type => type

/-- A permission to grow takes no slots of any field. -/
theorem TakenFields.setGrowable (allowed : Bool) : (types : List (String × DataType)) →
    (origins columns : List (String × Column)) → (done : List (Option Json)) →
      TakenFields types origins done columns →
        TakenFields types origins done (setGrowableFields allowed columns)
  | [], _, _, _, _ => by trivial
  | (name, type) :: types, _, _, done, taken => by
    obtain ⟨_, origin, origins, _, column, columns, rfl, rfl, first, rest⟩ := taken.exists_cons
    exact ⟨Taken.setGrowable allowed type origin column _ first,
      TakenFields.setGrowable allowed types origins columns done rest⟩
termination_by structural types => types

end

mutual

/-- Putting back the child counts of a column frees the slots taken since. -/
theorem Taken.restore {growable allowed : Bool} : (type : DataType) →
    (origin snapshot column : Column) → Fits growable type snapshot → Fits allowed type column →
      (done : List (Option Json)) → Taken type origin done snapshot → (more : List Nat) →
        Taken type origin done (Column.restore column (childCounts snapshot ++ more)).1
  | .leaf _ _ _, _, _, _, _, _, _, _, _ => by trivial
  | .struct _ types, _, _, _, snapshotFits, fits, done, taken, more => by
    obtain ⟨_, origins, nulls, snapshots, rfl, rfl, held⟩ := taken.exists_struct
    obtain ⟨nulls', columns, rfl, -, columnsFit⟩ := fits.exists_struct
    rw [Fits] at snapshotFits
    exact TakenFields.restore types origins nulls.size snapshots nulls'.size columns snapshotFits.2
      columnsFit done held more
  | .list _ element _, _, _, _, snapshotFits, fits, done, taken, more => by
    obtain ⟨_, base, origin, _, index, snapshot, rfl, rfl, counts, held⟩ := taken.exists_list
    obtain ⟨_, index', child, rfl, -, -, -, childFits⟩ := fits.exists_list
    rw [Fits] at snapshotFits
    exact ⟨counts, Taken.restore element origin snapshot child snapshotFits.2.2.2 childFits _ held
      more⟩
  | .map _ _ entry _, _, _, _, snapshotFits, fits, done, taken, more => by
    obtain ⟨_, base, _, origin, _, index, _, snapshot, rfl, rfl, counts, held⟩ := taken.exists_map
    obtain ⟨_, index', keys, values, rfl, -, -, -, -, valuesFit⟩ := fits.exists_map
    rw [Fits] at snapshotFits
    exact ⟨counts, Taken.restore entry origin snapshot values snapshotFits.2.2.2.2 valuesFit _ held
      more⟩
termination_by structural type => type

/-- Putting back the child counts of all fields frees the slots taken since, in each of them. A
field uses up its own counts of the list, so the next one finds those that belong to it. -/
theorem TakenFields.restore {growable allowed : Bool} : (types : List (String × DataType)) →
    (origins : List (String × Column)) → (snapshotSize : Nat) →
      (snapshots : List (String × Column)) → (size : Nat) → (columns : List (String × Column)) →
        FitsFields growable snapshotSize types snapshots → FitsFields allowed size types columns →
          (done : List (Option Json)) → TakenFields types origins done snapshots →
            (more : List Nat) →
              TakenFields types origins done
                (restoreFields columns (childCountsFields snapshots ++ more)).1
  | [], _, _, [], _, [], _, _, _, _, _ => by trivial
  | [], _, _, _ :: _, _, _, fits, _, _, _, _ => fits.elim
  | [], _, _, [], _, _ :: _, _, fits, _, _, _ => fits.elim
  | _ :: _, _, _, _, _, [], _, fits, _, _, _ => fits.elim
  | (name, type) :: types, _, snapshotSize, _, size, (_, column) :: columns, snapshotsFit, fits,
      done, taken, more => by
    obtain ⟨_, origin, origins, _, snapshot, snapshots, rfl, rfl, first, rest⟩ := taken.exists_cons
    obtain ⟨-, -, snapshotFits, snapshotsFit⟩ := snapshotsFit
    obtain ⟨-, -, columnFits, columnsFit⟩ := fits
    rw [childCountsFields, List.append_assoc, restoreFields]
    dsimp only
    rw [(childCounts_restore snapshotFits columnFits _).1]
    exact ⟨Taken.restore type origin snapshot column snapshotFits columnFits _ first _,
      TakenFields.restore types origins snapshotSize snapshots size columns snapshotsFit columnsFit
        done rest more⟩
termination_by structural types => types

end

end Columnar.Column
