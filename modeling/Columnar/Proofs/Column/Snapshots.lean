import Columnar.Proofs.Column.Shape
/-!
# Child counts put back

Taking a snapshot and putting it back are two walks through a column tree. Putting back uses up one
count for each list and map of the tree (`rest_restore`), leaves these counts in the tree, in the order
in which a snapshot takes them (`childCounts_restore_eq_take`), and changes nothing else
(`uncounted_restore`). A tree is made up of its child counts and of what is left without them
(`restore_uncounted`), so this says all about it. In columns of one type there are as many lists and
maps, so each of them takes the snapshot of another (`childCounts_restore`).
-/

set_option autoImplicit false

namespace Columnar.Column

mutual

/-- A column tree with all its child counts at zero. -/
def uncounted : Column → Column
  | struct nulls fields => struct nulls (uncountedFields fields)
  | list nulls index child => list nulls index.reset (uncounted child)
  | map nulls index keys values => map nulls index.reset keys (uncounted values)
  | leaf => leaf
termination_by structural column => column

/-- Column trees with all their child counts at zero. -/
def uncountedFields : List (String × Column) → List (String × Column)
  | [] => []
  | (name, column) :: rest => (name, uncounted column) :: uncountedFields rest
termination_by structural fields => fields

end

/-! ### Any counts -/

mutual

/-- Putting back uses up as many counts as a snapshot of the tree has. -/
theorem rest_restore : (column : Column) → (counts : List Nat) →
    (restore column counts).2 = counts.drop (childCounts column).length
  | struct _ fields, counts => rest_restoreFields fields counts
  | list _ _ child, counts => by
    cases counts with
    | nil => exact (rest_restore child []).trans List.drop_nil
    | cons _ rest => exact rest_restore child rest
  | map _ _ _ values, counts => by
    cases counts with
    | nil => exact (rest_restore values []).trans List.drop_nil
    | cons _ rest => exact rest_restore values rest
  | long _ _, _ | double _, _ | bytes _, _ | decimal _ _ _, _ | timestamp _, _ => rfl
termination_by structural column => column

/-- Putting back uses up as many counts as a snapshot of all fields has; each field leaves to the
next what it did not use. -/
theorem rest_restoreFields : (fields : List (String × Column)) → (counts : List Nat) →
    (restoreFields fields counts).2 = counts.drop (childCountsFields fields).length
  | [], _ => rfl
  | (_, column) :: rest, counts => by
    rw [restoreFields, childCountsFields, List.length_append, ← List.drop_drop,
      ← rest_restore column counts]
    exact rest_restoreFields rest _
termination_by structural fields => fields

end

mutual

/-- With enough counts to put back, the first of them are the child counts of the tree. -/
theorem childCounts_restore_eq_take : (column : Column) → (counts : List Nat) →
    (childCounts column).length ≤ counts.length →
      childCounts (restore column counts).1 = counts.take (childCounts column).length
  | struct _ fields, counts, enough => childCountsFields_restore_eq_take fields counts enough
  | list nulls index child, counts, enough => by
    cases counts with
    | nil => cases enough
    | cons count rest =>
      exact congrArg (count :: ·)
        (childCounts_restore_eq_take child rest (Nat.le_of_succ_le_succ enough))
  | map nulls index keys values, counts, enough => by
    cases counts with
    | nil => cases enough
    | cons count rest =>
      exact congrArg (count :: ·)
        (childCounts_restore_eq_take values rest (Nat.le_of_succ_le_succ enough))
  | long _ _, _, _ | double _, _, _ | bytes _, _, _ | decimal _ _ _, _, _ | timestamp _, _, _ => rfl
termination_by structural column => column

/-- With enough counts to put back, the first of them are the child counts of the fields, one field
after the other. -/
theorem childCountsFields_restore_eq_take : (fields : List (String × Column)) →
    (counts : List Nat) → (childCountsFields fields).length ≤ counts.length →
      childCountsFields (restoreFields fields counts).1 =
        counts.take (childCountsFields fields).length
  | [], _, _ => rfl
  | (_, column) :: rest, counts, enough => by
    rw [childCountsFields, List.length_append] at enough
    have first := childCounts_restore_eq_take column counts (by omega)
    have others := childCountsFields_restore_eq_take rest
      (counts.drop (childCounts column).length) (by rw [List.length_drop]; omega)
    rw [← rest_restore column counts] at others
    rw [restoreFields, childCountsFields, childCountsFields, List.length_append, List.take_add,
      ← rest_restore column counts, ← others, ← first]
termination_by structural fields => fields

end

mutual

/-- Putting counts back changes nothing but child counts. -/
theorem uncounted_restore : (column : Column) → (counts : List Nat) →
    uncounted (restore column counts).1 = uncounted column
  | struct nulls fields, counts => congrArg (struct nulls) (uncountedFields_restore fields counts)
  | list nulls index child, counts => by
    cases counts with
    | nil => exact congrArg (list nulls index.reset) (uncounted_restore child [])
    | cons _ rest => exact congrArg (list nulls index.reset) (uncounted_restore child rest)
  | map nulls index keys values, counts => by
    cases counts with
    | nil => exact congrArg (map nulls index.reset keys) (uncounted_restore values [])
    | cons _ rest => exact congrArg (map nulls index.reset keys) (uncounted_restore values rest)
  | long _ _, _ | double _, _ | bytes _, _ | decimal _ _ _, _ | timestamp _, _ => rfl
termination_by structural column => column

/-- Putting counts back changes nothing of the fields but child counts. -/
theorem uncountedFields_restore : (fields : List (String × Column)) → (counts : List Nat) →
    uncountedFields (restoreFields fields counts).1 = uncountedFields fields
  | [], _ => rfl
  | (_, column) :: rest, counts => by
    rw [restoreFields, uncountedFields, uncountedFields, uncounted_restore column counts,
      uncountedFields_restore rest]
termination_by structural fields => fields

end

mutual

/-- A column tree is what it is without its child counts, and these put back. -/
theorem restore_uncounted : (column : Column) → (more : List Nat) →
    restore (uncounted column) (childCounts column ++ more) = (column, more)
  | struct nulls fields, more => by
    rw [uncounted, childCounts, restore, restoreFields_uncounted fields more]
  | list nulls index child, more => by
    rw [uncounted, childCounts, List.cons_append, restore, restoreIndex]
    dsimp only
    rw [restore_uncounted child more]
    rfl
  | map nulls index keys values, more => by
    rw [uncounted, childCounts, List.cons_append, restore, restoreIndex]
    dsimp only
    rw [restore_uncounted values more]
    rfl
  | long _ _, _ | double _, _ | bytes _, _ | decimal _ _ _, _ | timestamp _, _ => rfl
termination_by structural column => column

/-- Fields are what they are without their child counts, and these put back. -/
theorem restoreFields_uncounted : (fields : List (String × Column)) → (more : List Nat) →
    restoreFields (uncountedFields fields) (childCountsFields fields ++ more) = (fields, more)
  | [], _ => rfl
  | (_, column) :: rest, more => by
    rw [uncountedFields, childCountsFields, List.append_assoc, restoreFields,
      restore_uncounted column]
    dsimp only
    rw [restoreFields_uncounted rest more]
termination_by structural fields => fields

end

/-- Nothing is lost of a column tree but its child counts when these are set to zero. -/
theorem eq_of_uncounted_eq {column other : Column} (same : uncounted column = uncounted other)
    (counts : childCounts column = childCounts other) : column = other := by
  have whole := restore_uncounted column []
  rw [same, counts, restore_uncounted other []] at whole
  exact (congrArg Prod.fst whole).symm

/-- Nothing is lost of the fields but their child counts when these are set to zero. -/
theorem eq_of_uncountedFields_eq {fields others : List (String × Column)}
    (same : uncountedFields fields = uncountedFields others)
    (counts : childCountsFields fields = childCountsFields others) : fields = others := by
  have whole := restoreFields_uncounted fields []
  rw [same, counts, restoreFields_uncounted others []] at whole
  exact (congrArg Prod.fst whole).symm

/-! ### As many counts as the tree has -/

section

variable {column : Column} {fields : List (String × Column)} {counts : List Nat}

/-- As many counts as the tree has are used up, whatever follows them, and are its child counts from
then on. -/
theorem restore_of_length (same : counts.length = (childCounts column).length) (more : List Nat) :
    (restore column (counts ++ more)).2 = more ∧
      childCounts (restore column (counts ++ more)).1 = counts := by
  constructor
  · rw [rest_restore, List.drop_left' same]
  · have enough : (childCounts column).length ≤ (counts ++ more).length := by
      rw [List.length_append]
      omega
    rw [childCounts_restore_eq_take column _ enough, List.take_left' same]

/-- As many counts as the fields have are used up, whatever follows them, and are their child counts
from then on. -/
theorem restoreFields_of_length (same : counts.length = (childCountsFields fields).length)
    (more : List Nat) :
    (restoreFields fields (counts ++ more)).2 = more ∧
      childCountsFields (restoreFields fields (counts ++ more)).1 = counts := by
  constructor
  · rw [rest_restoreFields, List.drop_left' same]
  · have enough : (childCountsFields fields).length ≤ (counts ++ more).length := by
      rw [List.length_append]
      omega
    rw [childCountsFields_restore_eq_take fields _ enough, List.take_left' same]

/-- Trees that differ in their child counts alone become the same one. -/
theorem restore_eq {other : Column} (apart : uncounted other = uncounted column)
    (same : (childCounts other).length = (childCounts column).length) (more : List Nat) :
    restore other (childCounts column ++ more) = (column, more) := by
  obtain ⟨rest, counted⟩ := restore_of_length same.symm more
  have whole := eq_of_uncounted_eq ((uncounted_restore other _).trans apart) counted
  exact Prod.ext whole rest

/-- Fields that differ in their child counts alone become the same. -/
theorem restoreFields_eq {others : List (String × Column)}
    (apart : uncountedFields others = uncountedFields fields)
    (same : (childCountsFields others).length = (childCountsFields fields).length)
    (more : List Nat) :
    restoreFields others (childCountsFields fields ++ more) = (fields, more) := by
  obtain ⟨rest, counted⟩ := restoreFields_of_length same.symm more
  have whole := eq_of_uncountedFields_eq ((uncountedFields_restore others _).trans apart) counted
  exact Prod.ext whole rest

/-- What comes of a column when the child counts of another one are put back into it. -/
structure PutBack (source column : Column) : Prop where
  /-- The counts of the snapshot are used up, and none that follow it. -/
  restore_append : ∀ more, restore column (childCounts source ++ more) =
    ((restore column (childCounts source)).1, more)
  /-- The child counts are those of the snapshot. -/
  childCounts_eq : childCounts (restore column (childCounts source)).1 = childCounts source
  /-- All else is as it was. -/
  uncounted_eq : uncounted (restore column (childCounts source)).1 = uncounted column
  /-- With its own snapshot from before the column is what it was. -/
  restore_restore : restore (restore column (childCounts source)).1 (childCounts column) =
    (column, [])

/-- A column takes the child counts of any other that has as many. -/
theorem putBack_of_length {source : Column}
    (same : (childCounts source).length = (childCounts column).length) : PutBack source column := by
  have counted := (restore_of_length same []).2
  rw [List.append_nil] at counted
  have apart := uncounted_restore column (childCounts source)
  refine ⟨fun more => ?_, counted, apart, ?_⟩
  · have again := restore_eq apart.symm (by rw [counted, same]) more
    rw [counted] at again
    exact again
  · have back := restore_eq apart (by rw [counted, same]) []
    rw [List.append_nil] at back
    exact back

end

/-! ### Columns of one type -/

section

variable {growable allowed : Bool}

mutual

/-- A column has as many child counts as a new one of its type. -/
theorem length_childCounts_of_fits : (type : DataType) → (column : Column) →
    Fits growable type column →
      (childCounts column).length = (childCounts (allocate 0 type)).length
  | .leaf kind attributes _, column, fits => by
    have fresh := fitsPrimitive_ofPrimitive kind attributes 0
    rw [childCounts_of_fitsPrimitive fits, allocate, childCounts_of_fitsPrimitive fresh]
  | .struct _ types, _, fits => by
    obtain ⟨nulls, fields, rfl, -, fieldsFit⟩ := fits.exists_struct
    exact length_childCountsFields_of_fits types nulls.size fields fieldsFit
  | .list _ element _, _, fits => by
    obtain ⟨nulls, index, child, rfl, -, -, -, childFits⟩ := fits.exists_list
    exact congrArg (· + 1) (length_childCounts_of_fits element child childFits)
  | .map _ _ entry _, _, fits => by
    obtain ⟨nulls, index, keys, values, rfl, -, -, -, -, valuesFit⟩ := fits.exists_map
    exact congrArg (· + 1) (length_childCounts_of_fits entry values valuesFit)
termination_by structural type => type

/-- Columns of fields have as many child counts as new ones of their types. -/
theorem length_childCountsFields_of_fits : (types : List (String × DataType)) → (size : Nat) →
    (columns : List (String × Column)) → FitsFields growable size types columns →
      (childCountsFields columns).length = (childCountsFields (allocateFields 0 types)).length
  | [], _, [], _ => rfl
  | [], _, _ :: _, fits => fits.elim
  | _ :: _, _, [], fits => fits.elim
  | (_, type) :: types, size, (_, column) :: columns, ⟨_, _, first, rest⟩ => by
    rw [childCountsFields, allocateFields, childCountsFields, List.length_append,
      List.length_append, length_childCounts_of_fits type column first,
      length_childCountsFields_of_fits types size columns rest]
termination_by structural types => types

end

variable {type : DataType} {types : List (String × DataType)}

/-- A column takes the child counts of another column of its type, and hands on the others. -/
theorem childCounts_restore {before after : Column} (beforeFits : Fits growable type before)
    (afterFits : Fits allowed type after) (more : List Nat) :
    (restore after (childCounts before ++ more)).2 = more ∧
      childCounts (restore after (childCounts before ++ more)).1 = childCounts before :=
  restore_of_length ((length_childCounts_of_fits type before beforeFits).trans
    (length_childCounts_of_fits type after afterFits).symm) more

/-- Fields take the child counts of other columns of their types, and hand on the others. -/
theorem childCountsFields_restore {size size' : Nat} {before after : List (String × Column)}
    (beforeFit : FitsFields growable size types before)
    (afterFit : FitsFields allowed size' types after) (more : List Nat) :
    (restoreFields after (childCountsFields before ++ more)).2 = more ∧
      childCountsFields (restoreFields after (childCountsFields before ++ more)).1 =
        childCountsFields before :=
  restoreFields_of_length ((length_childCountsFields_of_fits types size before beforeFit).trans
    (length_childCountsFields_of_fits types size' after afterFit).symm) more

end

end Columnar.Column
