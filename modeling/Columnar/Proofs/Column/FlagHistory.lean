import Columnar.Proofs.Column.Parts
/-!
# The fast path of the null flags

A mask knows whether a row was flagged since the last reset. As long as none was, a reset does not
touch the flags, and rows are not null without a look at them. That is right because in all this time
no flag is set (`NullMask.Consistent`). So after any history a row is null exactly if it was flagged
since the last reset, and that is what its flag says; the flags are those of a column that takes all
of them back at every reset (`nulls_follow_history`).
-/

set_option autoImplicit false

namespace Columnar.NullMask

/-- Something done to the flags of a column. -/
inductive Change where
  | setNull (row : Nat)
  | grow (size : Nat)
  | reset
deriving DecidableEq

/-- A mask after a change. A row that has no flag cannot be flagged. -/
def change? (mask : NullMask) : Change → Option NullMask
  | .setNull row => if row < mask.size then some (mask.setNull row) else none
  | .grow size => some (mask.grow size)
  | .reset => some mask.reset

/-- A mask after a history of changes. -/
def replay? (mask : NullMask) (history : List Change) : Option NullMask :=
  history.foldlM change? mask

/-- Flags after a change, without a fast path: a reset goes through all of them. -/
def Change.onFlags (flags : Array Bool) : Change → Array Bool
  | .setNull row => flags.setIfInBounds row true
  | .grow size => growTo flags size false
  | .reset => flags.map fun _ => false

/-- The changes since the last reset, the latest first. -/
def sinceReset (history : List Change) : List Change :=
  history.reverse.takeWhile (· != .reset)

/-- What a mask of so many rows says after a history of changes. -/
structure Follows (size : Nat) (history : List Change) (mask : NullMask) : Prop where
  /-- Rows are null that were flagged since the last reset, and no others. -/
  isNull_iff : ∀ row, mask.isNull row = true ↔ .setNull row ∈ sinceReset history
  /-- No row is said to be null as long as none was flagged since the last reset. -/
  noNulls_iff : mask.noNulls = true ↔ ∀ row, .setNull row ∉ sinceReset history
  /-- Whether a row is null is what its flag says. -/
  flag_eq : ∀ row < mask.size, mask.flags[row]? = some (mask.isNull row)
  /-- The flags are those that there are without a fast path. -/
  flags_eq : mask.flags = history.foldl Change.onFlags (Array.replicate size false)

variable {size : Nat} {history : List Change} {mask : NullMask}

/-! ### The flags themselves -/

/-- The fast path says of a row what its flag says, since no flag is set while it is taken. -/
theorem Consistent.flag_eq (consistent : mask.Consistent) {row : Nat} (inside : row < mask.size) :
    mask.flags[row]? = some (mask.isNull row) := by
  have here : row < mask.flags.size := inside
  rw [isNull_eq_flag consistent, Array.getD_eq_getD_getElem?, Array.getElem?_eq_getElem here]
  rfl

/-- Where the answers follow a history the fast path is safe: rows that are said not to be null have
no flag set. -/
theorem Follows.consistent (follows : Follows size history mask) : mask.Consistent := by
  intro quiet row
  have shown : mask.isNull row = false := by
    rw [isNull, quiet]
    rfl
  rw [Array.getD_eq_getD_getElem?]
  by_cases inside : row < mask.size
  · rw [follows.flag_eq row inside, shown]
    rfl
  · rw [Array.getElem?_eq_none (Nat.le_of_not_lt inside)]
    rfl

/-- A reset that leaves the flags as they are could as well have gone through them. -/
theorem flags_reset (consistent : mask.Consistent) :
    mask.reset.flags = mask.flags.map fun _ => false := by
  unfold reset
  split
  · next quiet =>
    apply Array.ext_getElem?
    intro row
    rw [Array.getElem?_map]
    by_cases inside : row < mask.flags.size
    · have unset := consistent quiet row
      rw [Array.getD_eq_getD_getElem?, Array.getElem?_eq_getElem inside] at unset
      rw [Array.getElem?_eq_getElem inside]
      exact congrArg some unset
    · rw [Array.getElem?_eq_none (Nat.le_of_not_lt inside)]
      rfl
  · rfl

/-- After a reset no row is null. -/
theorem noNulls_reset (mask : NullMask) : mask.reset.noNulls = true := by
  unfold reset
  split
  · next quiet => exact quiet
  · rfl

/-! ### One change, and any number of them -/

/-- One change more: a reset forgets all that came before it, any other change is the latest since
the same reset. -/
theorem sinceReset_concat (history : List Change) (change : Change) :
    sinceReset (history ++ [change]) =
      if change = .reset then [] else change :: sinceReset history := by
  rw [sinceReset, List.reverse_append, List.reverse_singleton, List.singleton_append,
    List.takeWhile_cons]
  cases change <;> rfl

/-- A new mask says that nothing was flagged. -/
theorem follows_ofSize (size : Nat) : Follows size [] (ofSize size) := by
  refine ⟨fun row => ?_, ?_, fun row inside => ?_, rfl⟩
  · rw [isNull_ofSize]
    exact iff_of_false Bool.false_ne_true List.not_mem_nil
  · exact iff_of_true rfl fun _ => List.not_mem_nil
  · exact (consistent_ofSize size).flag_eq inside

/-- Flagging a row adds it to those since the reset, and no other row becomes null. The fast path ends
here, so that the others keep their answers takes that it was safe. -/
theorem Follows.setNull (follows : Follows size history mask) {row : Nat} (inside : row < mask.size) :
    Follows size (history ++ [.setNull row]) (mask.setNull row) := by
  have since : sinceReset (history ++ [.setNull row]) = .setNull row :: sinceReset history :=
    sinceReset_concat history _
  refine ⟨fun other => ?_, ?_, fun other within => ?_, ?_⟩
  · rw [since, List.mem_cons, Change.setNull.injEq]
    by_cases same : other = row
    · subst same
      exact iff_of_true (isNull_setNull_self mask inside) (.inl rfl)
    · rw [isNull_setNull_of_ne follows.consistent same, follows.isNull_iff other]
      exact (or_iff_right same).symm
  · rw [since]
    exact iff_of_false Bool.false_ne_true fun none => none row List.mem_cons_self
  · exact (consistent_setNull mask row).flag_eq within
  · rw [List.foldl_append, ← follows.flags_eq]
    rfl

/-- New rows were not flagged, and their flags are not set. -/
theorem Follows.grow (follows : Follows size history mask) (more : Nat) :
    Follows size (history ++ [.grow more]) (mask.grow more) := by
  have since : ∀ row, .setNull row ∈ sinceReset (history ++ [.grow more]) ↔
      .setNull row ∈ sinceReset history := by
    intro row
    rw [sinceReset_concat]
    exact List.mem_cons.trans (or_iff_right nofun)
  refine ⟨fun row => ?_, ?_, fun row within => ?_, ?_⟩
  · rw [since, isNull_grow, follows.isNull_iff row]
  · simp only [since]
    exact follows.noNulls_iff
  · exact (consistent_grow follows.consistent more).flag_eq within
  · rw [List.foldl_append, ← follows.flags_eq]
    rfl

/-- After a reset no row counts as flagged, and no flag is set, also where the reset went through
none of them. -/
theorem Follows.reset (follows : Follows size history mask) :
    Follows size (history ++ [.reset]) mask.reset := by
  have since : sinceReset (history ++ [.reset]) = [] := sinceReset_concat history .reset
  refine ⟨fun row => ?_, ?_, fun row within => ?_, ?_⟩
  · rw [since, isNull_reset]
    exact iff_of_false Bool.false_ne_true List.not_mem_nil
  · rw [since]
    exact iff_of_true (noNulls_reset mask) fun _ => List.not_mem_nil
  · exact (consistent_reset follows.consistent).flag_eq within
  · rw [List.foldl_append, ← follows.flags_eq]
    exact flags_reset follows.consistent

/-- Whatever the change, the answers follow the history with it at the end. -/
theorem Follows.change (follows : Follows size history mask) {change : Change} {after : NullMask}
    (changed : mask.change? change = some after) : Follows size (history ++ [change]) after := by
  cases change with
  | setNull row =>
    rw [change?, Option.ite_none_right_eq_some] at changed
    obtain ⟨inside, same⟩ := changed
    cases same
    exact follows.setNull inside
  | grow more =>
    cases changed
    exact follows.grow more
  | reset =>
    cases changed
    exact follows.reset

/-- The answers follow the history through any number of changes. -/
theorem Follows.replay (later : List Change) : ∀ {history : List Change} {mask after : NullMask},
    Follows size history mask → mask.replay? later = some after →
      Follows size (history ++ later) after := by
  induction later with
  | nil =>
    intro history mask after follows ran
    cases ran
    rw [List.append_nil]
    exact follows
  | cons change rest ih =>
    intro history mask after follows ran
    rw [replay?, List.foldlM_cons] at ran
    obtain ⟨middle, changed, ran⟩ := Option.bind_eq_some_iff.mp ran
    have whole := ih (follows.change changed) ran
    rw [List.append_assoc] at whole
    exact whole

/-- However a mask was used since it was made, it says of each row whether it was flagged since the
last reset, and so it does with flags that are read and taken back whether any is set or not. -/
theorem nulls_follow_history {size : Nat} {history : List Change} {mask : NullMask}
    (ran : (ofSize size).replay? history = some mask) : Follows size history mask :=
  (follows_ofSize size).replay history ran

/-- A row that was flagged before the reset is not null after it, also where flags were added in
between; a row that was flagged since then is. -/
theorem nulls_follow_history_reset :
    let history : List Change := [.setNull 1, .grow 4, .setNull 3, .reset, .grow 5, .setNull 4]
    let mask : NullMask := ⟨#[false, false, false, false, true], false⟩
    (ofSize 2).replay? history = some mask ∧ mask.noNulls = false ∧
      mask.isNull 3 = false ∧ mask.isNull 4 = true ∧ mask.flags[3]? = some false := by
  intro history mask
  have ran : (ofSize 2).replay? history = some mask := by decide +kernel
  have follows := nulls_follow_history ran
  have cleared : ¬mask.isNull 3 = true := by
    rw [follows.isNull_iff 3]
    decide
  rw [Bool.not_eq_true] at cleared
  refine ⟨ran, rfl, cleared, (follows.isNull_iff 4).mpr (by decide), ?_⟩
  rw [follows.flag_eq 3 (by decide), cleared]

end Columnar.NullMask
