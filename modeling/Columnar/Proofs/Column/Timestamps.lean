import Columnar.Column.Read
import Columnar.Proofs.Column.Parts
import Columnar.Proofs.Time.DateTime
/-!
# Timestamp cells

A cell keeps milliseconds and nanoseconds, and reading divides the milliseconds with rounding down. So
date-times before 1970 and fractions below a millisecond come back as they were written. A leap second
does not: its milliseconds count as part of the second after it, and that one is no leap second. Such
a cell reads as null, though its row is not flagged (`timestamp_kept_iff`).
-/

set_option autoImplicit false

namespace Columnar

open Columnar.Time (DateTime Instant)

/-- The date-time in a row of timestamp cells. -/
def Cells.dateTime? (cells : Cells Instant) (row : Nat) : Option DateTime :=
  (cells.get? row).bind Instant.toDateTime?

/-- A timestamp column shows the text of the date-time, or null if there is none. -/
theorem Column.valueAt_timestamp (cells : Cells Instant) (row : Nat) :
    (Column.timestamp cells).valueAt row =
      .ofOption (fun time => .text time.format) (cells.dateTime? row) := by
  rw [valueAt, Cells.dateTime?]
  cases cells.get? row with
  | none => rfl
  | some cell =>
    rw [Option.bind_some, Json.ofOption, readTimestamp]
    cases cell.toDateTime? <;> rfl

/-- What a row gives back of a date-time that was written to it. -/
theorem Cells.dateTime?_set {time : DateTime} (named : time.Named) (cells : Cells Instant) {row : Nat}
    (inside : row < cells.values.size) :
    (cells.set row time.toInstant).dateTime? row =
      if cells.nulls.isNull row = false ∧ time.nanos < 1000000000 then some time else none := by
  rw [dateTime?, get?_set_self cells _ inside]
  cases cells.nulls.isNull row with
  | true => simp
  | false =>
    have kept := Time.toDateTime?_toInstant named
    simpa using kept

/-- A date-time that was read from a text survives a row of a timestamp column exactly if the row is
not flagged and the date-time does not lie in a leap second; otherwise the row reads as null. -/
theorem timestamp_kept_iff {text : String} {time : DateTime}
    (parsed : DateTime.parse? text = some time) (cells : Cells Instant) {row : Nat}
    (inside : row < cells.values.size) :
    let written := cells.set row time.toInstant
    (written.dateTime? row = some time ↔
      cells.nulls.isNull row = false ∧ time.nanos < 1000000000) ∧
    ((Column.timestamp written).valueAt row = .null ↔
      cells.nulls.isNull row = true ∨ 1000000000 ≤ time.nanos) := by
  intro written
  have back := Cells.dateTime?_set (Time.named_of_parse? parsed) cells inside
  rw [Column.valueAt_timestamp, back]
  by_cases kept : cells.nulls.isNull row = false ∧ time.nanos < 1000000000
  · rw [if_pos kept]
    obtain ⟨shown, regular⟩ := kept
    have notLeap : ¬(1000000000 ≤ time.nanos) := Nat.not_le.mpr regular
    simp [shown, regular, notLeap, Json.ofOption]
  · rw [if_neg kept]
    have lost : cells.nulls.isNull row = true ∨ 1000000000 ≤ time.nanos := by
      rw [not_and_or, Bool.not_eq_false, Nat.not_lt] at kept
      exact kept
    simp [kept, lost, Json.ofOption]

/-- A nanosecond before 1970, in a fresh cell. -/
theorem timestamp_kept_iff_early :
    let cells : Cells Instant := .ofSize 1
    ∃ time, DateTime.parse? "1969-12-31T23:59:59.999999999Z" = some time ∧
      (cells.set 0 time.toInstant).dateTime? 0 = some time := by
  intro cells
  have parsed : DateTime.parse? "1969-12-31T23:59:59.999999999Z" =
      some ⟨-1, 86399, 999999999⟩ := by decide +kernel
  have inside : 0 < cells.values.size := by decide
  exact ⟨_, parsed, (timestamp_kept_iff parsed cells inside).1.mpr (by decide)⟩

/-- A leap second is read from its text, but not from its cell. -/
theorem timestamp_lost_in_leap_second :
    let cells : Cells Instant := .ofSize 1
    ∃ time, DateTime.parse? "2016-12-31 23:59:60" = some time ∧
      let written := cells.set 0 time.toInstant
      written.nulls.isNull 0 = false ∧ written.dateTime? 0 ≠ some time ∧
        (Column.timestamp written).valueAt 0 = .null := by
  intro cells
  have parsed : DateTime.parse? "2016-12-31 23:59:60" = some ⟨17166, 86399, 1000000000⟩ := by
    decide +kernel
  exact ⟨_, parsed, rfl, by decide, rfl⟩

end Columnar
