import Mathlib.Data.List.TakeWhile
import Columnar.Proofs.Text.Digits
import Columnar.Proofs.Time.Calendar
import Columnar.Time.DateTime
/-!
# Date-times read back

A date-time that text can write has a day with a date, a second of it, and less than a second of
nanoseconds, or less than two at the end of a minute (`Named`). Without a leap second it survives a
timestamp cell (`toDateTime?_toInstant`) and its own text (`parse?_format`); with one, the cell names
no date-time.
-/

set_option autoImplicit false

namespace Columnar.Time

open Columnar.Text

/-! ### Scanning -/

/-- A number that fills its width is scanned whole, and the scan stops behind it even at another
digit. -/
theorem scanNumber_paddedDigits {width n : Nat} (positive : 0 < width) (small : n < 10 ^ width)
    (rest : List Char) : scanNumber width (paddedDigits width n ++ rest) = some (n, rest) := by
  have length := length_paddedDigits positive small
  have digits : (paddedDigits width n).takeWhile Char.isDigit = paddedDigits width n :=
    List.takeWhile_eq_self_iff.mpr fun c among => isDigit_of_mem_paddedDigits among
  have some : (paddedDigits width n).isEmpty = false := by
    rw [List.isEmpty_eq_false_iff]
    exact paddedDigits_ne_nil width n
  unfold scanNumber
  simp only [trimStart_paddedDigits]
  rw [List.take_append_of_le_length (Nat.le_of_eq length.symm),
    List.take_of_length_le (Nat.le_of_eq length), digits, some, digitsValue_paddedDigits,
    List.drop_left]
  rfl

/-- A blank before a number is skipped. -/
theorem scanNumber_blank (most : Nat) (text : List Char) :
    scanNumber most (' ' :: text) = scanNumber most text := rfl

/-- A number of any length is scanned up to the next character that is no digit. -/
theorem scanLongNumber_paddedDigits (width n : Nat) {next : Char} (stop : next.isDigit = false)
    (rest : List Char) :
    scanLongNumber (paddedDigits width n ++ next :: rest) = some (n, next :: rest) := by
  have digits : ∀ c ∈ paddedDigits width n, c.isDigit = true :=
    fun c among => isDigit_of_mem_paddedDigits among
  have some : (paddedDigits width n).isEmpty = false := by
    rw [List.isEmpty_eq_false_iff]
    exact paddedDigits_ne_nil width n
  unfold scanLongNumber
  rw [List.takeWhile_append_of_pos digits, List.dropWhile_append_of_pos digits,
    List.takeWhile_cons_of_neg (by simp [stop]), List.dropWhile_cons_of_neg (by simp [stop]),
    List.append_nil]
  simp only [some, digitsValue_paddedDigits]
  rfl

/-- A year that begins with a digit has no more than four of them. -/
theorem scanYear_of_isDigit {first : Char} (digit : first.isDigit = true) (rest : List Char) :
    scanYear (first :: rest) =
      (scanNumber 4 (first :: rest)).map fun (n, rest) => ((n : Int), rest) := by
  have solid : trimStart (first :: rest) = first :: rest :=
    trimStart_of_head fun c found => by cases found; exact isBlank_of_isDigit digit
  unfold scanYear
  rw [solid]
  split
  · next same => cases same; cases digit
  · next same => cases same; cases digit
  · rfl

/-- A year reads back from its text. -/
theorem scanYear_formatYear (year : Int) {next : Char} (stop : next.isDigit = false)
    (rest : List Char) :
    scanYear (formatYear year ++ next :: rest) = some (year, next :: rest) := by
  have long := scanLongNumber_paddedDigits 4 year.natAbs stop rest
  unfold formatYear
  dsimp only
  split
  · next negative =>
    have back : -(year.natAbs : Int) = year := by omega
    have signed : scanYear ('-' :: (paddedDigits 4 year.natAbs ++ next :: rest)) =
        some (-(year.natAbs : Int), next :: rest) := congrArg (Option.map _) long
    rw [List.cons_append, signed, back]
  · next positive =>
    have back : (year.natAbs : Int) = year := by omega
    split
    · next late =>
      have signed : scanYear ('+' :: (paddedDigits 4 year.natAbs ++ next :: rest)) =
          some ((year.natAbs : Int), next :: rest) := congrArg (Option.map _) long
      rw [List.cons_append, signed, back]
    · next early =>
      have small : year.natAbs < 10 ^ 4 := by omega
      have short := scanNumber_paddedDigits (by decide) small (next :: rest)
      obtain ⟨first, others, same⟩ := List.exists_cons_of_ne_nil (paddedDigits_ne_nil 4 year.natAbs)
      have digit : first.isDigit = true :=
        isDigit_of_mem_paddedDigits (same ▸ List.mem_cons_self)
      rw [same] at short ⊢
      rw [List.cons_append] at short ⊢
      rw [scanYear_of_isDigit digit, short]
      exact congrArg (fun n => some (n, next :: rest)) back

/-- Fewer places than nine are filled up with zeros. -/
theorem scanFraction_paddedDigits {width n : Nat} (positive : 0 < width) (least : width ≤ 9)
    (small : n < 10 ^ width) :
    scanFraction ('.' :: paddedDigits width n) = some (n * 10 ^ (9 - width), []) := by
  have length := length_paddedDigits positive small
  have digits : ∀ c ∈ paddedDigits width n, c.isDigit = true :=
    fun c among => isDigit_of_mem_paddedDigits among
  have some : (paddedDigits width n).isEmpty = false := by
    rw [List.isEmpty_eq_false_iff]
    exact paddedDigits_ne_nil width n
  unfold scanFraction
  simp only [List.takeWhile_eq_self_iff.mpr digits, List.dropWhile_eq_nil_iff.mpr digits, some,
    List.take_of_length_le (Nat.le_trans (Nat.le_of_eq length) least), length,
    digitsValue_paddedDigits]
  rfl

/-- Nanoseconds read back from their text. -/
theorem scanFraction_formatFraction {nanos : Nat} (small : nanos < 1000000000) :
    scanFraction (formatFraction nanos) = some (nanos, []) := by
  unfold formatFraction
  split
  · next zero => rw [zero]; rfl
  · split
    · rw [scanFraction_paddedDigits (by decide) (by decide) (by omega)]
      congr 2
      omega
    · split
      · rw [scanFraction_paddedDigits (by decide) (by decide) (by omega)]
        congr 2
        omega
      · rw [scanFraction_paddedDigits (by decide) (by decide) (by omega)]
        congr 2
        omega

/-! ### Date-times that have a name -/

/-- A date-time that a text can write: its day has a date in the range of years, and a second with more
nanoseconds than a second has ends a minute. -/
structure DateTime.Named (time : DateTime) : Prop where
  dated : ∃ date : Date, date.isValid = true ∧ firstYear ≤ date.year ∧ date.year ≤ lastYear ∧
    time.day = date.dayNumber
  second_lt : time.second < 86400
  nanos_lt : time.nanos < 1000000000 ∨ (time.second % 60 = 59 ∧ time.nanos < 2000000000)

/-- A fraction of a second is less than a second. -/
theorem nanos_lt_of_scanFraction {text rest : List Char} {nanos : Nat}
    (scanned : scanFraction text = some (nanos, rest)) : nanos < 1000000000 := by
  unfold scanFraction at scanned
  split at scanned
  · next text =>
    dsimp only at scanned
    split at scanned
    · cases scanned
    · cases scanned
      have digits : ∀ c ∈ (text.takeWhile Char.isDigit).take 9, c.isDigit = true :=
        fun c among => List.mem_takeWhile_imp (List.mem_of_mem_take among)
      have most : ((text.takeWhile Char.isDigit).take 9).length ≤ 9 := by
        rw [List.length_take]
        exact Nat.min_le_left _ _
      have places : 10 ^ ((text.takeWhile Char.isDigit).take 9).length *
          10 ^ (9 - ((text.takeWhile Char.isDigit).take 9).length) = 1000000000 := by
        rw [← Nat.pow_add, Nat.add_sub_cancel' most]
      rw [← places]
      exact Nat.mul_lt_mul_of_pos_right (digitsValue_lt digits) (Nat.pow_pos (by decide))
  · cases scanned
    decide

/-- A time of day that is accepted has a name: a leap second stands at the end of a minute, and adds
less than a second to it. -/
theorem named_of_ofFields? {date : Date} {hour minute second nanos : Nat} {time : DateTime}
    (small : nanos < 1000000000)
    (read : DateTime.ofFields? date hour minute second nanos = some time) : time.Named := by
  unfold DateTime.ofFields? at read
  split at read
  · next inside =>
    simp only [Bool.and_eq_true, decide_eq_true_eq] at inside
    obtain ⟨⟨⟨⟨⟨valid, first⟩, last⟩, hours⟩, minutes⟩, seconds⟩ := inside
    dsimp only at read
    split at read
    · cases read
      exact ⟨⟨date, valid, first, last, rfl⟩, by dsimp only; omega, .inr (by dsimp only; omega)⟩
    · cases read
      exact ⟨⟨date, valid, first, last, rfl⟩, by dsimp only; omega, .inl small⟩
  · cases read

/-- What is read is named. -/
theorem named_of_parse? {text : String} {time : DateTime} (read : DateTime.parse? text = some time) :
    time.Named := by
  simp only [DateTime.parse?, DateTime.scan?, bind, Option.bind_eq_some_iff] at read
  obtain ⟨⟨year, _⟩, -, _, -, ⟨month, _⟩, -, _, -, ⟨day, _⟩, -, ⟨hour, _⟩, -, _, -, ⟨minute, _⟩, -, _,
    -, ⟨second, _⟩, -, ⟨nanos, rest⟩, fraction, read⟩ := read
  split at read
  · exact named_of_ofFields? (nanos_lt_of_scanFraction fraction) read
  · cases read

/-! ### Cells and texts -/

/-- A timestamp cell keeps a date-time, unless it is in a leap second. -/
theorem toDateTime?_toInstant {time : DateTime} (named : time.Named) :
    time.toInstant.toDateTime? = if time.nanos < 1000000000 then some time else none := by
  obtain ⟨⟨date, valid, first, last, onDay⟩, inDay, inSecond⟩ := named
  have range := dayNumber_mem_range valid first last
  rw [← onDay] at range
  obtain ⟨day, second, nanos⟩ := time
  simp only at inDay inSecond range
  unfold DateTime.toInstant DateTime.epochSecond Instant.toDateTime?
  dsimp only
  by_cases regular : nanos < 1000000000
  · have seconds : ((day * 86400 + second) * 1000 + (nanos : Int) / 1000000) / 1000 =
        day * 86400 + second := by omega
    have days : (day * 86400 + (second : Int)) / 86400 = day := by omega
    have rest : ((day * 86400 + (second : Int)) % 86400).toNat = second := by omega
    have short : ¬(2000000000 ≤ nanos) := by omega
    have notLong : ¬(1000000000 ≤ nanos) := by omega
    have early : ¬(day < (Date.mk firstYear 1 1).dayNumber) := by omega
    have late : ¬((Date.mk lastYear 12 31).dayNumber < day) := by omega
    simp only [seconds, days, rest, short, notLong, early, late, regular, decide_false,
      Bool.false_and, Bool.or_self, Bool.false_eq_true, if_false, if_true]
  -- The milliseconds of a leap second reach into the next minute, which does not begin with one.
  · have seconds : ((day * 86400 + second) * 1000 + (nanos : Int) / 1000000) / 1000 =
        day * 86400 + second + 1 := by omega
    have minute : ((day * 86400 + (second : Int) + 1) % 86400).toNat % 60 ≠ 59 := by omega
    have long : 1000000000 ≤ nanos := by omega
    have refused : (decide (2000000000 ≤ nanos) || (decide (1000000000 ≤ nanos) &&
        ((day * 86400 + (second : Int) + 1) % 86400).toNat % 60 != 59)) = true := by
      simp [minute, long]
    rw [seconds, if_pos refused, if_neg regular]

/-- The text of a date-time, part by part. -/
theorem toList_format (time : DateTime) :
    time.format.toList =
      formatYear (Date.ofDayNumber time.day).year ++
        ('-' :: (paddedDigits 2 (Date.ofDayNumber time.day).month ++
          '-' :: (paddedDigits 2 (Date.ofDayNumber time.day).day ++
            ' ' :: (paddedDigits 2 (time.second / 3600) ++
              ':' :: paddedDigits 2 (time.second / 60 % 60)))) ++
          ':' :: (paddedDigits 2 (time.second % 60 + time.nanos / 1000000000) ++
            formatFraction (time.nanos % 1000000000))) := by
  simp [DateTime.format]

/-- A year is written in digits behind a sign, if it has one. -/
theorem kind_of_mem_formatYear {year : Int} {c : Char} (among : c ∈ formatYear year) :
    c = '-' ∨ c = '+' ∨ c.isDigit = true := by
  unfold formatYear at among
  dsimp only at among
  split at among
  · obtain rfl | digit := List.mem_cons.mp among
    · exact .inl rfl
    · exact .inr (.inr (isDigit_of_mem_paddedDigits digit))
  · split at among
    · obtain rfl | digit := List.mem_cons.mp among
      · exact .inr (.inl rfl)
      · exact .inr (.inr (isDigit_of_mem_paddedDigits digit))
    · exact .inr (.inr (isDigit_of_mem_paddedDigits among))

/-- A fraction is written in digits behind a point. -/
theorem kind_of_mem_formatFraction {nanos : Nat} {c : Char} (among : c ∈ formatFraction nanos) :
    c = '.' ∨ c.isDigit = true := by
  have pointed : ∀ {width n : Nat}, c ∈ '.' :: paddedDigits width n →
      c = '.' ∨ c.isDigit = true := fun among =>
    (List.mem_cons.mp among).imp id isDigit_of_mem_paddedDigits
  unfold formatFraction at among
  split at among
  · cases among
  · split at among
    · exact pointed among
    · split at among <;> exact pointed among

/-- No character of the text of a date-time is taken for a separator. -/
theorem map_spaceSeparator_format (time : DateTime) :
    time.format.toList.map spaceSeparator = time.format.toList := by
  have digits : ∀ {c : Char}, c.isDigit = true → spaceSeparator c = c := by
    intro c digit
    have notT : c ≠ 'T' := ne_of_isDigit digit rfl
    have notZ : c ≠ 'Z' := ne_of_isDigit digit rfl
    simp [spaceSeparator, notT, notZ]
  have padded : ∀ {width n c}, c ∈ paddedDigits width n → spaceSeparator c = c :=
    fun among => digits (isDigit_of_mem_paddedDigits among)
  have every : ∀ c ∈ time.format.toList, spaceSeparator c = c := by
    rw [toList_format]
    simp only [List.mem_append, List.mem_cons]
    rintro c (year | ((rfl | month | rfl | day | rfl | hour | rfl | minute) |
      (rfl | second | fraction)))
    · obtain rfl | rfl | digit := kind_of_mem_formatYear year
      · rfl
      · rfl
      · exact digits digit
    · rfl
    · exact padded month
    · rfl
    · exact padded day
    · rfl
    · exact padded hour
    · rfl
    · exact padded minute
    · rfl
    · exact padded second
    · obtain rfl | digit := kind_of_mem_formatFraction fraction
      · rfl
      · exact digits digit
  exact (List.map_congr_left every).trans (List.map_id _)

/-- A year is never written as nothing. -/
theorem formatYear_ne_nil (year : Int) : formatYear year ≠ [] := by
  unfold formatYear
  dsimp only
  split
  · nofun
  · split
    · nofun
    · exact paddedDigits_ne_nil 4 _

/-- The text of a date-time has blanks only inside. -/
theorem trim_format (time : DateTime) : trim time.format.toList = time.format.toList := by
  rw [toList_format]
  refine trim_append _ (formatYear_ne_nil _) nofun (fun c among => ?_) fun c among => ?_
  · obtain rfl | rfl | digit := kind_of_mem_formatYear among
    · rfl
    · rfl
    · exact isBlank_of_isDigit digit
  · obtain rfl | among := List.mem_cons.mp among
    · rfl
    · obtain second | fraction := List.mem_append.mp among
      · exact isBlank_of_isDigit (isDigit_of_mem_paddedDigits second)
      · obtain rfl | digit := kind_of_mem_formatFraction fraction
        · rfl
        · exact isBlank_of_isDigit digit

/-- A date-time reads back from its text, unless it is in a leap second. -/
theorem parse?_format {time : DateTime} (named : time.Named) (regular : time.nanos < 1000000000) :
    DateTime.parse? time.format = some time := by
  obtain ⟨⟨date, valid, first, last, onDay⟩, inDay, -⟩ := named
  have back : Date.ofDayNumber time.day = date := by rw [onDay, ofDayNumber_dayNumber valid]
  have within : date.month < 10 ^ 2 ∧ date.day < 10 ^ 2 := by
    have most := daysInMonth_le date.year date.month
    simp only [Date.isValid, Bool.and_eq_true, decide_eq_true_eq] at valid
    omega
  have hour : time.second / 3600 < 10 ^ 2 := by omega
  have minute : time.second / 60 % 60 < 10 ^ 2 := by omega
  have second : time.second % 60 < 10 ^ 2 := by omega
  have whole : time.nanos / 1000000000 = 0 := Nat.div_eq_of_lt regular
  have part : time.nanos % 1000000000 = time.nanos := Nat.mod_eq_of_lt regular
  have two : 0 < 2 := Nat.two_pos
  have year := fun rest => scanYear_formatYear date.year (rfl : '-'.isDigit = false) rest
  -- The text is taken apart field by field, each read back from its padded digits.
  rw [DateTime.parse?, map_spaceSeparator_format, trim_format, toList_format, back, whole, part,
    Nat.add_zero, List.cons_append, List.append_assoc, List.cons_append, List.append_assoc,
    List.cons_append, List.append_assoc, List.cons_append, DateTime.scan?]
  simp only [bind, Option.bind, year, scanChar, if_true,
    scanNumber_paddedDigits two within.1, scanNumber_paddedDigits two within.2, scanNumber_blank,
    scanNumber_paddedDigits two hour, scanNumber_paddedDigits two minute,
    scanNumber_paddedDigits two second, scanFraction_formatFraction regular, List.isEmpty_nil]
  have inside : (date.isValid && decide (firstYear ≤ date.year) && decide (date.year ≤ lastYear) &&
      decide (time.second / 3600 ≤ 23) && decide (time.second / 60 % 60 ≤ 59) &&
      decide (time.second % 60 ≤ 60)) = true := by
    simp only [valid, Bool.true_and, Bool.and_eq_true, decide_eq_true_eq]
    exact ⟨⟨⟨⟨first, last⟩, by omega⟩, by omega⟩, by omega⟩
  have noLeap : time.second % 60 ≠ 60 := by omega
  have clock : time.second / 3600 * 3600 + time.second / 60 % 60 * 60 + time.second % 60 =
      time.second := by omega
  rw [DateTime.ofFields?, if_pos inside, if_neg noLeap, clock, ← onDay]

end Columnar.Time
