/-
Days of the proleptic Gregorian calendar. A `Day` is valid by construction, days are ordered by
year, month and day, and `next?`/`previous?` step over the ends of months and years.

Stored days are counted from noon of the 24th of November 4714 BC. A day has a number, and the day
can be found again from its number. The days that a century leaves out are counted towards year
zero from both sides, so a day long before it is found again as a later one.
-/
namespace RowSieve

/-- Whether the year has a 29th of February. -/
def isLeapYear (year : Int) : Bool :=
  year % 4 == 0 && (year % 100 != 0 || year % 400 == 0)

/-- The number of days of a month. -/
def daysInMonth (year : Int) (month : Nat) : Nat :=
  match month with
  | 2 => if isLeapYear year then 29 else 28
  | 4 | 6 | 9 | 11 => 30
  | _ => 31

/-- The years a day can lie in. -/
def firstYear : Int := -262143
def lastYear : Int := 262142

/-- A day of the calendar. -/
structure Day where
  year : Int
  month : Nat
  day : Nat
  year_mem : firstYear ≤ year ∧ year ≤ lastYear
  month_mem : 1 ≤ month ∧ month ≤ 12
  day_mem : 1 ≤ day ∧ day ≤ daysInMonth year month
deriving DecidableEq

namespace Day

/-- The day with these fields, if there is one. -/
def of? (year : Int) (month day : Nat) : Option Day :=
  if h : (firstYear ≤ year ∧ year ≤ lastYear) ∧ (1 ≤ month ∧ month ≤ 12) ∧
      1 ≤ day ∧ day ≤ daysInMonth year month then
    some ⟨year, month, day, h.1, h.2.1, h.2.2⟩
  else none

/-- The day after. -/
def next? (d : Day) : Option Day :=
  if d.day < daysInMonth d.year d.month then of? d.year d.month (d.day + 1)
  else if d.month < 12 then of? d.year (d.month + 1) 1
  else of? (d.year + 1) 1 1

/-- The day before. -/
def previous? (d : Day) : Option Day :=
  if 1 < d.day then of? d.year d.month (d.day - 1)
  else if 1 < d.month then of? d.year (d.month - 1) (daysInMonth d.year (d.month - 1))
  else of? (d.year - 1) 12 31

/-- The order of the calendar. -/
def before (a b : Day) : Prop :=
  a.year < b.year ∨ a.year = b.year ∧ (a.month < b.month ∨ a.month = b.month ∧ a.day < b.day)

instance (a b : Day) : Decidable (before a b) := by unfold before; infer_instance

theorem of?_fields (d : Day) : of? d.year d.month d.day = some d := by
  simp [of?, d.year_mem, d.month_mem, d.day_mem]

end Day

/-! ## The count of days -/

namespace Calendar

/-- The number of the day, counted so that the number changes at midnight; days past the end of a
month run on into the next. -/
def dayNumber (year : Int) (month day : Nat) : Int :=
  let y := if month ≤ 2 then year - 1 else year
  let m : Int := if month ≤ 2 then month + 12 else month
  let century := y.tdiv 100
  36525 * (y + 4716) / 100 + 306001 * (m + 1) / 10000 + day + (2 - century + century.tdiv 4) - 1524

/-- Year, month and day of a day's number. -/
def ofDayNumber (n : Int) : Int × Nat × Nat :=
  let century := (4 * n - 7468865).tdiv 146097
  let shifted := n + 1 + century - century.tdiv 4 + 1524
  let year := (20 * shifted - 2442) / 7305
  let dayOfYear := shifted - 36525 * year / 100
  let month := 10000 * dayOfYear / 306001
  let day := dayOfYear - 306001 * month / 10000
  let month := if month < 14 then month - 1 else month - 13
  (if 2 < month then year - 4716 else year - 4715, month.toNat, day.toNat)

end Calendar

end RowSieve
