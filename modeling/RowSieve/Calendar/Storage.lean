/-
The stored text of days and instants: `YYYY-MM-DD` and `YYYY-MM-DD HH:MM:SS`, followed by a
fraction of three, six or nine digits when there is one. Years outside 0 to 9999 carry a sign.
-/
import RowSieve.Calendar.Instant
import RowSieve.Number.Digits

namespace RowSieve

open RowSieve.Number (padded)

namespace Calendar

/-- A year of four digits, or a sign and at least four digits. -/
def yearText (year : Int) : List Char :=
  if 0 ≤ year ∧ year ≤ 9999 then padded 4 year.toNat
  else (if year < 0 then '-' else '+') :: padded 4 year.natAbs

/-- A fraction of a second, in the fewest of three, six and nine digits; nothing for zero. -/
def fractionText (nano : Nat) : List Char :=
  if nano = 0 then []
  else if nano % 1000000 = 0 then '.' :: padded 3 (nano / 1000000)
  else if nano % 1000 = 0 then '.' :: padded 6 (nano / 1000)
  else '.' :: padded 9 nano

def dayText (d : Day) : List Char :=
  yearText d.year ++ '-' :: padded 2 d.month ++ '-' :: padded 2 d.day

def clockText (c : Clock) : List Char :=
  padded 2 c.hour ++ ':' :: padded 2 c.minute ++ ':' :: padded 2 c.shownSecond ++
    fractionText c.shownNano

/-- The stored text that marks a moment which has not come. -/
def noInstant : String := "0000-00-00 00:00:00"

end Calendar

/-- The stored text of a day. -/
def Day.stored (d : Day) : String := String.ofList (Calendar.dayText d)

/-- The stored text of an instant. -/
def Instant.stored (t : Instant) : String :=
  String.ofList (Calendar.dayText t.day ++ ' ' :: Calendar.clockText t.clock)

end RowSieve
