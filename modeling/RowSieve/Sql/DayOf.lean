/-
The calendar day of a stored value, as the function `date` of a statement finds it.

A text is a day, which may be followed by a time and an offset, or a time alone, which belongs to
the 1st of January 2000. A number, also one written as text, counts days from noon of the 24th of
November 4714 BC. Times past the end of a day, offsets, and days past the end of a month move on
to the day that is meant. A few words stand for the moment at which the statement runs. Whatever
else a text holds, it has no day.
-/
import RowSieve.Calendar.Day
import RowSieve.Calendar.Storage
import RowSieve.Number.Decimal
import RowSieve.Sql.Cell

namespace RowSieve.Sql

namespace DayOf

open RowSieve.Number (number? takeDigits ofDigits isDigit padded)

def msPerDay : Int := 86400000

/-- The last moment that has a day: the end of the year 9999. -/
def countEnd : Int := 464269060799999

def isSpace (c : Char) : Bool := c == ' ' || ('\t' ≤ c && c ≤ '\r')

def skipSpaces (s : List Char) : List Char := s.dropWhile isSpace

/-- Two digits of a number from `lo` to `hi`. -/
def two? (lo hi : Nat) (s : List Char) : Option (Nat × List Char) := do
  let (n, rest) ← number? 2 2 s
  if lo ≤ n ∧ n ≤ hi then some (n, rest) else none

def mark? (c : Char) : List Char → Option (List Char)
  | [] => none
  | x :: xs => if x = c then some xs else none

/-- A time: milliseconds of the day, if they can be told, and the offset in minutes if one is
written. -/
structure Time where
  ms? : Option Nat
  offset? : Option Int

/-- Ten times a number and a digit more, where the digit is written as a character and rounding
takes place at each step; what has grown past all finite numbers stays there. -/
def grow (x : Binary64) (digit : Char) : Binary64 :=
  if x.isFinite then
    let tenfold := x.mul (.ofInt 10)
    if tenfold.isFinite then (tenfold.add (.ofInt digit.toNat)).add (.ofInt (-48)) else tenfold
  else x

/-- The fraction that digits write behind a point, as it comes out when the digits and their power
of ten are gathered in binary numbers; none when both grow past all finite numbers. -/
def ofFraction? (ds : List Char) : Option Binary64 :=
  let part := ds.foldl grow .zero
  let whole := ds.foldl (fun x _ => if x.isFinite then x.mul (.ofInt 10) else x) (.ofInt 1)
  if whole.isFinite then if part.isFinite then some (part.div whole) else none
  else if part.isFinite then some .zero else none

/-- The milliseconds of a second and a fraction of one, to the nearest; none for a fraction that
is none. The fraction may come out as a second of its own. -/
def milliseconds? (second : Nat) (ds : List Char) : Option Nat := do
  let seconds := (Binary64.ofInt second).add (← ofFraction? ds)
  return ((seconds.mul (.ofInt 1000)).add (Binary64.ofRatio false 1 2)).wholePart

/-- An offset that ends the text, in minutes; none when the text has ended. -/
def offset? (s : List Char) : Option (Option Int) :=
  match skipSpaces s with
  | [] => some none
  | c :: rest =>
    let signed? (sign : Int) : Option (Option Int) := do
      let (h, rest) ← two? 0 14 rest
      let rest ← mark? ':' rest
      let (m, rest) ← two? 0 59 rest
      if (skipSpaces rest).isEmpty then some (some (sign * (h * 60 + m))) else none
    if c = 'Z' ∨ c = 'z' then
      if (skipSpaces rest).isEmpty then some none else none
    else if c = '+' then signed? 1
    else if c = '-' then signed? (-1)
    else none

/-- The digits behind a point. -/
def fractionDigits (s : List Char) : List Char × List Char :=
  match s with
  | '.' :: rest =>
    let (ds, behind) := takeDigits rest.length rest
    if ds.isEmpty then ([], s) else (ds, behind)
  | _ => ([], s)

/-- A time that ends the text. -/
def time? (s : List Char) : Option Time := do
  let (h, s) ← two? 0 24 s
  let s ← mark? ':' s
  let (m, s) ← two? 0 59 s
  let (ms?, s) ← match mark? ':' s with
    | none => some (some 0, s)
    | some s => do
      let (sec, s) ← two? 0 59 s
      let (ds, s) := fractionDigits s
      some (milliseconds? sec ds, s)
  let offset? ← offset? s
  pure ⟨ms?.map (h * 3600000 + m * 60000 + ·), offset?⟩

/-- The text of a day. -/
def dayText (year : Int) (month day : Nat) : List Char :=
  (if year < 0 then ['-'] else []) ++ padded 4 year.natAbs ++
    '-' :: padded 2 month ++ '-' :: padded 2 day

/-- The moment at which a day begins, in milliseconds of the count of days. -/
def startOf (y : Int) (m d : Nat) : Int := Calendar.dayNumber y m d * msPerDay - msPerDay / 2

/-- The day of a moment. -/
def ofMoment? (ms : Int) : Option (List Char) :=
  if 0 ≤ ms ∧ ms ≤ countEnd then
    let (year, month, day) := Calendar.ofDayNumber ((ms + msPerDay / 2) / msPerDay)
    some (dayText year month day)
  else none

/-- A day at the front of the text. -/
def dayPart? (s : List Char) : Option ((Int × Nat × Nat) × List Char) := do
  let (sign, s) : Int × List Char := match s with
    | '-' :: rest => (-1, rest)
    | _ => (1, s)
  let (y, s) ← number? 4 4 s
  let s ← mark? '-' s
  let (m, s) ← two? 1 12 s
  let s ← mark? '-' s
  let (d, s) ← two? 1 31 s
  pure ((sign * y, m, d), s)

/-- A day with or without a time. A day up to the 28th that no offset moves is kept as it is
written, whatever the time. -/
def ofDay? (s : List Char) : Option (Option (List Char)) := do
  let ((y, m, d), s) ← dayPart? s
  let s := s.dropWhile fun c => isSpace c || c == 'T'
  let time : Time ← if s.isEmpty then some ⟨some 0, none⟩ else time? s
  let offset := time.offset?.getD 0
  if y < -4713 then some none
  else some <| do
    let moved ← ofMoment? (startOf y m d + (← time.ms?) - offset * 60000)
    return if offset ≠ 0 ∨ 28 < d then moved else dayText y m d

/-- The day of a number of days. -/
def ofCount? (x : Binary64) : Option (List Char) :=
  let limit : Nat := 53734845
  if x.negative ∧ ¬x.isZero then none
  else if limit * Binary64.unit ≤ x.scale * 10 then none
  else
    ofMoment? ((x.mul (.ofInt msPerDay)).add (Binary64.ofRatio false 1 2)).wholePart

/-- A number that is the whole text but for spaces around it. -/
def count? (s : List Char) : Option Binary64 :=
  let trimmed := ((skipSpaces s).reverse.dropWhile isSpace).reverse
  if trimmed.any isDigit then Binary64.read? trimmed else none

/-- The words for the moment at which a statement runs. -/
def presentWords : List String := ["now", "subsec", "subsecond"]

/-- Whether a text is a word for the moment at which a statement runs, in any case. -/
def isPresent (s : List Char) : Bool :=
  presentWords.any fun word => s.map Text.foldCase == word.toList

/-- The day of a text, read at the moment `now`. -/
def ofText? (now : Int) (s : List Char) : Option (List Char) :=
  match ofDay? s with
  | some day? => day?
  | none => match time? s with
    | some t => do ofMoment? (startOf 2000 1 1 + (← t.ms?) - t.offset?.getD 0 * 60000)
    | none =>
      if isPresent s then if 0 < now then ofMoment? now else none
      else (count? s).bind ofCount?

end DayOf

/-- The calendar day of a stored value, read at the moment `now`, in milliseconds of the count of
days; null when it has none. -/
def Cell.day (now : Int) (c : Cell) : Cell :=
  let day? := match c with
    | .null => none
    | .integer n => DayOf.ofCount? (.ofInt n)
    | .real x => DayOf.ofCount? x
    | .text s => DayOf.ofText? now (untilZero s.toList)
  match day? with
  | some d => .text (String.ofList d)
  | none => .null

end RowSieve.Sql
