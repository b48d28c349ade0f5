/-
Reading days and instants from text.

A day is `YYYY-MM-DD`. An instant is a full moment with an offset (`YYYY-MM-DDTHH:MM:SS[.f]` and
`Z` or `±HH:MM`), a moment of universal time without one (seconds and fraction may be missing),
or a day, which stands for its midnight. In the forms without an offset every field may have
blanks in front, month to second may have one digit, and a year with a sign may have any number
of digits.
-/
import RowSieve.Calendar.Instant
import RowSieve.Number.Digits
import RowSieve.Text.Pieces

namespace RowSieve.Calendar

open RowSieve.Number (takeDigits number? ofDigits isDigit)
open RowSieve.Text (trim trimStart)

/-! ## Parts of a text -/

/-- The text after the character `c`, if it starts with it. -/
def mark? (c : Char) : List Char → Option (List Char)
  | [] => none
  | x :: xs => if x = c then some xs else none

/-- A field of one or two digits, at least `lo` and at most `hi`, blanks before it skipped. -/
def field? (lo hi : Nat) (s : List Char) : Option (Nat × List Char) := do
  let (n, rest) ← number? 1 2 (trimStart s)
  if lo ≤ n ∧ n ≤ hi then some (n, rest) else none

/-- A year: up to four digits, or any number of them after a sign. -/
def year? (s : List Char) : Option (Int × List Char) :=
  match trimStart s with
  | '-' :: rest => (number? 1 rest.length rest).map fun (n, rest) => (-(n : Int), rest)
  | '+' :: rest => (number? 1 rest.length rest).map fun (n, rest) => ((n : Int), rest)
  | rest => (number? 1 4 rest).map fun (n, rest) => ((n : Int), rest)

/-- The digits after a point as nanoseconds; those after the ninth are dropped. -/
def nanos? (s : List Char) : Option (Nat × List Char) :=
  let (ds, rest) := takeDigits 9 s
  if ds.isEmpty then none
  else some (ofDigits 0 ds * Nat.pow 10 (9 - ds.length), rest.dropWhile isDigit)

/-- A fraction of a second, which may be missing. -/
def fraction? (s : List Char) : Option (Nat × List Char) :=
  match s with
  | '.' :: rest => nanos? rest
  | _ => some (0, s)

/-- What is read, provided that nothing follows it. -/
def whole? {α : Type} : Option (α × List Char) → Option α
  | some (a, []) => some a
  | _ => none

/-! ## Forms without an offset -/

/-- The fields of a day and the text after it. -/
def dayPart? (s : List Char) : Option ((Int × Nat × Nat) × List Char) := do
  let (y, s) ← year? s
  let s ← mark? '-' s
  let (m, s) ← field? 1 12 s
  let s ← mark? '-' s
  let (d, s) ← field? 1 31 s
  pure ((y, m, d), s)

/-- A day and nothing after it. -/
def plainDay? (s : List Char) : Option Day := do
  let (y, m, d) ← whole? (dayPart? s)
  Day.of? y m d

/-- The second and the fraction of a time, both of which may be missing. -/
def secondPart? (s : List Char) : Option ((Nat × Nat) × List Char) :=
  match s with
  | [] => some ((0, 0), [])
  | _ => do
    let s ← mark? ':' s
    let (sec, s) ← field? 0 60 s
    let (nano, s) ← fraction? s
    pure ((sec, nano), s)

/-- A day and a time, with `T` or blanks between them. -/
def plainInstant? (s : List Char) : Option Instant := do
  let ((y, m, d), s) ← dayPart? s
  let s := (mark? 'T' s).getD s
  let (h, s) ← field? 0 23 s
  let s ← mark? ':' s
  let (mi, s) ← field? 0 59 s
  let (sec, nano) ← whole? (secondPart? s)
  let day ← Day.of? y m d
  let clock ← Clock.of? h mi sec nano
  pure ⟨day, clock⟩

/-! ## The form with an offset -/

/-- An offset in minutes: `Z`, or a sign, two digits, a colon and two digits. -/
def offset? (s : List Char) : Option (Int × List Char) :=
  match s with
  | 'Z' :: rest | 'z' :: rest => some (0, rest)
  | c :: rest => do
    let sign : Int ← if c = '+' then some 1 else if c = '-' ∨ c = '\u2212' then some (-1) else none
    let (h, rest) ← number? 2 2 rest
    let rest ← mark? ':' rest
    let (m, rest) ← number? 2 2 rest
    if m < 60 ∧ h < 24 then some (sign * (h * 60 + m), rest) else none
  | [] => none

/-- The separator of day and time in the form with an offset. -/
def separator? : List Char → Option (List Char)
  | 'T' :: rest | 't' :: rest | ' ' :: rest => some rest
  | _ => none

/-- A moment with an offset; every field has its full width. -/
def offsetInstant? (s : List Char) : Option Instant := do
  let (y, s) ← number? 4 4 s
  let s ← mark? '-' s
  let (m, s) ← number? 2 2 s
  let s ← mark? '-' s
  let (d, s) ← number? 2 2 s
  let s ← separator? s
  let (h, s) ← number? 2 2 s
  let s ← mark? ':' s
  let (mi, s) ← number? 2 2 s
  let s ← mark? ':' s
  let (sec, s) ← number? 2 2 s
  let (nano, s) ← fraction? s
  let ahead ← whole? (offset? s)
  let day ← Day.of? y m d
  let clock ← Clock.of? h mi sec nano
  Instant.ofLocal? day clock ahead

end RowSieve.Calendar

namespace RowSieve

open RowSieve.Calendar

/-- The instant that a text names. -/
def Instant.read? (text : String) : Option Instant :=
  let s := Text.trim text.toList
  (offsetInstant? s).or ((plainInstant? s).or ((plainDay? s).map .midnight))

/-- The day that a text names; of an instant, its day of universal time. -/
def Day.read? (text : String) : Option Day :=
  (plainDay? (Text.trim text.toList)).or ((Instant.read? text).map (·.day))

end RowSieve
