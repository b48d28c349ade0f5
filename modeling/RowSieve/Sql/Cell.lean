/-
Values bound as parameters of a statement, and the text they are shown as; stored values and their
order. Nothing compares with null; numbers compare by their exact value and come before texts,
which compare by their bytes.
-/
import RowSieve.Number.Shortest
import RowSieve.Sql.Truth
import RowSieve.Text.Pieces

namespace RowSieve.Sql

/-- A value bound as a parameter. -/
inductive Datum where
  | text (s : String)
  | integer (n : Int)
  | real (x : Binary64)
  | bool (b : Bool)
deriving DecidableEq

namespace Datum

/-- The value without quotes. -/
def plain : Datum → String
  | text s => s
  | integer n => String.ofList (Number.intText n)
  | real x => x.plainText
  | bool true => "true"
  | bool false => "false"

/-- The value as it is shown: a text in single quotes. -/
def shown : Datum → String
  | text s => s!"'{s}'"
  | d => d.plain

end Datum

/-! ## Stored values -/

/-- A stored value. -/
inductive Cell where
  | null
  | integer (n : Int)
  | real (x : Binary64)
  | text (s : String)
deriving DecidableEq

namespace Cell

/-- A parameter as a value: truth is one or zero. -/
def ofDatum : Datum → Cell
  | .text s => text s
  | .integer n => integer n
  | .real x => if x.isNaN then null else real x
  | .bool b => integer (if b then 1 else 0)

/-- The order of texts by their bytes. -/
def compareTexts (s t : String) : Ordering :=
  if s = t then .eq else if Text.lt s.toList t.toList then .lt else .gt

/-- The order of two values; none when one is null. -/
def compare? : Cell → Cell → Option Ordering
  | null, _ | _, null => none
  | integer m, integer n => some (compare m n)
  | real x, real y => some (x.compareTo y)
  | real x, integer n => some (x.compareInt n)
  | integer m, real y => some (y.compareInt m).swap
  | text s, text t => some (compareTexts s t)
  | text _, _ => some .gt
  | _, text _ => some .lt

/-- Whether two values are the same, as far as a statement can tell. -/
def equal (a b : Cell) : Truth :=
  match a.compare? b with
  | some o => .ofBool (o == .eq)
  | none => .unknown

def isNull : Cell → Bool
  | null => true
  | _ => false

/-- The value as text; null has none. -/
def toText? : Cell → Option String
  | null => none
  | integer n => some (String.ofList (Number.intText n))
  | real x => some x.castText
  | text s => some s

end Cell

/-- A text up to its first character of code zero, which ends it for functions of a statement. -/
def untilZero (s : List Char) : List Char := s.takeWhile (· ≠ '\x00')

end RowSieve.Sql
