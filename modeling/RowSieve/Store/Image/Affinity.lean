/-
How columns treat values. The type that a column is declared with says what becomes of a value
before it is stored or compared, and its collation says which texts are the same.
-/
import RowSieve.Number.Decimal
import RowSieve.Number.Integer
import RowSieve.Store.Image.Record

namespace RowSieve.Store

/-- What a column does to a value. -/
inductive Affinity where
  | none
  | text
  | real
  | otherNumber
deriving DecidableEq

namespace Affinity

/-- The affinity of a column of a declared type. -/
def ofType (type : List Char) : Affinity :=
  let holds (parts : List String) : Bool :=
    parts.any fun part => Text.contains part.toList (type.map Text.foldCase)
  if holds ["int"] then otherNumber
  else if holds ["char", "clob", "text"] then text
  else if type.isEmpty || holds ["blob"] then none
  else if holds ["real", "floa", "doub"] then real
  else otherNumber

/-- The spaces that may surround a number. -/
def isSpace (c : Char) : Bool := c == ' ' || '\t' ≤ c && c ≤ '\r'

/-- The number that a text writes, as an integer if it is one. -/
def number? (s : List Char) : Option Stored :=
  let trimmed := ((s.dropWhile isSpace).reverse.dropWhile isSpace).reverse
  match Number.readInteger .signed64 trimmed with
  | .ok n => some (.integer n)
  | .error _ =>
    if !trimmed.any Number.isDigit then Option.none
    else (Binary64.read? trimmed).map fun x =>
      let whole : Int := if x.negative then -(x.wholePart : Int) else x.wholePart
      if x.compareInt whole == .eq && (Number.Bounds.signed64.check whole).isOk then
        .integer whole
      else .real x

/-- What becomes of a value. -/
def apply (a : Affinity) (e : Image.Encoding) (v : Stored) : Stored :=
  match a, v with
  | text, .integer _ | text, .real _ => ((v.toText? e).map Stored.text).getD v
  | otherNumber, .text s | real, .text s => (number? s).getD v
  | real, .integer n => .real (.ofInt n)
  | _, v => v

def isNumber (a : Affinity) : Bool := a == .real || a == .otherNumber

/-- What becomes of a value of one affinity that is compared with one of another. -/
def meet (own other : Affinity) (v : Stored) : Stored :=
  if other.isNumber && !own.isNumber || other == .text && own == .none then other.apply .utf8 v
  else v

end Affinity

/-! ## Collations -/

/-- Which texts are the same. -/
inductive Collation where
  | exact
  /-- The case of ASCII letters does not count. -/
  | caseless
  /-- Spaces at the end do not count. -/
  | trimmed

namespace Collation

def ofName? (name : List Char) : Option Collation :=
  match String.ofList (name.map Text.foldCase) with
  | "binary" => some exact
  | "nocase" => some caseless
  | "rtrim" => some trimmed
  | _ => none

/-- What counts of a text. -/
def key (c : Collation) (s : List Char) : List Char :=
  match c with
  | exact => s
  | caseless => s.map Text.foldCase
  | trimmed => (s.reverse.dropWhile (· == ' ')).reverse

end Collation

namespace Stored

/-- Whether two values are the same; null is the same as nothing. -/
def isSame (c : Collation) : Stored → Stored → Bool
  | integer m, integer n => m == n
  | real x, real y => x.compareTo y == .eq
  | real x, integer n | integer n, real x => x.compareInt n == .eq
  | text s, text t => c.key s == c.key t
  | blob a, blob b => a == b
  | _, _ => false

/-- The order of two values: numbers, texts, bytes. Null has no place in it. -/
def compare? : Stored → Stored → Option Ordering
  | null, _ | _, null => none
  | integer m, integer n => some (compare m n)
  | real x, real y => some (x.compareTo y)
  | real x, integer n => some (x.compareInt n)
  | integer m, real y => some (y.compareInt m).swap
  | text s, text t => some (if s == t then .eq else if Text.lt s t then .lt else .gt)
  | blob a, blob b =>
    some (if a == b then .eq else if a.map UInt8.toNat < b.map UInt8.toNat then .lt else .gt)
  | blob _, _ | text _, _ => some .gt
  | _, _ => some .lt

/-- Whether the number that a text begins with is zero. -/
def beginsWithZero (s : List Char) : Bool :=
  let rest := s.dropWhile Affinity.isSpace
  let rest := if rest.head? == some '-' || rest.head? == some '+' then rest.drop 1 else rest
  let whole := rest.takeWhile Number.isDigit
  let fraction := match rest.drop whole.length with
    | '.' :: more => more.takeWhile Number.isDigit
    | _ => []
  (whole ++ fraction).all (· == '0')

/-- Whether a rule that gives the value is broken. -/
def isFalse : Stored → Bool
  | null => false
  | integer n => n == 0
  | real x => x.isZero
  | text s => beginsWithZero s
  | blob bytes => beginsWithZero (bytes.map fun b => Char.ofNat b.toNat)

end Stored

end RowSieve.Store
