/-
Records: a header with the kind of each value, and behind it the values. A record may hold fewer
values than its table has columns, and those that are not there are null.
-/
import RowSieve.Store.Image.Header
import RowSieve.Number.Shortest
import RowSieve.Text.Utf8

namespace RowSieve.Store

/-- A value in a record. -/
inductive Stored where
  | null
  | integer (n : Int)
  | real (x : Binary64)
  | text (s : List Char)
  | blob (bytes : List UInt8)

namespace Stored

/-- The characters of pairs of bytes; half a pair is left out. -/
def readUtf16 (greatFirst : Bool) : List UInt8 → List Char
  | a :: b :: rest =>
    let unit (a b : UInt8) : Nat :=
      if greatFirst then a.toNat * 256 + b.toNat else b.toNat * 256 + a.toNat
    let n := unit a b
    match rest with
    | c :: d :: behind =>
      let m := unit c d
      if 0xD800 ≤ n ∧ n < 0xDC00 ∧ 0xDC00 ≤ m ∧ m < 0xE000 then
        Char.ofNat ((n - 0xD800) * 0x400 + (m - 0xDC00) + 0x10000) :: readUtf16 greatFirst behind
      else Char.ofNat n :: readUtf16 greatFirst (c :: d :: behind)
    | _ => [Char.ofNat n]
  | _ => []

def readText (e : Image.Encoding) (bytes : List UInt8) : List Char :=
  match e with
  | .utf8 => Text.Utf8.decodeLossy bytes
  | .utf16 greatFirst => readUtf16 greatFirst bytes

/-- The number of bytes of a value of a kind. -/
def width (kind : Nat) : Nat :=
  if 12 ≤ kind then (kind - 12) / 2
  else match kind with
    | 5 => 6
    | 6 | 7 => 8
    | 0 | 8 | 9 | 10 | 11 => 0
    | n => n

/-- The value of a kind at a place. -/
def read (e : Image.Encoding) (b : ByteArray) (i kind : Nat) : Stored :=
  if 12 ≤ kind then
    let bytes := Bytes.slice b i (i + width kind)
    if kind % 2 = 0 then blob bytes else text (readText e bytes)
  else match kind with
    | 0 | 10 | 11 => null
    | 7 =>
      let x : Binary64 := ⟨UInt64.ofNat (Bytes.number b i 8)⟩
      if x.isNaN then null else real x
    | 8 => integer 0
    | 9 => integer 1
    | n => integer (Bytes.signed b i (width n))

/-- The value as a text. -/
def toText? (e : Image.Encoding) : Stored → Option (List Char)
  | null => none
  | integer n => some (Number.intText n)
  | real x => some x.castText.toList
  | text s => some s
  | blob bytes => some (readText e bytes)

end Stored

namespace Record

/-- At most `count` kinds of values from a place on, before `stop`, and the place behind them; there
is one at least. -/
def kinds (b : ByteArray) (i stop : Nat) : (count : Nat) → List Nat × Nat
  | 0 => ([], i)
  | count + 1 =>
    let (kind, next) := Bytes.varying b i
    if next < stop then
      let (more, behind) := kinds b next stop count
      (kind :: more, behind)
    else ([kind], next)

/-- The values of the kinds, one after another. -/
def valuesAt (e : Image.Encoding) (b : ByteArray) (i : Nat) : List Nat → List Stored
  | [] => []
  | kind :: rest => Stored.read e b i kind :: valuesAt e b (i + Stored.width kind) rest

/-- The first `count` values of a record, or all when there are fewer. -/
def values (e : Image.Encoding) (b : ByteArray) (count : Nat) : Except Problem (List Stored) :=
  let (headerSize, i) := Bytes.varying b 0
  if headerSize = 0 ∨ count = 0 then .ok []
  else if b.size < headerSize then .error .malformed
  else
    let (kinds, behind) := kinds b i headerSize count
    let stop := kinds.foldl (fun place kind => place + Stored.width kind) headerSize
    let wholeHeader := headerSize ≤ behind
    if headerSize < behind ∨ b.size < stop ∨ wholeHeader ∧ stop ≠ b.size then .error .malformed
    else .ok (valuesAt e b headerSize kinds)

end Record

end RowSieve.Store
