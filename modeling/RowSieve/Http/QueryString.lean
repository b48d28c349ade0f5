/-
Query strings: pairs between `&`, name and value parted by the first `=`, with `+` for a space and
`%` before two hexadecimal digits for a byte. A `%` without them stands for itself, and bytes that
are no text are replaced.
-/
import RowSieve.Text.Pieces
import RowSieve.Text.Utf8

namespace RowSieve.Http

/-- The value of a hexadecimal digit. -/
def hexByte? (b : UInt8) : Option Nat :=
  let n := b.toNat
  if 0x30 ≤ n ∧ n ≤ 0x39 then some (n - 0x30)
  else if 0x41 ≤ n ∧ n ≤ 0x46 then some (n - 0x41 + 10)
  else if 0x61 ≤ n ∧ n ≤ 0x66 then some (n - 0x61 + 10)
  else none

def plusByte : UInt8 := 0x2B
def percentByte : UInt8 := 0x25
def spaceByte : UInt8 := 0x20

/-- The bytes that a name or a value stands for. -/
def decodeBytes : List UInt8 → List UInt8
  | [] => []
  | b :: rest =>
    if b = plusByte then spaceByte :: decodeBytes rest
    else if b = percentByte then
      match rest with
      | h :: l :: behind =>
        match hexByte? h, hexByte? l with
        | some h, some l => UInt8.ofNat (h * 16 + l) :: decodeBytes behind
        | _, _ => b :: decodeBytes (h :: l :: behind)
      | rest => b :: decodeBytes rest
    else b :: decodeBytes rest
termination_by bytes => bytes.length

/-- The text that a name or a value stands for. -/
def decodeText (s : List Char) : String :=
  String.ofList (Text.Utf8.decodeLossy (decodeBytes (Text.Utf8.encode s)))

/-- Name and value of a pair. -/
def decodePair (s : List Char) : String × String :=
  let (name, value) := (Text.cut? '=' s).getD (s, [])
  (decodeText name, decodeText value)

/-- The pairs of a query string; empty ones are left out. -/
def decodeQuery (query : String) : List (String × String) :=
  ((Text.split '&' query.toList).filter (!·.isEmpty)).map decodePair

/-- What follows scheme and host in an address that begins with them. -/
def behindHost? (s : List Char) : Option (List Char) :=
  let behindScheme := s.dropWhile fun c => c ≠ ':' ∧ c ≠ '/' ∧ c ≠ '?'
  (Text.after? [':', '/', '/'] behindScheme).map fun behind =>
    behind.dropWhile fun c => c ≠ '/' ∧ c ≠ '?'

/-- Path and query, parted by the first question mark. -/
def splitQuery (s : List Char) : List Char × List Char := (Text.cut? '?' s).getD (s, [])

/-- The path and the query of an address; what follows a `#` is left out. Behind a host no path is
the shortest one. An address that is neither a path nor the asterisk nor has a scheme is the name
of a host, and has neither path nor query. -/
def splitAddress (address : String) : String × String :=
  let s := address.toList.takeWhile (· ≠ '#')
  let (path, query) := match behindHost? s with
    | some behind =>
      let (path, query) := splitQuery behind
      (if path.isEmpty then ['/'] else path, query)
    | none => if s.head? = some '/' ∨ s = ['*'] then splitQuery s else ([], [])
  (String.ofList path, String.ofList query)

end RowSieve.Http
