/-
Addresses of the internet protocol as they are written: four decimal numbers below 256, or eight
hexadecimal groups of which a run may be left out as `::` and the last two written as four decimal
numbers. A server can listen at the addresses of its own machine.
-/
import RowSieve.Json.Scan
import RowSieve.Text.Pieces

namespace RowSieve.Service

/-- An address. -/
inductive Address where
  | four (a b c d : Nat)
  | six (groups : List Nat)
deriving DecidableEq

namespace Address

/-- A number of at most `most` digits, which are below `base`, and the text behind it. Without
`zeros` it does not begin with a zero unless it is zero. -/
def number? (base most limit : Nat) (zeros : Bool) (s : List Char) : Option (Nat × List Char) :=
  let isDigit (c : Char) : Bool := (Json.Reader.hexValue? c).any (· < base)
  let digits := s.takeWhile isDigit
  let n := digits.foldl (fun acc c => acc * base + (Json.Reader.hexValue? c).getD 0) 0
  if digits.isEmpty || most < digits.length || limit ≤ n then none
  else if !zeros && 1 < digits.length && digits.head? == some '0' then none
  else some (n, s.dropWhile isDigit)

/-- What follows a separator; nothing has to be there before the first part. -/
def separated? (c : Char) (first : Bool) (s : List Char) : Option (List Char) :=
  if first then some s else Text.after? [c] s

/-- `count` decimal numbers, parted by points. -/
def decimals? : (count : Nat) → (first : Bool) → List Char → Option (List Nat × List Char)
  | 0, _, s => some ([], s)
  | count + 1, first, s => do
    let (n, s) ← number? 10 3 256 false (← separated? '.' first s)
    let (rest, s) ← decimals? count false s
    return (n :: rest, s)

/-- The two groups that four decimal numbers stand for. -/
def groupsOf : List Nat → List Nat
  | [a, b, c, d] => [a * 256 + b, c * 256 + d]
  | _ => []

/-- What is read of a run of groups. -/
structure Run where
  groups : List Nat
  /-- Whether the run ends in decimal numbers. -/
  decimal : Bool
  rest : List Char

/-- As many groups as there are, up to `count`. -/
def run : (count : Nat) → (first : Bool) → List Char → Run
  | 0, _, s => ⟨[], false, s⟩
  | count + 1, first, s =>
    let decimal? := if count = 0 then none else (separated? ':' first s).bind (decimals? 4 true)
    match decimal? with
    | some (ns, rest) => ⟨groupsOf ns, true, rest⟩
    | none =>
      match (separated? ':' first s).bind (number? 16 4 65536 true) with
      | none => ⟨[], false, s⟩
      | some (n, s) =>
        let r := run count false s
        { r with groups := n :: r.groups }

/-- An address of four numbers. -/
def four? (s : List Char) : Option Address :=
  match decimals? 4 true s with
  | some ([a, b, c, d], []) => some (four a b c d)
  | _ => none

/-- An address of eight groups. -/
def six? (s : List Char) : Option Address :=
  let head := run 8 true s
  if head.groups.length = 8 then if head.rest.isEmpty then some (six head.groups) else none
  else if head.decimal then none
  else do
    let s ← Text.after? [':', ':'] head.rest
    let tail := run (7 - head.groups.length) true s
    if tail.rest.isEmpty then
      let missing := 8 - head.groups.length - tail.groups.length
      some (six (head.groups ++ List.replicate missing 0 ++ tail.groups))
    else none

/-- The address that a text writes. -/
def read? (s : List Char) : Option Address := (four? s).or (six? s)

/-! ## Listening -/

/-- Whether an address of four numbers is one of the machine, or stands for several machines. -/
def isOpenFour (a b c d : Nat) : Bool :=
  a == 127 || (a == 0 && b == 0 && c == 0 && d == 0) || (224 ≤ a && a < 240) ||
    (a == 255 && b == 255 && c == 255 && d == 255)

/-- Whether a server can listen at the address. -/
def isOpen : Address → Bool
  | four a b c d => isOpenFour a b c d
  | six [0, 0, 0, 0, 0, 0, 0, n] => n ≤ 1
  | six [0, 0, 0, 0, 0, 0xFFFF, m, n] => isOpenFour (m / 256) (m % 256) (n / 256) (n % 256)
  | six _ => false

end Address

/-- Why a server cannot listen where it should. -/
inductive AddressError where
  | malformed
  | notOpen
deriving DecidableEq

def AddressError.message : AddressError → String
  | malformed => "invalid IP address syntax"
  | notOpen => "Cannot assign requested address (os error 99)"

/-- The address of a host at which a server can listen. -/
def Address.ofHost (host : String) : Except AddressError Address :=
  match Address.read? host.toList with
  | none => .error .malformed
  | some a => if a.isOpen then .ok a else .error .notOpen

end RowSieve.Service
