/-
Decimal digits: reading runs of them, and writing natural numbers with a least width.
-/
namespace RowSieve.Number

/-- The value of a decimal digit. -/
def digit? (c : Char) : Option Nat :=
  if '0' ≤ c ∧ c ≤ '9' then some (c.toNat - '0'.toNat) else none

def isDigit (c : Char) : Bool := (digit? c).isSome

/-- The decimal digit of a number below ten. -/
def digitChar (n : Nat) : Char := Char.ofNat ('0'.toNat + n % 10)

/-- The number a run of digits continues from `acc`; other characters count as zero. -/
def ofDigits (acc : Nat) : List Char → Nat
  | [] => acc
  | c :: cs => ofDigits (acc * 10 + (digit? c).getD 0) cs

/-- The decimal digits of a number, without leading zeros but at least one. -/
def toDigits (n : Nat) : List Char :=
  if n < 10 then [digitChar n] else toDigits (n / 10) ++ [digitChar n]
termination_by n

/-- The digits of a number, with zeros in front up to the given width. -/
def padded (width n : Nat) : List Char :=
  let ds := toDigits n
  List.replicate (width - ds.length) '0' ++ ds

/-- An integer in decimal. -/
def intText (n : Int) : List Char :=
  if n < 0 then '-' :: toDigits n.natAbs else toDigits n.natAbs

/-- Takes digits off the front, at most `most` of them. -/
def takeDigits : (most : Nat) → List Char → List Char × List Char
  | 0, s => ([], s)
  | _ + 1, [] => ([], [])
  | most + 1, c :: cs =>
    if isDigit c then
      let (ds, rest) := takeDigits most cs
      (c :: ds, rest)
    else ([], c :: cs)

/-- A number of `least` to `most` digits at the front of the text. -/
def number? (least most : Nat) (s : List Char) : Option (Nat × List Char) :=
  let (ds, rest) := takeDigits most s
  if ds.length < least then none else some (ofDigits 0 ds, rest)

end RowSieve.Number
