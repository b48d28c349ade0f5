/-
Reading a binary number from decimal text: a sign, digits with or without a point, and an
exponent, or the words for infinity and not-a-number in any case. The exact decimal is rounded
once.
-/
import RowSieve.Number.Shortest
import RowSieve.Text.Pieces

namespace RowSieve

namespace Number

/-- The greatest and least powers of ten a finite, non-zero number can lie at. -/
def decadeLimit : Nat := 400

/-- The number nearest to `digits × 10 ^ exponent`. -/
def ofDecimal (neg : Bool) (digits : Nat) (exponent : Int) : Binary64 :=
  let top : Int := digitCount digits + exponent
  if digits = 0 ∨ top < -(decadeLimit : Int) then Binary64.ofMagnitude neg 0
  else if (decadeLimit : Int) < top then .infinity neg
  else
    let (num, den) := Decimal.ratio ⟨digits, exponent⟩
    Binary64.ofRatio neg num den

/-- An exponent that fills the rest of the text; no text is exponent zero. -/
def exponent? (s : List Char) : Option Int :=
  match s with
  | [] => some 0
  | 'e' :: rest | 'E' :: rest =>
    let (sign, ds) : Int × List Char := match rest with
      | '-' :: ds => (-1, ds)
      | '+' :: ds => (1, ds)
      | ds => (1, ds)
    if ds.isEmpty ∨ !ds.all isDigit then none else some (sign * ofDigits 0 ds)
  | _ => none

/-- The words that stand for numbers, in lower case. -/
def word? (neg : Bool) (s : List Char) : Option Binary64 :=
  match String.ofList (s.map Text.foldCase) with
  | "inf" | "infinity" => some (.infinity neg)
  | "nan" => some .nan
  | _ => none

/-- A number without a sign. -/
def unsigned? (neg : Bool) (s : List Char) : Option Binary64 :=
  let (whole, rest) := takeDigits s.length s
  let (part, rest) := match rest with
    | '.' :: tail => takeDigits tail.length tail
    | _ => ([], rest)
  if whole.isEmpty ∧ part.isEmpty then word? neg s
  else do
    let e ← exponent? rest
    pure (ofDecimal neg (ofDigits 0 (whole ++ part)) (e - part.length))

end Number

/-- The number that a whole text writes. -/
def Binary64.read? (s : List Char) : Option Binary64 :=
  match s with
  | '-' :: rest => Number.unsigned? true rest
  | '+' :: rest => Number.unsigned? false rest
  | _ => Number.unsigned? false s

end RowSieve
