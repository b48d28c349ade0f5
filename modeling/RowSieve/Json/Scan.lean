/-
The parts of a JSON text below its values: words, quoted texts and numbers, once as values and
once only to be passed over. A number is read digit by digit into 64 bits; once they are full,
further digits only move the point, and the result is the product or quotient of two binary
numbers.
-/
import RowSieve.Json.Cursor
import RowSieve.Json.Value

namespace RowSieve.Json.Reader

open RowSieve.Number (digit? isDigit ofDigits)

/-! ## Words -/

/-- The given characters and no others. -/
def word : List Char → Reader Unit
  | [] => return
  | expected :: rest => do
    match ← peek with
    | none => failHere .endInValue
    | some c =>
      if c = expected then do skip; word rest
      else failAhead .identExpected

/-! ## Texts -/

/-- The value of a hexadecimal digit. -/
def hexValue? (c : Char) : Option Nat :=
  if 'a' ≤ c ∧ c ≤ 'f' then some (c.toNat - 'a'.toNat + 10)
  else if 'A' ≤ c ∧ c ≤ 'F' then some (c.toNat - 'A'.toNat + 10)
  else digit? c

/-- Four hexadecimal digits. -/
def hexQuad : Reader Nat := do
  let c ← get
  if hasBytes 4 c.rest then
    match (c.rest.take 4).mapM hexValue? with
    | some ds => do
      skip; skip; skip; skip
      return ds.foldl (fun acc d => acc * 16 + d) 0
    | none => failBehind 4 .invalidEscape
  else failBehind (Text.Utf8.byteLength c.rest) .endInText

/-- Passes over a character that has to follow the first half of a surrogate pair. -/
def pairMark (mark : Char) : Reader Unit := do
  match ← peek with
  | none => failHere .endInText
  | some c => if c = mark then skip else failAhead .hexEscapeEnded

/-- The character behind `\u`; one outside the basic plane takes two escapes. -/
def unicodeEscape : Reader Char := do
  let n ← hexQuad
  if 0xDC00 ≤ n ∧ n ≤ 0xDFFF then failHere .loneSurrogate
  else if n < 0xD800 ∨ 0xDBFF < n then return Char.ofNat n
  else do
    pairMark '\\'
    pairMark 'u'
    let low ← hexQuad
    if low < 0xDC00 ∨ 0xDFFF < low then failHere .loneSurrogate
    else return Char.ofNat ((n - 0xD800) * 0x400 + (low - 0xDC00) + 0x10000)

/-- The character of an escape of one letter. -/
def shortEscape? : Char → Option Char
  | '"' => some '"'
  | '\\' => some '\\'
  | '/' => some '/'
  | 'b' => some '\x08'
  | 'f' => some '\x0c'
  | 'n' => some '\n'
  | 'r' => some '\r'
  | 't' => some '\t'
  | _ => none

/-- The character of the escape behind a backslash. -/
def escape : Reader Char := do
  match ← peek with
  | none => failHere .endInText
  | some 'u' => do skip; unicodeEscape
  | some c => match shortEscape? c with
    | some e => do skip; return e
    | none => failAhead .invalidEscape

/-- Whether a character stands for itself inside quotes. -/
def isPlain (c : Char) : Bool := c != '"' && c != '\\' && 0x20 ≤ c.toNat

/-- The characters up to the closing quote. -/
def textRest : (fuel : Nat) → Reader (List Char)
  | 0 => failHere .endInText
  | fuel + 1 => do
    let plain ← takeWhile isPlain
    match ← peek with
    | none => failHere .endInText
    | some '"' => do skip; return plain
    | some '\\' => do
      skip
      let c ← escape
      let rest ← textRest fuel
      return plain ++ c :: rest
    | some _ => failAhead .controlCharacter

/-- The text behind its opening quote. -/
def text : Reader String := do
  let c ← get
  return String.ofList (← textRest (c.rest.length + 1))

/-- Passes over the escape behind a backslash; halves of surrogate pairs are not looked at. -/
def passEscape : Reader Unit := do
  match ← peek with
  | none => failHere .endInText
  | some 'u' => do skip; discard hexQuad
  | some c => if (shortEscape? c).isSome then skip else failAhead .invalidEscape

def passTextRest : (fuel : Nat) → Reader Unit
  | 0 => failHere .endInText
  | fuel + 1 => do
    discard (takeWhile isPlain)
    match ← peek with
    | none => failHere .endInText
    | some '"' => skip
    | some '\\' => do skip; passEscape; passTextRest fuel
    | some _ => failHere .controlCharacter

/-- Passes over a text behind its opening quote. -/
def passText : Reader Unit := do
  let c ← get
  passTextRest (c.rest.length + 1)

/-! ## Numbers -/

/-- The greatest whole number that digits are collected into. -/
def significandLimit : Nat := 0xffffffffffffffff

/-- The greatest exponent that is told apart. -/
def exponentLimit : Nat := 0x7fffffff

/-- Continues a significand with digits while it fits; gives the digits that were left over. -/
def collect (significand : Nat) : List Char → Nat × List Char
  | [] => (significand, [])
  | c :: cs =>
    let next := significand * 10 + (digit? c).getD 0
    if significandLimit < next then (significand, c :: cs) else collect next cs

/-- The power of ten as a binary number. -/
def powerOfTen (n : Nat) : Binary64 := .ofRatio false (Nat.pow 10 n) 1

/-- A number scaled by a power of ten in binary steps of at most `10 ^ 308`; `none` past the
greatest finite number. -/
def scaled? : (fuel : Nat) → Binary64 → (exponent : Int) → Option Binary64
  | 0, x, _ => some x
  | fuel + 1, x, exponent =>
    if exponent.natAbs ≤ 308 then
      if 0 ≤ exponent then some (x.mul (powerOfTen exponent.toNat))
      else some (x.div (powerOfTen exponent.natAbs))
    else if x.isZero then some x
    else if 0 ≤ exponent then none
    else scaled? fuel (x.div (powerOfTen 308)) (exponent + 308)

/-- A number made of a significand and an exponent of ten. -/
def real (positive : Bool) (significand : Nat) (exponent : Int) : Reader JsonNumber := do
  match scaled? 8 (.ofRatio false significand 1) exponent with
  | none => failHere .numberOutOfRange
  | some x =>
    let x := if positive then x else x.neg
    if h : x.isFinite = true then return .real x h else failHere .numberOutOfRange

/-- A zero of either sign. -/
def realZero (positive : Bool) : JsonNumber :=
  if positive then .real .zero (by decide) else .real (.ofMagnitude true 0) (by decide)

/-- The digits, all of them. -/
def digits : Reader (List Char) := takeWhile isDigit

/-- The part of an exponent behind its `e`, for a number whose point is at `start`. -/
def exponentPart (positive : Bool) (significand : Nat) (start : Int) : Reader JsonNumber := do
  skip
  let up ← match ← peek with
    | some '+' => do skip; pure true
    | some '-' => do skip; pure false
    | _ => pure true
  match ← peek with
  | none => failHere .endInValue
  | some c =>
    if !isDigit c then failAhead .invalidNumber
    else do
      let ds := (← get).rest.takeWhile isDigit
      match firstOverflow 0 ds with
      | some count =>
        if significand ≠ 0 ∧ up then failBehind count .numberOutOfRange
        else do discard digits; return realZero positive
      | none => do
        discard digits
        let e : Int := ofDigits 0 ds
        real positive significand (if up then start + e else start - e)
where
  /-- The number of digits up to the one that carries the exponent over its limit. -/
  firstOverflow (acc : Nat) : List Char → Option Nat
    | [] => none
    | c :: cs =>
      let next := acc * 10 + (digit? c).getD 0
      if exponentLimit < next then some 1 else (firstOverflow next cs).map (· + 1)

/-- What follows the digits of a number, given whether an exponent comes. -/
def exponentOr (positive : Bool) (significand : Nat) (start : Int)
    (otherwise : Reader JsonNumber) : Reader JsonNumber := do
  match ← peek with
  | some 'e' | some 'E' => exponentPart positive significand start
  | _ => otherwise

/-- The part of a number behind its point. -/
def fractionPart (positive : Bool) (significand : Nat) (start : Int) : Reader JsonNumber := do
  skip
  let ds ← digits
  match ds, ← peek with
  | [], none => failAhead .endInValue
  | [], some _ => failAhead .invalidNumber
  | _, _ =>
    let (full, left) := collect significand ds
    let exponent := start - (ds.length - left.length : Nat)
    exponentOr positive full exponent (real positive full exponent)

/-- A number whose sign has been read. -/
def number (positive : Bool) : Reader JsonNumber := do
  match ← peek with
  | none => failHere .endInValue
  | some '0' => do
    skip
    match ← peek with
    | some c => if isDigit c then failAhead .invalidNumber else behindDigits 0
    | none => behindDigits 0
  | some c =>
    if !isDigit c then failAhead .invalidNumber
    else do
      let ds ← digits
      match collect 0 ds with
      | (n, []) => behindDigits n
      | (n, left) => behindLongDigits n left.length
where
  /-- A number whose whole digits fit. -/
  behindDigits (n : Nat) : Reader JsonNumber := do
    match ← peek with
    | some '.' => fractionPart positive n 0
    | _ => exponentOr positive n 0 (whole n)
  /-- A number with more whole digits than fit. -/
  behindLongDigits (n : Nat) (more : Nat) : Reader JsonNumber := do
    match ← peek with
    | some '.' => fractionPart positive n more
    | _ => exponentOr positive n more (real positive n more)
  /-- A number without point and exponent; a negative one is an integer only from `-1` to
  `-2 ^ 63`. -/
  whole (n : Nat) : Reader JsonNumber :=
    if h : positive = true ∧ n < 0x10000000000000000 then return .integer n (by omega)
    else if h : positive = false ∧ 0 < n ∧ n ≤ 0x8000000000000000 then
      return .integer (-n) (by omega)
    else real positive n 0

/-- Passes over at least one digit. -/
def passDigits : Reader Unit := do
  match ← digits with
  | [] => failAhead .invalidNumber
  | _ => return

/-- Passes over an exponent, if one comes. -/
def passExponent : Reader Unit := do
  match ← peek with
  | some 'e' | some 'E' => do
    skip
    match ← peek with
    | some '+' | some '-' => skip
    | _ => pure ()
    passDigits
  | _ => pure ()

/-- Passes over a number whose sign has been passed. -/
def passNumber : Reader Unit := do
  match ← peek with
  | some '0' => do
    skip
    if ((← peek).map isDigit).getD false then failAhead .invalidNumber
  | _ => passDigits
  match ← peek with
  | some '.' => do skip; passDigits; passExponent
  | _ => passExponent

end RowSieve.Json.Reader
