/-
Reading integers within bounds from a whole text: an optional sign and decimal digits. The
first character that is no digit, or that carries the number over a bound, decides the error.
-/
import RowSieve.Number.Digits

namespace RowSieve.Number

/-- Why a text is not an integer within the bounds. -/
inductive IntegerError where
  | empty
  | invalidDigit
  | tooLarge
  | tooSmall
deriving DecidableEq

def IntegerError.message : IntegerError → String
  | .empty => "cannot parse integer from empty string"
  | .invalidDigit => "invalid digit found in string"
  | .tooLarge => "number too large to fit in target type"
  | .tooSmall => "number too small to fit in target type"

/-- The bounds of a kind of integer. -/
structure Bounds where
  lo : Int
  hi : Int

namespace Bounds

def word16 : Bounds := ⟨0, 0xffff⟩
def word32 : Bounds := ⟨0, 0xffffffff⟩
def word64 : Bounds := ⟨0, 0xffffffffffffffff⟩
def signed32 : Bounds := ⟨-0x80000000, 0x7fffffff⟩
def signed64 : Bounds := ⟨-0x8000000000000000, 0x7fffffffffffffff⟩

/-- Whether the bounds leave room for a minus sign. -/
def signed (b : Bounds) : Bool := b.lo < 0

def Contains (b : Bounds) (n : Int) : Prop := b.lo ≤ n ∧ n ≤ b.hi

instance (b : Bounds) (n : Int) : Decidable (b.Contains n) := by
  unfold Contains; infer_instance

/-- The integer itself if it is within the bounds. -/
def check (b : Bounds) (n : Int) : Except IntegerError Int :=
  if n < b.lo then .error .tooSmall else if b.hi < n then .error .tooLarge else .ok n

end Bounds

/-- The magnitude that a run of digits continues from `acc` without passing `limit`. -/
def magnitude? (limit : Nat) (beyond : IntegerError) (acc : Nat) :
    List Char → Except IntegerError Nat
  | [] => .ok acc
  | c :: cs =>
    match digit? c with
    | none => .error .invalidDigit
    | some d =>
      let next := acc * 10 + d
      if limit < next then .error beyond else magnitude? limit beyond next cs

/-- The integer that the whole text writes. -/
def readInteger (b : Bounds) (s : List Char) : Except IntegerError Int :=
  match s with
  | [] => .error .empty
  | ['+'] | ['-'] => .error .invalidDigit
  | c :: rest =>
    if c = '-' ∧ b.signed then
      (magnitude? b.lo.natAbs .tooSmall 0 rest).map fun n => -(n : Int)
    else
      let digits := if c = '+' then rest else c :: rest
      (magnitude? b.hi.natAbs .tooLarge 0 digits).map fun n => (n : Int)

end RowSieve.Number
