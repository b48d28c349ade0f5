/-
JSON values. A number is an integer of 64 bits, signed or unsigned, or else a finite binary
number; the members of an object keep their order.
-/
import RowSieve.Number.Shortest

namespace RowSieve

/-- A number of a JSON text. -/
inductive JsonNumber where
  | integer (n : Int) (bounds : -0x8000000000000000 ≤ n ∧ n < 0x10000000000000000)
  | real (x : Binary64) (finite : x.isFinite = true)
deriving DecidableEq

namespace JsonNumber

/-- The number as it is written. -/
def text : JsonNumber → String
  | integer n _ => String.ofList (Number.intText n)
  | real x _ => x.literal

/-- The integer, if the number is one that fits 64 bits with a sign. -/
def toInt64? : JsonNumber → Option Int
  | integer n _ => if n < 0x8000000000000000 then some n else none
  | real _ _ => none

/-- The nearest binary number. -/
def toBinary64 : JsonNumber → Binary64
  | integer n _ => .ofInt n
  | real x _ => x

/-- A small number as an integer. -/
def ofNat (n : Nat) (h : n < 0x10000000000000000) : JsonNumber := .integer n (by omega)

end JsonNumber

/-- A JSON value. -/
inductive Json where
  | null
  | bool (b : Bool)
  | number (n : JsonNumber)
  | text (s : String)
  | list (items : List Json)
  | object (members : List (String × Json))
deriving Inhabited

namespace Json

/-- The first member of that name, when the value is an object. -/
def member? (name : String) : Json → Option Json
  | object members => members.lookup name
  | _ => none

/-- An integer; one that does not fit 64 bits becomes `null`. -/
def int (n : Int) : Json :=
  if h : -0x8000000000000000 ≤ n ∧ n < 0x10000000000000000 then number (.integer n h) else null

/-- A finite binary number; any other becomes `null`. -/
def real (x : Binary64) : Json :=
  if h : x.isFinite = true then number (.real x h) else null

def texts (items : List String) : Json := list (items.map text)

/-- The value, or `null` for none. -/
def orNull {α : Type} (f : α → Json) : Option α → Json
  | some a => f a
  | none => null

end Json

end RowSieve
