/-
Filter requests as they arrive: a key, the token of an operator, and a value that may be missing,
one scalar, or a list of scalars.
-/
import RowSieve.Json.Value

namespace RowSieve.Filter

/-- One value as it arrived. -/
inductive Scalar where
  | bool (b : Bool)
  | number (n : JsonNumber)
  | text (s : String)
deriving DecidableEq

/-- The text of a scalar, in messages and where text is wanted. -/
def Scalar.asText : Scalar → String
  | bool true => "true"
  | bool false => "false"
  | number n => n.text
  | text s => s

/-- The value of a request. -/
inductive RequestValue where
  | list (items : List Scalar)
  | scalar (s : Scalar)
deriving DecidableEq

/-- The text of a value; a list stands in brackets. -/
def RequestValue.shown : RequestValue → String
  | scalar s => s.asText
  | list items => "[" ++ ", ".intercalate (items.map Scalar.asText) ++ "]"

/-- One entry of a filter. -/
structure Request where
  key : String
  operator : String
  value? : Option RequestValue
deriving DecidableEq

end RowSieve.Filter
