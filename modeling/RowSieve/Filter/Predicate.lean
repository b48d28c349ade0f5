/-
Predicates over a row and the rows related to it. Columns are named without their table; a
relation is named, and whoever reads the predicate knows its join.
-/
import RowSieve.Sql.Cell

namespace RowSieve.Filter

open RowSieve.Sql (Datum)

/-- A column, or the calendar day of what it holds. -/
structure Column where
  name : String
  day : Bool
deriving DecidableEq

/-- A comparison of a column with a value. -/
inductive Comparison where
  | eq
  | ne
  | lt
  | le
  | gt
  | ge
deriving DecidableEq

namespace Comparison

def all : List Comparison := [eq, ne, lt, le, gt, ge]

def sign : Comparison → String
  | eq => "="
  | ne => "<>"
  | lt => "<"
  | le => "<="
  | gt => ">"
  | ge => ">="

/-- Whether the comparison holds of values in that order. -/
def holds : Comparison → Ordering → Bool
  | eq, o => o == .eq
  | ne, o => o != .eq
  | lt, o => o == .lt
  | le, o => o != .gt
  | gt, o => o == .gt
  | ge, o => o != .lt

end Comparison

/-- A condition on a row. -/
inductive Predicate where
  | compare (column : Column) (op : Comparison) (value : Datum)
  | among (column : Column) (values : List Datum) (negated : Bool)
  | like (column : Column) (pattern : String) (negated : Bool)
  /-- The column is null, or holds the stored value that stands for null. -/
  | isNull (column : Column) (negated : Bool) (sentinel? : Option Datum)
  | all (items : List Predicate)
  | any (items : List Predicate)
  /-- Some row of the relation satisfies the body. -/
  | having (relation : String) (body : Predicate)
  /-- No row of the relation satisfies the body. -/
  | lacking (relation : String) (body : Predicate)

namespace Predicate

instance : Inhabited Predicate := ⟨all []⟩

/-- All of the predicates; a single one stands for itself. -/
def conj : List Predicate → Predicate
  | [p] => p
  | ps => all ps

/-- Any of the predicates; a single one stands for itself. -/
def disj : List Predicate → Predicate
  | [p] => p
  | ps => any ps

/-- Some row reached through the relations satisfies the leaf. -/
def reach : (relations : List String) → (leaf : Predicate) → Predicate
  | [], leaf => leaf
  | r :: rest, leaf => having r (reach rest leaf)

/-- No row reached through the relations satisfies the leaf; only the first hop is negated. -/
def reachNone : (relations : List String) → (leaf : Predicate) → Predicate
  | [], leaf => leaf
  | r :: rest, leaf => lacking r (reach rest leaf)

end Predicate

end RowSieve.Filter
