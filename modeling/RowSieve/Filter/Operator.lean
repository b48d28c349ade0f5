/-
The operators of filter requests: their tokens, the shape of value each one takes, and the
operator that a negative one denies.
-/
namespace RowSieve.Filter

/-- What a filter asserts of a column. -/
inductive Operator where
  | equals
  | notEquals
  | among
  | notAmong
  | contains
  | notContains
  | startsWith
  | endsWith
  | below
  | atMost
  | above
  | atLeast
  | isNull
  | isNotNull
deriving DecidableEq

/-- Operators that take the same shape of value and apply to the same kinds of field. -/
inductive Family where
  | equality
  | membership
  | pattern
  | ordering
  | nullability
deriving DecidableEq

/-- The shape of value an operator takes. -/
inductive Arity where
  | scalarOrList
  | list
  | scalar
  | none
deriving DecidableEq

/-- Whether an operator asserts that matching rows are present or absent. -/
inductive Polarity where
  | positive
  | negative
deriving DecidableEq

namespace Operator

/-- All operators, in the order in which they are listed. -/
def all : List Operator :=
  [equals, notEquals, among, notAmong, contains, notContains, startsWith, endsWith, below, atMost,
   above, atLeast, isNull, isNotNull]

/-- The token of an operator in a request. -/
def token : Operator → String
  | equals => "equals"
  | notEquals => "notEquals"
  | among => "in"
  | notAmong => "notIn"
  | contains => "contains"
  | notContains => "notContains"
  | startsWith => "startsWith"
  | endsWith => "endsWith"
  | below => "lessThan"
  | atMost => "lessThanOrEquals"
  | above => "greaterThan"
  | atLeast => "greaterThanOrEquals"
  | isNull => "isNull"
  | isNotNull => "isNotNull"

/-- The operator of a token; upper and lower case differ. -/
def ofToken? (token : String) : Option Operator := all.find? (·.token == token)

/-- The place of an operator in the list of all. -/
def index (op : Operator) : Nat := all.idxOf op

def family : Operator → Family
  | equals | notEquals => .equality
  | among | notAmong => .membership
  | contains | notContains | startsWith | endsWith => .pattern
  | below | atMost | above | atLeast => .ordering
  | isNull | isNotNull => .nullability

def arity (op : Operator) : Arity :=
  match op.family with
  | .equality | .pattern => .scalarOrList
  | .membership => .list
  | .ordering => .scalar
  | .nullability => .none

/-- Negative operators hold, across a relation, when no related row matches their positive form. -/
def polarity : Operator → Polarity
  | notEquals | notAmong | notContains | isNull => .negative
  | _ => .positive

/-- The operator that a negative one denies; a positive one is its own. -/
def positive : Operator → Operator
  | notEquals => equals
  | notAmong => among
  | notContains => contains
  | isNull => isNotNull
  | op => op

/-- The message for a token that is no operator's. -/
def unknownMessage (token : String) : String := s!"Unknown filter operator '{token}'"

theorem mem_all (op : Operator) : op ∈ all := by cases op <;> decide

theorem ofToken?_token (op : Operator) : ofToken? op.token = some op := by
  cases op <;> rfl

end Operator

end RowSieve.Filter
