/-
The order of a listing: a column, and `asc` or `desc` behind a colon; without it the order falls.
-/
import RowSieve.Http.Error
import RowSieve.Text.Pieces

namespace RowSieve.Http

inductive Direction where
  | rising
  | falling
deriving DecidableEq

def Direction.keyword : Direction → String
  | rising => "ASC"
  | falling => "DESC"

/-- A column and the direction in which it is ordered. -/
structure Order where
  column : String
  direction : Direction
deriving DecidableEq

namespace Order

/-- The order that a text asks for, by one of the columns given. -/
def read (text : String) (columns : List String) : Except Error Order := do
  let (column, direction) ←
    match (Text.split ':' text.toList).map String.ofList with
    | [column] => Except.ok (column, Direction.falling)
    | [column, "asc"] => Except.ok (column, Direction.rising)
    | [column, "desc"] => Except.ok (column, Direction.falling)
    | _ => Except.error (Error.badRequest "INVALID_ORDER"
        "Invalid order_by format. Use 'column' or 'column:asc' or 'column:desc'")
  if column ∈ columns then .ok ⟨column, direction⟩
  else .error (.badRequest "INVALID_ORDER_COLUMN" s!"Cannot order by: {column}")

/-- The order as it stands in a statement. -/
def text (o : Order) (columnText : String → String) : String :=
  columnText o.column ++ " " ++ o.direction.keyword

end Order

end RowSieve.Http
