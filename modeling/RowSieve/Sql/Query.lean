/-
A statement's `WHERE` clause under construction. Conditions are added one after another and number
their aliases on from each other.
-/
import RowSieve.Filter.Target
import RowSieve.Sql.Condition

namespace RowSieve.Sql

open RowSieve.Filter (Predicate Target)

/-- The conditions on rows of a table. -/
structure Query where
  joins : Joins
  table : String
  conditions : List Condition
  nextAlias : Alias

namespace Query

/-- A query without conditions. -/
def start (joins : Joins) (table : String) : Query := ⟨joins, table, [], 1⟩

/-- The query with the condition of one more predicate. -/
def add (q : Query) (p : Predicate) : Except Filter.Error Query := do
  let (c, next) ← Condition.ofPredicate q.joins q.table rootAlias q.nextAlias p
  return { q with conditions := q.conditions ++ [c], nextAlias := next }

instance : Target Query where
  add := add
  columnText _ name := qualified rootAlias name

/-- The texts of the conditions. -/
def conditionTexts (q : Query) : List String := q.conditions.map Condition.text

/-- The values of all question marks, in the order of the clause. -/
def params (q : Query) : List Datum := q.conditions.flatMap Condition.params

/-- The clause, or nothing without conditions. -/
def whereClause (q : Query) : String :=
  if q.conditions.isEmpty then "" else "WHERE " ++ " AND ".intercalate q.conditionTexts

end Query

end RowSieve.Sql
