/-
The joins between tables. A relation of a table leads from its rows to the rows of a target whose
foreign key equals the local key; of two joins with one table and name the later one counts.
-/
namespace RowSieve.Sql

/-- A join: rows of the target belong to a row when `foreignKey` there equals `localKey` here. -/
structure Join where
  target : String
  localKey : String
  foreignKey : String
deriving DecidableEq

/-- The named joins of each table, the latest first. -/
structure Joins where
  entries : List ((String × String) × Join)

namespace Joins

def empty : Joins := ⟨[]⟩

/-- The joins with one more, which counts from now on. -/
def add (js : Joins) (table name : String) (join : Join) : Joins :=
  ⟨((table, name), join) :: js.entries⟩

/-- The join of a table's relation. -/
def find? (js : Joins) (table name : String) : Option Join := js.entries.lookup (table, name)

/-- The table at the end of a chain of relations, or the first relation without a join. -/
def walk (js : Joins) (table : String) : (relations : List String) → Except String String
  | [] => .ok table
  | r :: rest =>
    match js.find? table r with
    | some join => js.walk join.target rest
    | none => .error r

end Joins

end RowSieve.Sql
