/-
Conditions of a statement: predicates whose columns and relations have been resolved. Each scope
of a condition has an alias of its own, each value is a parameter, and the text of a condition
holds a question mark for each parameter, in their order. Names stand between double quotes, with
each double quote in them written twice.
-/
import RowSieve.Filter.Error
import RowSieve.Filter.Predicate
import RowSieve.Sql.Joins

namespace RowSieve.Sql

open RowSieve.Filter (Column Comparison Predicate)

/-- The alias of a scope: zero is the table that is asked for, the others are subqueries. -/
abbrev Alias := Nat

def rootAlias : Alias := 0

def aliasText (a : Alias) : String :=
  if a = 0 then "t0" else "r" ++ String.ofList (Number.toDigits a)

/-- A column of the scope with an alias. -/
structure ColumnRef where
  scope : Alias
  column : Column
deriving DecidableEq

/-- A condition of a statement. -/
inductive Condition where
  | compare (column : ColumnRef) (op : Comparison) (value : Datum)
  | among (column : ColumnRef) (values : List Datum) (negated : Bool)
  | like (column : ColumnRef) (pattern : String) (negated : Bool)
  | isNull (column : ColumnRef) (negated : Bool) (sentinel? : Option Datum)
  | all (items : List Condition)
  | any (items : List Condition)
  /-- Some row of the join's target, under the alias `inner`, belongs to the row of `outer` and
  satisfies the body. -/
  | subquery (negated : Bool) (join : Join) (inner outer : Alias) (body : Condition)

/-! ## Text and parameters -/

/-- The characters of a name between its quotes. -/
def doubleQuotes : List Char → List Char
  | [] => []
  | c :: cs => if c = '"' then '"' :: '"' :: doubleQuotes cs else c :: doubleQuotes cs

/-- A name as a quoted identifier. -/
def quoteIdent (name : String) : String :=
  String.ofList ('"' :: doubleQuotes name.toList ++ ['"'])

/-- A name in the scope of an alias. -/
def qualified (scope : Alias) (name : String) : String := aliasText scope ++ "." ++ quoteIdent name

def ColumnRef.text (c : ColumnRef) : String :=
  let name := qualified c.scope c.column.name
  if c.column.day then "date(" ++ name ++ ")" else name

def notText (negated : Bool) : String := if negated then "NOT " else ""

/-- Texts in parentheses with a word between them, or the text for none of them. -/
def groupText (word ifNone : String) : List String → String
  | [] => ifNone
  | texts => "(" ++ word.intercalate texts ++ ")"

namespace Condition

mutual

/-- The condition as it stands in a statement. -/
def text : Condition → String
  | compare c op _ => c.text ++ " " ++ op.sign ++ " ?"
  | among c values negated =>
    c.text ++ " " ++ notText negated ++ "IN (" ++ ", ".intercalate (values.map fun _ => "?") ++ ")"
  | like c _ negated => c.text ++ " " ++ notText negated ++ "LIKE ? ESCAPE '\\'"
  | isNull c false none => c.text ++ " IS NULL"
  | isNull c true none => c.text ++ " IS NOT NULL"
  | isNull c false (some _) => "(" ++ c.text ++ " IS NULL OR " ++ c.text ++ " = ?)"
  | isNull c true (some _) => "(" ++ c.text ++ " IS NOT NULL AND " ++ c.text ++ " <> ?)"
  | all items => groupText " AND " "1=1" (texts items)
  | any items => groupText " OR " "1=0" (texts items)
  | subquery negated join inner outer body =>
    notText negated ++ "EXISTS (SELECT 1 FROM " ++ quoteIdent join.target ++ " AS " ++
      aliasText inner ++ " WHERE " ++ qualified inner join.foreignKey ++ " = " ++
      qualified outer join.localKey ++ " AND " ++ body.text ++ ")"

def texts : List Condition → List String
  | [] => []
  | c :: rest => c.text :: texts rest

end

mutual

/-- The values of the question marks, in the order of the text. -/
def params : Condition → List Datum
  | compare _ _ value => [value]
  | among _ values _ => values
  | like _ pattern _ => [.text pattern]
  | isNull _ _ sentinel? => sentinel?.toList
  | all items => paramsOfAll items
  | any items => paramsOfAll items
  | subquery _ _ _ _ body => body.params

def paramsOfAll : List Condition → List Datum
  | [] => []
  | c :: rest => c.params ++ paramsOfAll rest

end

end Condition

/-! ## From predicates -/

/-- The join of a relation, or the error that it is missing. -/
def Joins.resolve (joins : Joins) (table relation : String) : Except Filter.Error Join :=
  match joins.find? table relation with
  | some join => .ok join
  | none => .error (.unknownRelation relation table)

mutual

/-- The condition of a predicate on rows of `table` under the alias `scope`, and the next alias
that is free. -/
def Condition.ofPredicate (joins : Joins) (table : String) (scope free : Alias) :
    Predicate → Except Filter.Error (Condition × Alias)
  | .compare c op value => .ok (.compare ⟨scope, c⟩ op value, free)
  | .among c values negated => .ok (.among ⟨scope, c⟩ values negated, free)
  | .like c pattern negated => .ok (.like ⟨scope, c⟩ pattern negated, free)
  | .isNull c negated sentinel? => .ok (.isNull ⟨scope, c⟩ negated sentinel?, free)
  | .all items => do
    let (items, free) ← Condition.ofPredicates joins table scope free items
    return (.all items, free)
  | .any items => do
    let (items, free) ← Condition.ofPredicates joins table scope free items
    return (.any items, free)
  | .having relation body => do
    let join ← joins.resolve table relation
    let (body, next) ← Condition.ofPredicate joins join.target free (free + 1) body
    return (.subquery false join free scope body, next)
  | .lacking relation body => do
    let join ← joins.resolve table relation
    let (body, next) ← Condition.ofPredicate joins join.target free (free + 1) body
    return (.subquery true join free scope body, next)

def Condition.ofPredicates (joins : Joins) (table : String) (scope free : Alias) :
    List Predicate → Except Filter.Error (List Condition × Alias)
  | [] => .ok ([], free)
  | p :: rest => do
    let (c, free) ← Condition.ofPredicate joins table scope free p
    let (cs, free) ← Condition.ofPredicates joins table scope free rest
    return (c :: cs, free)

end

end RowSieve.Sql
