/-
What a condition says of stored rows. A table is a list of rows, a row gives each column a value
and is read at a moment, and a condition is read with a row for each alias in scope. A subquery
asks whether some row of its table belongs to the row outside and satisfies the body; its answer is
never unknown.
-/
import RowSieve.Sql.DayOf
import RowSieve.Sql.Like
import RowSieve.Sql.Limits

namespace RowSieve.Sql

open RowSieve.Filter (Comparison)

/-- A row as it is read: the values of its columns, and the moment at which a statement reads them,
in milliseconds of the count of days. -/
structure Row where
  cell : String → Cell
  now : Int

instance : CoeFun Row fun _ => String → Cell := ⟨Row.cell⟩

/-- The rows of each table. -/
abbrev Tables := String → List Row

/-- The row of each alias in scope. -/
abbrev Scopes := Alias → Row

/-- The scopes with one more row. -/
def Scopes.with (scopes : Scopes) (a : Alias) (row : Row) : Scopes :=
  fun b => if b = a then row else scopes b

/-- The value of a column in its scope. -/
def ColumnRef.value (scopes : Scopes) (c : ColumnRef) : Cell :=
  let row := scopes c.scope
  if c.column.day then (row c.column.name).day row.now else row c.column.name

/-! ## Tests of a value -/

def compareCells (op : Comparison) (a b : Cell) : Truth :=
  match a.compare? b with
  | some o => .ofBool (op.holds o)
  | none => .unknown

/-- Whether a value is one of the values; among none, nothing is, not even null. -/
def amongCells (a : Cell) : List Cell → Truth
  | [] => .no
  | b :: rest => (a.equal b).or (amongCells a rest)

def likeCell (a : Cell) (pattern : String) : Truth :=
  match a.toText? with
  | some s => .ofBool (Like.matchesPattern (untilZero pattern.toList) (untilZero s.toList))
  | none => .unknown

/-- Whether a value is null, or the one that stands for null. -/
def nullCell (a : Cell) : Option Cell → Truth
  | none => .ofBool a.isNull
  | some sentinel => (Truth.ofBool a.isNull).or (a.equal sentinel)

/-- Whether a value is neither null nor the one that stands for null. -/
def presentCell (a : Cell) : Option Cell → Truth
  | none => .ofBool (!a.isNull)
  | some sentinel => (Truth.ofBool (!a.isNull)).and (compareCells .ne a sentinel)

/-! ## Conditions -/

namespace Condition

mutual

/-- The truth of a condition for the rows in scope. -/
def eval (tables : Tables) (scopes : Scopes) : Condition → Truth
  | compare c op value => compareCells op (c.value scopes) (.ofDatum value)
  | among c values negated => (amongCells (c.value scopes) (values.map .ofDatum)).notIf negated
  | like c pattern negated => (likeCell (c.value scopes) pattern).notIf negated
  | isNull c false sentinel? => nullCell (c.value scopes) (sentinel?.map .ofDatum)
  | isNull c true sentinel? => presentCell (c.value scopes) (sentinel?.map .ofDatum)
  | all items => evalAll tables scopes items
  | any items => evalAny tables scopes items
  | subquery negated join inner outer body =>
    let found := (tables join.target).any fun row =>
      let scopes := Scopes.with scopes inner row
      (((row join.foreignKey).equal (scopes outer join.localKey)).and
        (body.eval tables scopes)).selects
    (Truth.ofBool found).notIf negated

def evalAll (tables : Tables) (scopes : Scopes) : List Condition → Truth
  | [] => .yes
  | c :: rest => (c.eval tables scopes).and (evalAll tables scopes rest)

def evalAny (tables : Tables) (scopes : Scopes) : List Condition → Truth
  | [] => .no
  | c :: rest => (c.eval tables scopes).or (evalAny tables scopes rest)

end

end Condition

/-- Whether the query selects a row of its table. -/
def Query.selects (q : Query) (tables : Tables) (row : Row) : Bool :=
  (Condition.evalAll tables (fun _ => row) q.conditions).selects

end RowSieve.Sql
