/-
The columns of a table with the rules for them: which are required, unique or computed from
others, what a column holds when no value is given, and which rows of other tables are referred to.
-/
import RowSieve.Store.Image.Expression

namespace RowSieve.Store

/-- How a column is computed. -/
structure Generation where
  expression : Expression
  /-- Whether the value stands in the rows. -/
  isStored : Bool

structure Column where
  name : List Char
  type : List Char
  isRequired : Bool
  collation? : Option (List Char)
  /-- What the column holds when no value is given. -/
  standard? : Option Expression
  generation? : Option Generation

namespace Column

def plain (name type : List Char) : Column := ⟨name, type, false, none, none, none⟩

def affinity (c : Column) : Affinity := .ofType c.type

def isGenerated (c : Column) : Bool := c.generation?.isSome

/-- Whether the value of the column stands in the rows. -/
def isStored (c : Column) : Bool := c.generation?.all (·.isStored)

/-- The value of the column in a row that was written without it. -/
def standard (c : Column) (e : Image.Encoding) : Stored :=
  let given? := c.standard?.or (c.generation?.map (·.expression))
  match given?.bind (Expression.term? fun _ => none) with
  | some (_, v) => c.affinity.apply e v
  | none => .null

end Column

/-- A part of a key: a column, or none for an expression, and a collation of its own. -/
structure KeyPart where
  column? : Option (List Char)
  collation? : Option (List Char)

/-- Columns that are unique together. -/
structure Key where
  parts : List KeyPart
  isPrimary : Bool

/-- Rows of a table that columns refer to. -/
structure Reference where
  /-- The columns that refer. -/
  own : List (List Char)
  table : List Char
  /-- The columns there; without any, those of the primary key. -/
  columns : List (List Char)

/-- A rule for the values in a row. -/
structure Rule where
  /-- The name of the rule, or what it says. -/
  name : List Char
  expression : Expression

/-- The columns of a table. -/
structure Columns where
  all : List Column
  /-- The column that holds the number of the row. -/
  key? : Option (List Char)
  /-- The columns that the indexes are for which come with the table. -/
  unique : List Key
  rules : List Rule
  /-- The references, the last one first. -/
  references : List Reference
  /-- Whether values have to be of the type of their column. -/
  isStrict : Bool

namespace Columns

def empty : Columns := ⟨[], none, [], [], [], false⟩

def column? (c : Columns) (name : List Char) : Option Column :=
  c.all.find? (Token.sameName ·.name name)

def has (c : Columns) (name : List Char) : Bool := (c.column? name).isSome

/-- The first of the names that is not the name of a column. -/
def missing? (c : Columns) (names : List (List Char)) : Option (List Char) :=
  names.find? (!c.has ·)

/-- The collation of a part of a key, by its name. -/
def collationOf (c : Columns) (p : KeyPart) : List Char :=
  (p.collation?.or ((p.column?.bind c.column?).bind (·.collation?))).getD "binary".toList

/-- Whether two keys are for the same columns. -/
def sameKey (c : Columns) (a b : Key) : Bool :=
  a.parts.length == b.parts.length && (a.parts.zip b.parts).all fun (p, q) =>
    (p.column?.any fun name => q.column?.any (Token.sameName name)) &&
      Token.sameName (c.collationOf p) (c.collationOf q)

/-- The columns with a key, which is left out if they have one like it. -/
def withKey (c : Columns) (k : Key) : Columns :=
  if c.unique.any (c.sameKey k) then c else { c with unique := c.unique ++ [k] }

/-- The columns with the last of them changed. -/
def changeLast (c : Columns) (change : Column → Column) : Columns :=
  { c with all := c.all.dropLast ++ c.all.getLast?.toList.map change }

/-- The columns whose values stand in the rows. -/
def stored (c : Columns) : List Column := c.all.filter Column.isStored

end Columns

end RowSieve.Store
