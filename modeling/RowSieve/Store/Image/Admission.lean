/-
Adding rows to the tables of a file. Whether a statement fits the tables is seen before any row is
added. Each row then has to keep what its columns demand: values that are required come first, then
the types, the rules, and keys that no other row may have.
-/
import RowSieve.Store.Image.Inventory

namespace RowSieve.Store

namespace Stored

/-- The name of the kind of a value. -/
def kind : Stored → String
  | null => "NULL"
  | integer _ => "INT"
  | real _ => "REAL"
  | text _ => "TEXT"
  | blob _ => "BLOB"

/-- Whether a value is of a type. -/
def isOf (type : List Char) (v : Stored) : Bool :=
  match v, String.ofList (type.map Text.foldCase) with
  | null, _ | _, "any" => true
  | v, "int" | v, "integer" => v.kind == "INT"
  | v, type => Token.sameName v.kind.toList type.toList

end Stored

namespace Inventory

/-! ## Whether a statement fits -/

/-- Checks that rows can be given values for the columns. -/
def checkColumns (table : String) (c : Columns) (columns : List String) : Except Problem Unit :=
  columns.forM fun name => match c.column? name.toList with
    | none => .error (.noColumnNamed table name)
    | some column => if column.isGenerated then .error (.computed "INSERT into" name) else .ok ()

/-- Checks that the texts of an index have a known order. -/
def checkCollations (c : Columns) (i : Index) : Except Problem Unit :=
  i.key.parts.forM fun part =>
    let name := c.collationOf part
    if (Collation.ofName? name).isSome then .ok () else .error (.noCollation (String.ofList name))

/-- How the rows of a table are found that others refer to. -/
inductive Access where
  | number (root? : Option Nat)
  | index (i : Index)

/-- How the rows of a table are found by the columns, or by its primary key. -/
def access? (inv : Inventory) (table : List Char) (columns : List (List Char)) : Option Access :=
  match inv.table? table with
  | some ⟨name, .rows root? c⟩ =>
    let isNumber := c.key?.any fun key => columns.all (Token.sameName key) && columns.length ≤ 1
    let isMeant (key : Key) : Bool :=
      if columns.isEmpty then key.isPrimary
      else key.parts.length == columns.length && key.parts.all fun part =>
        part.column?.any fun own => columns.any (Token.sameName own) &&
          Token.sameName (c.collationOf part) (c.collationOf ⟨some own, none⟩)
    if isNumber then some (.number root?)
    else ((inv.indexesOf name).find? fun i => i.isUnique && !i.isPartial && isMeant i.key).map
      .index
  | _ => none

/-- Checks that rows of a table can refer to others. -/
def checkReference (inv : Inventory) (table : List Char) (r : Reference) : Except Problem Unit :=
  if (inv.table? r.table).isNone then
    .error (.noSuchTable s!"main.{String.ofList r.table}")
  else if (inv.access? r.table r.columns).isSome then .ok ()
  else .error (.noKey (String.ofList table) (String.ofList r.table))

/-! ## Whether a row can be added -/

/-- The values of all columns of a row that is given some. -/
def complete (inv : Inventory) (c : Columns) (given : List (String × Stored)) :
    List (Column × Stored) :=
  let given? (name : List Char) : Option Stored :=
    (given.find? fun (own, _) => Token.sameName own.toList name).map (·.2)
  let value (column : Column) : Stored :=
    match column.generation?, given? column.name with
    | some g, _ =>
      (g.expression.value? fun name => (given? name).map (Affinity.none, ·)).getD .null
    | none, some v => v
    | none, none => column.standard inv.image.encoding
  c.all.map fun column => (column, column.affinity.apply inv.image.encoding (value column))

/-- The value of a column in a row. -/
def valueOf (row : List (Column × Stored)) (name : List Char) : Option Stored :=
  (row.find? fun (column, _) => Token.sameName column.name name).map (·.2)

/-- The affinity and the value of a column in a row. -/
def columnIn (row : List (Column × Stored)) (name : List Char) : Option (Affinity × Stored) :=
  (row.find? fun (column, _) => Token.sameName column.name name).map fun (column, v) =>
    (column.affinity, v)

/-- Checks what the columns of a table demand of a row by itself. -/
def checkRow (table : List Char) (c : Columns) (row : List (Column × Stored)) :
    Except Problem Unit := do
  let table := String.ofList table
  for (column, v) in row do
    if column.isRequired && v matches .null then
      throw (.required table (String.ofList column.name))
  if c.isStrict then
    for (column, v) in row do
      if !v.isOf column.type then
        throw (.wrongType v.kind ((String.ofList column.type).map Char.toUpper) table
          (String.ofList column.name))
  for rule in c.rules do
    if (rule.expression.value? (columnIn row)).any Stored.isFalse then
      throw (.check (String.ofList rule.name))

/-- The entries of an index. -/
def entriesOf (inv : Inventory) (i : Index) : Except Problem (List (List Stored)) := do
  match i.place with
  | .memory => return []
  | .nowhere => throw .malformed
  | .file root =>
    (inv.image.entries root).mapM fun entry => do
      Record.values inv.image.encoding (← entry) (i.key.parts.length + 1)

/-- The columns of a key as they are told about. -/
def keyText (table : List Char) (i : Index) : String :=
  let columns := i.key.parts.filterMap (·.column?)
  if columns.length != i.key.parts.length then s!"index '{String.ofList i.name}'"
  else String.intercalate ", " (columns.map fun name =>
    s!"{String.ofList table}.{String.ofList name}")

/-- Checks that no other row has the values of a key that a row has. -/
def checkKey (inv : Inventory) (table : List Char) (c : Columns)
    (earlier : List (List (Column × Stored))) (row : List (Column × Stored)) (i : Index) :
    Except Problem Unit := do
  let entries ← inv.entriesOf i
  let values (row : List (Column × Stored)) : List Stored :=
    i.key.parts.map fun part => ((part.column?.bind (valueOf row))).getD .null
  let same (values others : List Stored) : Bool :=
    ((values.zip others).zip i.key.parts).all fun ((a, b), part) =>
      Stored.isSame ((Collation.ofName? (c.collationOf part)).getD .exact) a b
  let taken := entries ++ earlier.map values
  if i.isUnique && !i.isPartial && taken.any (same (values row)) then
    throw (.keyTaken i.key.isPrimary (keyText table i))

/-- Checks that the rows that a row refers to are there. -/
def checkTarget (inv : Inventory) (row : List (Column × Stored)) (r : Reference) :
    Except Problem Unit := do
  let values := r.own.map fun name => (valueOf row name).getD .null
  if values.any (· matches .null) then return
  let found ← match inv.access? r.table r.columns with
    | none | some (.number none) => pure false
    | some (.number (some root)) =>
      let keys ← (inv.image.rows root).mapM fun target => return Stored.integer (← target).key
      pure (keys.any fun key => values.any (·.isSame .exact key))
    | some (.index i) =>
      let entries ← inv.entriesOf i
      pure (entries.any fun entry => (values.zip entry).all fun (a, b) => a.isSame .exact b)
  if !found then throw .foreignKey

/-- Checks that rows with values for some columns can be added to a table one after another. A table
that was not there before takes any rows. -/
def checkInsert (inv : Inventory) (table : String) (columns : List String)
    (rows : List (List Stored)) : Except Problem Unit := do
  match inv.table? table.toList with
  | none => throw (.noSuchTable table)
  | some ⟨name, .view _⟩ => throw (.changedView (String.ofList name))
  | some ⟨_, .virtual maker⟩ => throw (.noMaker (String.ofList maker))
  | some ⟨name, .rows root? c⟩ =>
    checkColumns table c columns
    let indexes := inv.indexesOf name
    c.references.forM (inv.checkReference name)
    indexes.forM (checkCollations c)
    if let some root := root? then
      if indexes.any (·.place == .nowhere) then throw .malformed
      let leaf ← inv.image.lastLeaf root true Image.depthLimit
      discard (rows.foldlM (addRow inv name c indexes leaf columns) [])
      inv.image.checkSpace leaf
where
  /-- Adds a row to those that were added before. -/
  addRow (inv : Inventory) (name : List Char) (c : Columns) (indexes : List Index) (leaf : Nat)
      (columns : List String) (earlier : List (List (Column × Stored))) (given : List Stored) :
      Except Problem (List (List (Column × Stored))) := do
    let row := inv.complete c (columns.zip given)
    checkRow name c row
    indexes.forM (inv.checkKey name c earlier row)
    c.references.forM (inv.checkTarget row)
    inv.image.checkSpace leaf
    return earlier ++ [row]

end Inventory

end RowSieve.Store
