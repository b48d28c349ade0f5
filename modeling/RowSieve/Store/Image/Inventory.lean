/-
What a database file holds: its tables and views, each with its columns, and its indexes. They are
read from a table of their definitions, whose root is the first page; an entry that cannot be read
is told about by its name.
-/
import RowSieve.Sql.Cell
import RowSieve.Store.Image.Definition
import RowSieve.Store.Image.Pages

namespace RowSieve.Store

/-- What a table is made of. -/
inductive Content where
  /-- Rows, with the root of their pages if they stand in a file. -/
  | rows (root? : Option Nat) (columns : Columns)
  | view (selection : Selection)
  /-- Rows that are made on demand. -/
  | virtual (maker : List Char)

structure Table where
  name : List Char
  content : Content

/-- Where the entries of an index stand. -/
inductive IndexPlace where
  | file (root : Nat)
  | memory
  | nowhere
deriving DecidableEq

structure Index where
  name : List Char
  table : List Char
  key : Key
  isUnique : Bool
  /-- Whether only some rows have entries. -/
  isPartial : Bool
  place : IndexPlace

/-- The tables, indexes and triggers of a file. -/
structure Inventory where
  image : Image
  tables : List Table
  indexes : List Index
  triggers : List (List Char)
  /-- Whether there is a table of versions. -/
  hasVersions : Bool

namespace Inventory

def table? (inv : Inventory) (name : List Char) : Option Table :=
  inv.tables.find? (Token.sameName ·.name name)

def index? (inv : Inventory) (name : List Char) : Option Index :=
  inv.indexes.find? (Token.sameName ·.name name)

/-- The indexes of a table, the last one first. -/
def indexesOf (inv : Inventory) (table : List Char) : List Index :=
  (inv.indexes.filter (Token.sameName ·.table table)).reverse

/-- The inventory with a table and the indexes that come with it. -/
def withTable (inv : Inventory) (name : List Char) (root? : Option Nat) (c : Columns) : Inventory :=
  let place : IndexPlace := if root?.isNone then .memory else .nowhere
  { inv with
    tables := inv.tables ++ [⟨name, .rows root? c⟩]
    indexes := inv.indexes ++ c.unique.zipIdx.map fun (key, i) =>
      ⟨ownName (i + 1), name, key, true, false, place⟩ }
where
  /-- The name of an index that comes with a table. -/
  ownName (i : Nat) : List Char :=
    "sqlite_autoindex_".toList ++ name ++ '_' :: Number.intText i

/-- The inventory with an index that a statement defines. -/
def withIndex (inv : Inventory) (d : IndexDefinition) (c : Columns) (place : IndexPlace) :
    Inventory :=
  let part (e : Expression) : KeyPart := match e.asName? with
    | some (name, collation?) => ⟨if c.has name then some name else none, collation?⟩
    | none => ⟨none, none⟩
  let key : Key := ⟨d.parts.map part, false⟩
  let index : Index := ⟨d.name, d.table, key, d.isUnique, d.condition?.isSome, place⟩
  { inv with indexes := inv.indexes ++ [index] }

/-! ## Entries of the file -/

/-- An entry of the table of definitions. -/
structure Entry where
  kind? : Option (List Char)
  name? : Option (List Char)
  table? : Option (List Char)
  root? : Option (List Char)
  statement? : Option (List Char)

/-- The number of a page, which has to be one of the file. -/
def pageNumber? (inv : Inventory) (digits : List Char) : Option Nat :=
  if digits.isEmpty || !digits.all Number.isDigit then none
  else
    let n := Number.ofDigits 0 digits
    if inv.image.pages < n then none else some n

/-- Checks that an entry is about what its statement creates. -/
def Entry.agree (e : Entry) (kind : String) (name table : List Char) : Except String Unit :=
  let same (told? : Option (List Char)) (word : List Char) : Bool :=
    told?.any (Token.sameName word ·)
  if same e.kind? kind.toList && same e.name? name && same e.table? table then .ok ()
  else .error ""

/-- Checks that there is no table and no index of a name. -/
def checkNew (inv : Inventory) (name : List Char) : Except String Unit := do
  if let some t := inv.table? name then
    let kind := match t.content with
      | .view _ => "view"
      | _ => "table"
    throw s!"{kind} {String.ofList name} already exists"
  if (inv.index? name).isSome then
    throw (Problem.nameTaken "an index" (String.ofList name)).text

/-- What is wrong with the columns that an index is for. The name of the first one comes before the
condition. -/
def indexFault? (d : IndexDefinition) (c : Columns) : Option String :=
  let partFault? (e : Expression) := e.nameFirst.fault? .index d.table c.has
  let conditionFault? := d.condition?.bind (·.fault? .indexCondition d.table c.has)
  let first? := d.parts.head?.filter (·.asName?.isSome)
  ((first?.bind partFault?).or conditionFault?).or (d.parts.findSome? partFault?)

/-- What is wrong with the table that a trigger is for. -/
def triggerFault? (d : TriggerDefinition) (t : Table) : Option String :=
  let name := String.ofList t.name
  match t.content, d.moment with
  | .rows .., .instead => some s!"cannot create INSTEAD OF trigger on table: {name}"
  | .view _, .before => some s!"cannot create BEFORE trigger on view: {name}"
  | .view _, .after => some s!"cannot create AFTER trigger on view: {name}"
  | _, _ => none

/-- The inventory with what a statement of an entry creates; an error is the detail of what is wrong
with the entry. -/
def withDefinition (inv : Inventory) (e : Entry) (root : Nat) (d : Definition) :
    Except String Inventory := do
  let missing (table : List Char) : String := s!"no such table: main.{String.ofList table}"
  match d with
  | .table name columns =>
    if root = 1 then throw ""
    e.agree "table" name name
    inv.checkNew name
    return inv.withTable name (some root) (← columns)
  | .virtual name maker =>
    e.agree "table" name name
    inv.checkNew name
    return { inv with tables := inv.tables ++ [⟨name, .virtual maker⟩] }
  | .view name selection =>
    if root = 1 then throw ""
    e.agree "view" name name
    inv.checkNew name
    if root ≠ 0 then throw ""
    return { inv with tables := inv.tables ++ [⟨name, .view selection⟩] }
  | .index d =>
    match inv.table? d.table with
    | none => throw (missing d.table)
    | some ⟨_, .view _⟩ => throw Problem.indexedView.text
    | some ⟨_, .virtual _⟩ => throw Problem.indexedVirtual.text
    | some ⟨name, .rows _ c⟩ =>
      e.agree "index" d.name name
      if (inv.index? d.name).isSome then throw s!"index {String.ofList d.name} already exists"
      if let some fault := indexFault? d c then throw fault
      return inv.withIndex d c (.file root)
  | .trigger d =>
    match inv.table? d.table with
    | none => throw (missing d.table)
    | some t =>
      if t.content matches .virtual _ then throw "cannot create triggers on virtual tables"
      e.agree "trigger" d.name t.name
      if inv.triggers.any (Token.sameName d.name) then
        throw s!"trigger {String.ofList d.name} already exists"
      if let some fault := triggerFault? d t then throw fault
      d.body
      return { inv with triggers := inv.triggers ++ [d.name] }

/-- Whether an entry has a statement that creates something, by its first letters. -/
def isCreation (statement : List Char) : Bool :=
  Token.sameName (statement.take 2) ['c', 'r']

/-- The inventory with an entry; an error is the detail of what is wrong with it. -/
def withEntry (inv : Inventory) (e : Entry) : Except String Inventory := do
  let statement := e.statement?.getD []
  match e.root? with
  | none => throw ""
  | some digits =>
    let root? := inv.pageNumber? digits
    if isCreation statement then
      match root? with
      | none => throw "invalid rootpage"
      | some root => inv.withDefinition e root (← Definition.ofTokens (Token.ofText statement))
    else match e.name?, statement with
      | some name, [] =>
        if (inv.index? name).isNone then throw "orphan index"
        match root? with
        | some root =>
          if root < 2 then throw "invalid rootpage"
          let rooted (i : Index) : Index :=
            if Token.sameName i.name name then { i with place := .file root } else i
          return { inv with indexes := inv.indexes.map rooted }
        | none => throw "invalid rootpage"
      | _, _ => throw ""

/-- Whether values make the entry of the table of versions. -/
def isVersions : List Stored → Bool
  | .text kind :: .text name :: _ => kind == "table".toList && name == "schema_version".toList
  | _ => false

/-- The inventory with a row of the table of definitions. -/
def withRow (inv : Inventory) (row : ImageRow) : Except Problem Inventory := do
  let encoding := inv.image.encoding
  let values ← Record.values encoding row.record 5
  let text? (i : Nat) : Option (List Char) :=
    (values[i]?.bind (·.toText? encoding)).map Sql.untilZero
  let entry : Entry := ⟨text? 0, text? 1, text? 2, text? 3, text? 4⟩
  match inv.withEntry entry with
  | .ok inv => return { inv with hasVersions := inv.hasVersions || isVersions values }
  | .error detail => throw (.malformedSchema (String.ofList (entry.name?.getD ['?'])) detail)

/-- All that a file holds. -/
def ofImage (f : Image) : Except Problem Inventory := do
  f.checkHeader
  f.checkFormat
  (f.rows 1).foldlM (fun (inv : Inventory) row => do inv.withRow (← row)) ⟨f, [], [], [], false⟩

end Inventory

end RowSieve.Store
