/-
Taking over a database file that holds something. It may have any tables: those that are missing
are created, and a statement fails where a table of the same name does not have the columns that
the statement names.
-/
import RowSieve.Store.Image.Admission
import RowSieve.Store.Migration
import RowSieve.Store.Seed

namespace RowSieve.Store

namespace Inventory

/-! ## Statements -/

/-- Checks that the rows of a table can be read. -/
def checkRows (inv : Inventory) (root : Nat) (c : Columns) : Except Problem Unit :=
  (inv.image.rows root).forM fun row => do
    discard (Record.values inv.image.encoding (← row).record c.stored.length)

/-- Creates what a statement defines, unless it is there already. -/
def create (inv : Inventory) (d : Definition) : Except Problem Inventory := do
  match d with
  | .table name columns =>
    if (inv.table? name).isSome then return inv
    if (inv.index? name).isSome then throw (.nameTaken "an index" (String.ofList name))
    inv.image.checkRoom
    let c ← columns.mapError fun detail => .malformedSchema (String.ofList name) detail
    return inv.withTable name none c
  | .index d =>
    match inv.table? d.table with
    | none => throw (.noSuchTable s!"main.{String.ofList d.table}")
    | some ⟨_, .view _⟩ => throw .indexedView
    | some ⟨_, .virtual _⟩ => throw .indexedVirtual
    | some ⟨_, .rows root? c⟩ =>
      if (inv.table? d.name).isSome then throw (.nameTaken "a table" (String.ofList d.name))
      if (inv.index? d.name).isSome then return inv
      let columns := d.parts.filterMap fun e => e.asName?.map (·.1)
      if let some column := c.missing? columns then
        throw (.noSuchColumn (String.ofList column))
      let created := inv.withIndex d c .memory
      (created.index? d.name).forM (checkCollations c)
      inv.image.checkRoom
      if let some root := root? then inv.checkRows root c
      return created
  | .virtual .. | .view .. | .trigger .. => return inv

/-! ## The version -/

/-- Whether a value of a column equals the number one. -/
def isOne (a : Affinity) (v : Stored) : Bool :=
  match a, v with
  | _, .integer n => n = 1
  | .text, .text s => s == ['1']
  | .text, .real _ => false
  | _, .real x => x.compareInt 1 == .eq
  | .otherNumber, .text s | .real, .text s =>
    (Affinity.number? s).any (Stored.isSame .exact (.integer 1))
  | _, _ => false

/-- The number that a value gives for a version; no value gives zero. -/
def versionOf (v : Stored) : Except Error Int :=
  let mismatch (kind : String) : Except Error Int := .error (.value 0
    (s!"mismatched types; Rust type `i32` (as SQL type `INTEGER`) " ++
      s!"is not compatible with SQL type `{kind}`"))
  match v with
  | .null => .ok 0
  | .integer n => (Number.Bounds.signed32.check n).mapError fun e => .value 0 e.message
  | .real _ => mismatch "REAL"
  | .text _ => mismatch "TEXT"
  | .blob _ => mismatch "BLOB"

/-- The column of a name. -/
def column (c : Columns) (name : String) : Except Problem Column :=
  match c.column? name.toList with
  | some column => .ok column
  | none => .error (.noSuchColumn name)

/-- Checks that a column is not computed from itself, by way of at most `count` others. -/
def checkLoop (c : Columns) (seen : List (List Char)) (column : Column) :
    (count : Nat) → Except Problem Unit
  | 0 => .ok ()
  | count + 1 =>
    if seen.any (Token.sameName column.name) then .error (.loop (String.ofList column.name))
    else match column.generation? with
      | some g =>
        let others := c.all.filter fun other => g.expression.names other.name
        others.forM fun other => checkLoop c (column.name :: seen) other count
      | none => .ok ()

/-- The value of a column in a row, computed from at most `count` others. No more of the record is
read than is needed for it. -/
def valueIn (e : Image.Encoding) (c : Columns) (row : ImageRow) (column : Column) :
    (count : Nat) → Except Problem Stored
  | 0 => .ok .null
  | count + 1 => do
    if c.key?.any (Token.sameName column.name) then return .integer row.key
    match column.generation? with
    | some ⟨expression, false⟩ =>
      let other? := c.all.find? fun other => expression.names other.name
      let v? ← other?.mapM fun other => valueIn e c row other count
      let computed? := expression.value? fun _ => v?.map (Affinity.none, ·)
      return column.affinity.apply e (computed?.getD .null)
    | _ =>
      let place := c.stored.findIdx (Token.sameName ·.name column.name)
      match (← Record.values e row.record (place + 1))[place]?, column.affinity with
      | some (.integer n), .real => return .real (.ofInt n)
      | some v, _ => return v
      | none, _ => return column.standard e

/-- The first row that has the number one. -/
def findOne (inv : Inventory) (c : Columns) (id : Column) :
    List (Except Problem ImageRow) → Except Problem (Option ImageRow)
  | [] => .ok none
  | row :: rest => do
    let row ← row
    if isOne id.affinity (← valueIn inv.image.encoding c row id c.all.length) then return some row
    else findOne inv c id rest

/-- The first of the rows that an index has under the number one. -/
def findIndexed (inv : Inventory) (c : Columns) (id : Column) (i : Index)
    (rows : List (Except Problem ImageRow)) : Except Problem (Option ImageRow) := do
  let one := id.affinity.apply inv.image.encoding (.integer 1)
  let order := (Collation.ofName? (c.collationOf ⟨some id.name, none⟩)).getD .exact
  match (← inv.entriesOf i).find? fun entry => entry.head?.any (Stored.isSame order one) with
  | none => return none
  | some entry =>
    let key := match entry.getLast? with
      | some (.integer key) => key
      | _ => 0
    match rows.find? fun row => row.toOption.any (·.key == key) with
    | some row => return some (← row)
    | none => throw .malformed

/-- The value of the version of the file, if it has one. -/
def storedVersion (inv : Inventory) : Except Problem (Option Stored) := do
  match inv.table? "schema_version".toList with
  | some ⟨name, .rows root? c⟩ =>
    let version ← column c "version"
    let id ← column c "id"
    let order := c.collationOf ⟨some id.name, none⟩
    if (Collation.ofName? order).isNone then throw (.noCollation (String.ofList order))
    checkLoop c [] id (c.all.length + 1)
    checkLoop c [] version (c.all.length + 1)
    match root? with
    | some root =>
      let rows := inv.image.rows root
      let isFor (i : Index) : Bool := !i.isPartial && (i.key.parts.head?.any fun part =>
        part.column?.any (Token.sameName id.name))
      let usable := (inv.indexesOf name).filter isFor
      let row? ← match (usable.find? (·.isUnique)).or usable.head? with
        | some i => inv.findIndexed c id i rows
        | none => inv.findOne c id rows
      row?.mapM fun row => valueIn inv.image.encoding c row version c.all.length
    | none => return none
  | some ⟨_, .virtual maker⟩ => throw (.noMaker (String.ofList maker))
  | _ => throw (.noSuchTable "schema_version")

/-! ## Migration -/

def versionColumns : List String := ["id", "version", "applied_at", "description"]

/-- Checks that a change can be recorded in the history. -/
def checkRecord (inv : Inventory) : Except Problem Unit :=
  inv.checkInsert "schema_migrations"
    ["version", "name", "applied_at", "checksum", "execution_time_ms", "success"] []

/-- Gives the file all of the schema that it does not have. -/
def applySchema (inv : Inventory) : Except Problem Inventory := do
  let inv ← (Definition.ofStatements Schema.statements).foldlM create inv
  inv.checkInsert "schema_version" versionColumns []
  inv.checkRecord
  return inv

/-- Checks that the version in the file can be changed. -/
def checkUpdate (inv : Inventory) : Except Problem Unit := do
  if let some ⟨_, .rows _ c⟩ := inv.table? "schema_version".toList then
    for name in versionColumns.tail do
      if (← column c name).isGenerated then throw (.computed "UPDATE" name)

/-- Brings the file to version two. -/
def applySecond (inv : Inventory) : Except Error Inventory := do
  let inv ← ((Definition.ofStatements Schema.secondVersion).foldlM create inv).mapError
    File.secondVersionFails
  let changed : Except Problem Unit := do
    inv.checkUpdate
    inv.checkRecord
  changed.mapError .statement
  return inv

/-- Brings the file to the current version, if it has an older one. -/
def migrate (inv : Inventory) : Except Error Inventory := do
  if !inv.hasVersions then inv.applySchema.mapError .statement
  else
    let current ← versionOf ((← inv.storedVersion.mapError .statement).getD .null)
    if Schema.version ≤ current then return inv
    if current < 0 then throw (File.unknownVersion (current + 1))
    inv.applySecond

/-! ## Demo data -/

/-- Whether a table has a row that can be read, by way of at most `count` views. What a view selects
that is not simple counts as a row. -/
def hasRows (inv : Inventory) (content : Content) : (count : Nat) → Except Problem Bool
  | 0 => .ok false
  | count + 1 => do
    match content with
    | .rows none _ => return false
    | .rows (some root) _ =>
      match inv.image.rows root with
      | [] => return false
      | row :: _ => discard row; return true
    | .virtual maker => throw (.noMaker (String.ofList maker))
    | .view .other => return true
    | .view (.values rows) =>
      match rows.findSome? Expression.freeName? with
      | some name => throw (.noSuchColumn (String.ofList name))
      | none => return !rows.isEmpty
    | .view (.table name) =>
      match inv.table? name with
      | some t => inv.hasRows t.content count
      | none => throw (.noSuchTable s!"main.{String.ofList name}")

/-- A text, if there is one. -/
def ofText? (s? : Option String) : Stored := (s?.map fun s => .text s.toList).getD .null

def customerRows : List (List Stored) :=
  demoCustomers.map fun c => [.integer c.id, .text c.name.toList, .text c.countryCode.toList,
    .text c.status.toList, ofText? c.email?]

def productRows : List (List Stored) :=
  demoProducts.map fun p => [.integer p.id, .text p.sku.toList, .text p.category.toList]

/-- Adds the demo data to a file without invoices. -/
def seed (inv : Inventory) : Except Problem Unit := do
  match inv.table? "invoices".toList with
  | none => throw (.noSuchTable "invoices")
  | some invoices =>
    if ← inv.hasRows invoices.content (inv.tables.length + 1) then return
    inv.checkInsert "customers" ["id", "name", "country_code", "status", "email"] customerRows
    inv.checkInsert "products" ["id", "sku", "category"] productRows
    inv.checkInsert "invoices" ["id", "number", "customer_id", "status", "total_amount",
      "issued_at", "paid_at", "is_recurring"] []
    inv.checkInsert "line_items"
      ["invoice_id", "product_id", "product_name", "quantity", "unit_price"] []

end Inventory

end RowSieve.Store
