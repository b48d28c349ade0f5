/-
Listing invoices: those that a query selects, in an order that is made total by the number of the
invoice, and of them a stretch; and counting them. The statement of a listing has the values of the
query at its places, and behind them how many invoices are listed and how many are left out in
front. A statement that goes beyond the limits is refused, and one that runs may come upon
something that keeps it from being carried out.
-/
import RowSieve.Http.Order
import RowSieve.Store.Tables

namespace RowSieve.Store

open RowSieve.Http (Direction Order)
open RowSieve.Sql (Datum Fault Query aliasText rootAlias)

/-! ## The statement -/

/-- What stands in front of the clause. -/
def listingColumns : String :=
  let a := aliasText rootAlias
  s!"
        SELECT {a}.id, {a}.number, {a}.customer_id, c.name, {a}.status, {a}.total_amount,
               {a}.issued_at, {a}.paid_at, {a}.is_recurring,
               (SELECT COUNT(*) FROM line_items li WHERE li.invoice_id = {a}.id)
        FROM invoices AS {a}
        LEFT JOIN customers AS c ON c.id = {a}.customer_id
        "

/-- A listing of the invoices of a clause in an order. -/
def listingText (clause order limit offset : String) : String :=
  listingColumns ++ clause ++ "\n        ORDER BY " ++ order ++ ", " ++ aliasText rootAlias ++
    ".id ASC\n        LIMIT " ++ limit ++ " OFFSET " ++ offset ++ "\n        "

/-- The statement that lists the invoices of a query. -/
def listingStatement (q : Query) (o : Order) : String :=
  listingText q.whereClause (o.text (Filter.Target.columnText q)) "?" "?"

/-- The values of its places. -/
def listingValues (q : Query) (limit offset : Nat) : List Datum :=
  q.params ++ [.integer limit, .integer offset]

/-! ## Selected invoices -/

/-- An invoice with what belongs to it in other tables. -/
structure InvoiceRow where
  invoice : Invoice
  customerName? : Option String
  lineItemCount : Nat

namespace Database

/-- The invoice with the name of its customer and the number of its items. -/
def invoiceRow (db : Database) (i : Invoice) : InvoiceRow :=
  ⟨i, (i.customerId?.bind fun id => db.customers.find? (·.id == id)).map (·.name),
   db.lineItems.countP (·.invoiceId == i.id)⟩

/-- Whether `a` stands before `b` or beside it: by the column in the given direction, then by
number. -/
def inOrder (o : Order) (a b : Invoice) : Bool :=
  let first := ((a.cell o.column).compare? (b.cell o.column)).getD .eq
  match first, o.direction with
  | .eq, _ => a.id ≤ b.id
  | .lt, .rising | .gt, .falling => true
  | _, _ => false

/-- The invoices that a query selects at a moment. -/
def selected (db : Database) (now : Int) (q : Query) : List Invoice :=
  db.invoices.filter fun i => q.selects (db.tables now) (i.row now)

/-- The selected invoices in order, without the first `offset`, at most `limit` of them. -/
def page (db : Database) (now : Int) (q : Query) (o : Order) (limit offset : Nat) :
    List InvoiceRow :=
  let sorted := (db.selected now q).mergeSort (inOrder o)
  ((sorted.drop offset).take limit).map db.invoiceRow

end Database

/-! ## Questions -/

/-- What is asked of the invoices: how many a query selects, or a stretch of them. -/
inductive Question where
  | count (q : Query)
  | list (q : Query) (o : Order) (limit offset : Nat)

/-- Refuses a question whose statement goes beyond what statements can hold. -/
def Question.fit : Question → Except Fault Unit
  | count q => q.refuse false
  | list q .. => q.refuse true

/-- What the answer to a question depends on besides the store. -/
structure Engine where
  /-- The moment at which statements run, in milliseconds of the count of days. -/
  now : Int
  /-- What keeps a statement from being carried out once it runs. How far rows and conditions are
  read is the engine's own affair, and so is which statements come upon such a thing. -/
  trouble? : Database → Question → Option String

/-- An engine that nothing keeps from carrying out statements. -/
def Engine.untroubled (now : Int) : Engine := ⟨now, fun _ _ => none⟩

namespace Database

variable (db : Database) (engine : Engine)

/-- Refuses a question that cannot be carried out. -/
def refuse (asked : Question) : Except Fault Unit := do
  asked.fit
  if let some text := engine.trouble? db asked then throw (.running text)

/-- A listing of invoices, if it can be carried out. -/
def list (q : Query) (o : Order) (limit offset : Nat) : Except Fault (List InvoiceRow) := do
  db.refuse engine (.list q o limit offset)
  return db.page engine.now q o limit offset

/-- The number of selected invoices, if they can be counted. -/
def count (q : Query) : Except Fault Nat := do
  db.refuse engine (.count q)
  return (db.selected engine.now q).length

end Database

end RowSieve.Store
