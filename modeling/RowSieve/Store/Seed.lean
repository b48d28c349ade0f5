/-
Demo data for a store without invoices. The rows are added one after another, so that what was
added before a row that is refused stays.
-/
import RowSieve.Store.Insert

namespace RowSieve.Store

def demoCustomers : List Customer :=
  [⟨1, "Acme GmbH", "DE", "A", some "billing@acme.test"⟩,
   ⟨2, "Globex", "US", "A", none⟩,
   ⟨3, "Initech", "US", "I", some "ap@initech.test"⟩]

def demoProducts : List Product :=
  [⟨1, "WID-1", "hardware"⟩, ⟨2, "GAD-1", "hardware"⟩, ⟨3, "SUP-1", "services"⟩]

def demoInvoices : List Invoice :=
  [⟨1, "INV-0001", some 1, "P", .ofInt 120, "2025-01-15 09:30:00", "2025-01-20 14:00:00", false⟩,
   ⟨2, "INV-0002", some 2, "S", .ofInt 80, "2025-01-15 23:59:59", Calendar.noInstant, true⟩,
   ⟨3, "INV-0003", some 3, "D", .ofInt 0, "2025-02-01 10:00:00", Calendar.noInstant, false⟩,
   ⟨4, "INV-0004", none, "V", .ofInt 300, "2025-02-10 08:15:00", Calendar.noInstant, false⟩]

def demoLineItems : List NewLineItem :=
  [⟨1, some 1, "Widget", 2, .ofInt 40⟩,
   ⟨1, some 3, "Support plan", 1, .ofInt 40⟩,
   ⟨2, some 2, "Gadget", 1, .ofInt 80⟩,
   ⟨4, some 1, "Widget", 5, .ofInt 40⟩,
   ⟨4, some 2, "Gadget", 1, .ofInt 100⟩]

/-- Adds rows up to the first that is refused; gives the outcome and what the store then holds. -/
def addEach {α : Type} (add : Database → α → Except Error Database) :
    List α → Database → Except Error Unit × Database
  | [], db => (.ok (), db)
  | a :: rest, db =>
    match add db a with
    | .ok db' => addEach add rest db'
    | .error e => (.error e, db)

/-- A step on the store, unless an earlier one has failed. -/
def next (outcome : Except Error Unit × Database)
    (step : Database → Except Error Unit × Database) : Except Error Unit × Database :=
  match outcome with
  | (.ok (), db) => step db
  | failed => failed

namespace Database

/-- Adds the demo data to a store without invoices; gives whether it did, and the store. -/
def seed (db : Database) : Except Error Bool × Database :=
  if !db.invoices.isEmpty then (.ok false, db)
  else
    let customers := addEach insertCustomer demoCustomers db
    let products := next customers (addEach insertProduct demoProducts)
    let invoices := next products (addEach insertInvoice demoInvoices)
    let items := next invoices
      (addEach (fun db l => (db.insertLineItem l).map (·.2)) demoLineItems)
    (items.1.map fun _ => true, items.2)

end Database

end RowSieve.Store
