/-
Adding and removing rows under the rules of the schema. A statement that breaks a rule changes
nothing; of several rules broken at once the row's own checks come first, values that have to be
there before the others and these in the order of the schema, then the primary key, then unique
values, then references to other rows. A number that is none counts as missing.
-/
import RowSieve.Store.Error
import RowSieve.Store.Tables

namespace RowSieve.Store

/-- A rule, unless it is kept. -/
def require (kept : Bool) (p : Problem) : Except Error Unit :=
  if kept then .ok () else .error (.statement p)

/-- The number of characters of a text, up to one of code zero. -/
def textLength (s : String) : Nat := (Sql.untilZero s.toList).length

/-- A number as it is stored: a zero has no sign. -/
def storedReal (x : Binary64) : Binary64 := if x.isZero then .zero else x

/-- An invoice to be added; one that names no instant of payment is not paid. -/
structure NewInvoice where
  id : Int
  number : String
  customerId? : Option Int
  status : String
  totalAmount : Binary64
  issuedAt : String
  paidAt? : Option String
  isRecurring : Bool

/-- The invoice with the text that marks no instant where none is given. -/
def NewInvoice.invoice (n : NewInvoice) : Invoice :=
  ⟨n.id, n.number, n.customerId?, n.status, n.totalAmount, n.issuedAt,
    n.paidAt?.getD Calendar.noInstant, n.isRecurring⟩

/-- An item to be added; the store numbers it. -/
structure NewLineItem where
  invoiceId : Int
  productId? : Option Int
  productName : String
  quantity : Int
  unitPrice : Binary64

def customerStatuses : List String := ["A", "I"]

def invoiceStatuses : List String := ["D", "S", "P", "V"]

namespace Database

def hasCustomer (db : Database) (id : Int) : Bool := db.customers.any (·.id == id)
def hasProduct (db : Database) (id : Int) : Bool := db.products.any (·.id == id)
def hasInvoice (db : Database) (id : Int) : Bool := db.invoices.any (·.id == id)

/-! ## Adding rows -/

def insertCustomer (db : Database) (c : Customer) : Except Error Database := do
  require (1 ≤ textLength c.name) (.check "length(name) >= 1")
  require (textLength c.countryCode == 2) (.check "length(country_code) = 2")
  require (customerStatuses.contains c.status) (.check "status IN ('A', 'I')")
  require (!db.hasCustomer c.id) (.primaryKey "customers" "id")
  return { db with customers := db.customers ++ [c] }

def insertProduct (db : Database) (p : Product) : Except Error Database := do
  require (!db.hasProduct p.id) (.primaryKey "products" "id")
  require (!db.products.any (·.sku == p.sku)) (.unique "products" "sku")
  return { db with products := db.products ++ [p] }

def insertInvoice (db : Database) (i : Invoice) : Except Error Database := do
  require (!i.totalAmount.isNaN) (.required "invoices" "total_amount")
  require (invoiceStatuses.contains i.status) (.check "status IN ('D', 'S', 'P', 'V')")
  require (!db.hasInvoice i.id) (.primaryKey "invoices" "id")
  require (!db.invoices.any (·.number == i.number)) (.unique "invoices" "number")
  require (i.customerId?.all db.hasCustomer) .foreignKey
  return { db with
    invoices := db.invoices ++ [{ i with totalAmount := storedReal i.totalAmount }] }

/-- The number of the next item: one more than the greatest. -/
def nextItemId (db : Database) : Int := db.lineItems.foldl (fun m l => max m l.id) 0 + 1

/-- Adds an item and gives its number. -/
def insertLineItem (db : Database) (l : NewLineItem) : Except Error (Int × Database) := do
  require (!l.unitPrice.isNaN) (.required "line_items" "unit_price")
  require (0 < l.quantity) (.check "quantity > 0")
  require (db.hasInvoice l.invoiceId && l.productId?.all db.hasProduct) .foreignKey
  let id := db.nextItemId
  return (id, { db with
    lineItems := db.lineItems ++
      [⟨id, l.invoiceId, l.productId?, l.productName, l.quantity, storedReal l.unitPrice⟩] })

/-! ## Removing rows -/

/-- Removes a customer, whose invoices stay without one; gives the number of customers removed. -/
def deleteCustomer (db : Database) (id : Int) : Nat × Database :=
  (db.customers.countP (·.id == id),
   { db with
     customers := db.customers.filter (·.id != id)
     invoices := db.invoices.map fun i =>
       if i.customerId? = some id then { i with customerId? := none } else i })

/-- Removes a product, whose items stay without one. -/
def deleteProduct (db : Database) (id : Int) : Nat × Database :=
  (db.products.countP (·.id == id),
   { db with
     products := db.products.filter (·.id != id)
     lineItems := db.lineItems.map fun l =>
       if l.productId? = some id then { l with productId? := none } else l })

/-- Removes an invoice and its items. -/
def deleteInvoice (db : Database) (id : Int) : Nat × Database :=
  (db.invoices.countP (·.id == id),
   { db with
     invoices := db.invoices.filter (·.id != id)
     lineItems := db.lineItems.filter (·.invoiceId != id) })

def deleteLineItem (db : Database) (id : Int) : Nat × Database :=
  (db.lineItems.countP (·.id == id),
   { db with lineItems := db.lineItems.filter (·.id != id) })

end Database

end RowSieve.Store
