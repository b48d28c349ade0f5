/-
The tables of the store: customers, products, invoices and the items of invoices, each in the
order of insertion, and the same rows as statements read them.
-/
import RowSieve.Calendar.Storage
import RowSieve.Sql.Eval

namespace RowSieve.Store

open RowSieve.Sql (Cell Row Tables)

structure Customer where
  id : Int
  name : String
  countryCode : String
  status : String
  email? : Option String
deriving DecidableEq

structure Product where
  id : Int
  sku : String
  category : String
deriving DecidableEq

/-- An invoice; `paidAt` is the text that marks no instant when it is not paid. -/
structure Invoice where
  id : Int
  number : String
  customerId? : Option Int
  status : String
  totalAmount : Binary64
  issuedAt : String
  paidAt : String
  isRecurring : Bool
deriving DecidableEq

structure LineItem where
  id : Int
  invoiceId : Int
  productId? : Option Int
  productName : String
  quantity : Int
  unitPrice : Binary64
deriving DecidableEq

/-- The contents of the store. -/
structure Database where
  customers : List Customer
  products : List Product
  invoices : List Invoice
  lineItems : List LineItem
deriving DecidableEq

def Database.empty : Database := ⟨[], [], [], []⟩

/-! ## Rows as statements read them -/

def cellOfInt? : Option Int → Cell
  | some n => .integer n
  | none => .null

def cellOfText? : Option String → Cell
  | some s => .text s
  | none => .null

/-- The values of columns; any other column is null. -/
def cellsOf (cells : List (String × Cell)) (name : String) : Cell :=
  (cells.lookup name).getD .null

def Customer.cell (c : Customer) : String → Cell :=
  cellsOf [("id", .integer c.id), ("name", .text c.name), ("country_code", .text c.countryCode),
    ("status", .text c.status), ("email", cellOfText? c.email?)]

def Product.cell (p : Product) : String → Cell :=
  cellsOf [("id", .integer p.id), ("sku", .text p.sku), ("category", .text p.category)]

def Invoice.cell (i : Invoice) : String → Cell :=
  cellsOf [("id", .integer i.id), ("number", .text i.number),
    ("customer_id", cellOfInt? i.customerId?), ("status", .text i.status),
    ("total_amount", .real i.totalAmount), ("issued_at", .text i.issuedAt),
    ("paid_at", .text i.paidAt), ("is_recurring", .integer (if i.isRecurring then 1 else 0))]

def LineItem.cell (l : LineItem) : String → Cell :=
  cellsOf [("id", .integer l.id), ("invoice_id", .integer l.invoiceId),
    ("product_id", cellOfInt? l.productId?), ("product_name", .text l.productName),
    ("quantity", .integer l.quantity), ("unit_price", .real l.unitPrice)]

/-- An invoice as it is read at a moment. -/
def Invoice.row (now : Int) (i : Invoice) : Row := ⟨i.cell, now⟩

/-- The tables as statements read them at a moment. -/
def Database.tables (now : Int) (db : Database) : Tables
  | "customers" => db.customers.map fun c => ⟨c.cell, now⟩
  | "products" => db.products.map fun p => ⟨p.cell, now⟩
  | "invoices" => db.invoices.map (Invoice.row now)
  | "line_items" => db.lineItems.map fun l => ⟨l.cell, now⟩
  | _ => []

end RowSieve.Store
