/-
The routes of the server and their answers. A listing goes through its stages in order: page and
limit, filters, order, meaning of the filters, rows; the first stage that fails decides the
answer.
-/
import RowSieve.Http.ListParams
import RowSieve.Http.Origin
import RowSieve.Http.QueryString
import RowSieve.Invoice.Search
import RowSieve.Store.Handle
import RowSieve.Store.Listing

namespace RowSieve.Http

open RowSieve.Filter (Limits)
open RowSieve.Invoice (Search)
open RowSieve.Store (Engine Handle InvoiceRow)

/-- The version of the program. -/
def version : String := "0.3.0"

/-- What requests are answered from. -/
structure Server where
  store : Handle
  search : Search
  limits : Limits
  engine : Engine

/-- What a request may ask for. -/
inductive Route where
  | health
  | invoices
  | filters
deriving DecidableEq

/-- The route of a path, which has to be exactly its own. -/
def Route.ofPath? : String → Option Route
  | "/api/v1/health" => some health
  | "/api/v1/invoices" => some invoices
  | "/api/v1/invoices/filters" => some filters
  | _ => none

/-! ## Answers -/

/-- An invoice as clients see it. -/
def invoiceJson (r : InvoiceRow) : Json :=
  let i := r.invoice
  .object [("id", .int i.id), ("number", .text i.number),
    ("customer_id", Json.orNull .int i.customerId?),
    ("customer_name", Json.orNull .text r.customerName?),
    ("status", .text (Invoice.statusLabel i.status)), ("total_amount", .real i.totalAmount),
    ("issued_at", .text i.issuedAt),
    ("paid_at", if i.paidAt = Calendar.noInstant then .null else .text i.paidAt),
    ("is_recurring", .bool i.isRecurring), ("line_item_count", .int r.lineItemCount)]

/-- A page of a listing. -/
def pageJson (rows : List InvoiceRow) (page : Page) (total : Nat) : Json :=
  .object [("data", .list (rows.map invoiceJson)),
    ("meta", .object [("page", .int page.number), ("limit", .int page.limit),
      ("total_items", .int total), ("total_pages", .int (page.count total))])]

def healthResponse (store : Handle) : Response :=
  let (status, state, database) := match store with
    | .opened _ => (200, "ok", "ok")
    | .closed => (503, "degraded", "unavailable")
  .json status (.object [("status", .text state), ("version", .text version),
    ("database", .text database)])

/-- The order asked for; by date of issue, latest first, when none is. -/
def readOrder : Option String → Except Error Order
  | some text => Order.read text Invoice.orderColumns
  | none => .ok ⟨Invoice.defaultOrderColumn, .falling⟩

/-- The listing that the pairs of a query ask for. -/
def listInvoices (s : Server) (pairs : List (String × String)) : Except Error Json := do
  let params ← readListParams pairs
  let requests ← (Filter.intake s.limits pairs).mapError Error.ofIntake
  let order ← readOrder params.orderBy?
  let query ← (s.search.query requests).mapError Error.ofFilter
  let page := params.page
  (s.store.ask fun db => do
    let total ← db.count s.engine query
    return pageJson (← db.list s.engine query order page.limit page.offset) page total).mapError
      Error.ofStore

def answer (s : Server) (query : String) : Route → Response
  | .health => healthResponse s.store
  | .filters => .json 200 (.object [("filters", s.search.catalog.toJson)])
  | .invoices =>
    match listInvoices s (decodeQuery query) with
    | .ok body => .json 200 body
    | .error e => e.response

/-- The answer to a request. A known route takes `GET`, and `HEAD`, whose answers have no body. -/
def respond (s : Server) (method address : String) : Response :=
  let (path, query) := splitAddress address
  let full := match Route.ofPath? path with
    | some route =>
      if method == "GET" || method == "HEAD" then answer s query route else ⟨405, none⟩
    | none => (Error.notFound "ROUTE_NOT_FOUND" s!"No route for {method} {path}").response
  if method == "HEAD" then { full with body? := none } else full

/-- The status of the answer when browsers of other origins may ask first: those questions are
always answered. -/
def statusForBrowser (s : Server) (method address : String) : Nat :=
  if method == "OPTIONS" then 200 else (respond s method address).status

end RowSieve.Http
