/-
The search for invoices: which fields clients may filter by, how the tables around invoices join,
and the query that a list of requests asks for. Every relation path of a search joins, by
construction.
-/
import RowSieve.Sql.Query

namespace RowSieve.Invoice

open RowSieve.Filter (Catalog CatalogError Field Labels Request)
open RowSieve.Sql (Join Joins Query)

def tableName : String := "invoices"

/-- The columns that a listing can be ordered by. -/
def orderColumns : List String := ["id", "number", "total_amount", "issued_at", "paid_at"]

/-- The column that a listing is ordered by when the client names none. -/
def defaultOrderColumn : String := "issued_at"

def statusLabels : Labels := ⟨[("D", "draft"), ("S", "sent"), ("P", "paid"), ("V", "void")]⟩

def customerStatusLabels : Labels := ⟨[("A", "active"), ("I", "inactive")]⟩

/-- The label of a stored status; one without a label is shown as it is. -/
def statusLabel (code : String) : String := (statusLabels.label? code).getD code

/-- The joins that are reached from an invoice. -/
def joins : Joins :=
  Joins.empty
    |>.add tableName "customer" ⟨"customers", "customer_id", "id"⟩
    |>.add tableName "lineItems" ⟨"line_items", "id", "invoice_id"⟩
    |>.add "line_items" "product" ⟨"products", "product_id", "id"⟩

/-- The fields that invoices can be filtered by. -/
def fields : List Field :=
  [.ofKind "number" .text,
   (Field.ofKind "status" .choice).labelled statusLabels,
   .ofKind "total_amount" .number,
   .ofKind "issued_at" .date,
   .ofKind "paid_at" .datetime,
   .ofKind "is_recurring" .boolean,
   ((Field.ofKind "customer.country" .text).withPath "customer.country_code").only
     [.equals, .notEquals, .among, .notAmong, .isNull, .isNotNull],
   (Field.ofKind "customer.status" .choice).labelled customerStatusLabels,
   .ofKind "customer.email" .text,
   .ofKind "lineItems.product_name" .text,
   .ofKind "lineItems.quantity" .number,
   (Field.ofKind "lineItems.product.category" .text).only [.equals, .notEquals, .among, .notAmong]]

/-- Whether every field's relations join; the first that does not decides the error. -/
def checkJoins (js : Joins) : List Field → Except CatalogError Unit
  | [] => .ok ()
  | f :: rest =>
    match js.walk tableName f.path.relations with
    | .ok _ => checkJoins js rest
    | .error relation => .error (.unknownRelation f.key relation)

/-- A catalog of fields whose relations join. -/
structure Search where
  catalog : Catalog
  joins : Joins
  joined : checkJoins joins catalog.fields = .ok ()

namespace Search

/-- Binds a catalog to joins. -/
def ofParts (catalog : Catalog) (js : Joins) : Except CatalogError Search :=
  match h : checkJoins js catalog.fields with
  | .ok () => .ok ⟨catalog, js, h⟩
  | .error e => .error e

/-- The search that is served. -/
def standard : Except CatalogError Search := do
  let catalog ← Catalog.ofFields fields
  ofParts catalog Invoice.joins

/-- The query on invoices that all requests together ask for. -/
def query (s : Search) (requests : List Request) : Except Filter.Error Query :=
  match Filter.Target.addRequests (Query.start s.joins tableName) s.catalog requests with
  | (.ok _, q) => .ok q
  | (.error e, _) => .error e

end Search

end RowSieve.Invoice
