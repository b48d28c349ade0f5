/-
The schema of the store, as the statements that create it, and the statement of the one later
version. Days and instants are stored as text; `paid_at` is never null and holds the zero instant
for an invoice that is not paid.
-/
namespace RowSieve.Store.Schema

/-- The version of the schema below. -/
def version : Int := 2

/-- The statements that create all tables and indexes that are missing. -/
def statements : String := "
-- =============================================================================
-- Infrastructure: Schema version tracking
-- =============================================================================
CREATE TABLE IF NOT EXISTS schema_version (
    id INTEGER PRIMARY KEY CHECK (id = 1),
    version INTEGER NOT NULL,
    applied_at INTEGER NOT NULL,
    description TEXT
);

CREATE TABLE IF NOT EXISTS schema_migrations (
    version INTEGER PRIMARY KEY,
    name TEXT NOT NULL,
    applied_at INTEGER NOT NULL,
    checksum TEXT NOT NULL,
    execution_time_ms INTEGER,
    success INTEGER NOT NULL DEFAULT 1
);

-- =============================================================================
-- 1. Customers
-- =============================================================================
CREATE TABLE IF NOT EXISTS customers (
    id INTEGER PRIMARY KEY,
    name TEXT NOT NULL CHECK(length(name) >= 1),
    country_code TEXT NOT NULL CHECK(length(country_code) = 2),
    status TEXT NOT NULL DEFAULT 'A' CHECK(status IN ('A', 'I')),
    email TEXT
);

-- =============================================================================
-- 2. Products
-- =============================================================================
CREATE TABLE IF NOT EXISTS products (
    id INTEGER PRIMARY KEY,
    sku TEXT NOT NULL UNIQUE,
    category TEXT NOT NULL
);

-- =============================================================================
-- 3. Invoices (customer is optional)
-- =============================================================================
CREATE TABLE IF NOT EXISTS invoices (
    id INTEGER PRIMARY KEY,
    number TEXT NOT NULL UNIQUE,
    customer_id INTEGER REFERENCES customers(id) ON DELETE SET NULL,
    status TEXT NOT NULL DEFAULT 'D' CHECK(status IN ('D', 'S', 'P', 'V')),
    total_amount REAL NOT NULL DEFAULT 0,
    issued_at TEXT NOT NULL,
    paid_at TEXT NOT NULL DEFAULT '0000-00-00 00:00:00',
    is_recurring INTEGER NOT NULL DEFAULT 0 CHECK(is_recurring IN (0, 1))
);

CREATE INDEX IF NOT EXISTS idx_invoices_customer ON invoices(customer_id);
CREATE INDEX IF NOT EXISTS idx_invoices_issued_at ON invoices(issued_at);

-- =============================================================================
-- 4. Line items (references invoices + products)
-- =============================================================================
CREATE TABLE IF NOT EXISTS line_items (
    id INTEGER PRIMARY KEY,
    invoice_id INTEGER NOT NULL REFERENCES invoices(id) ON DELETE CASCADE,
    product_id INTEGER REFERENCES products(id) ON DELETE SET NULL,
    product_name TEXT NOT NULL,
    quantity INTEGER NOT NULL CHECK(quantity > 0),
    unit_price REAL NOT NULL DEFAULT 0
);

CREATE INDEX IF NOT EXISTS idx_line_items_invoice ON line_items(invoice_id);
CREATE INDEX IF NOT EXISTS idx_line_items_product_name ON line_items(product_name);
"

/-- The statement that brings a store of version one to version two. -/
def secondVersion : String :=
  "CREATE INDEX IF NOT EXISTS idx_line_items_product_name ON line_items(product_name)"

end RowSieve.Store.Schema
