/-
Calls on the store. A call adds one row, whole or not at all, or the demo data, of which the rows
before a refused one stay.
-/
import RowSieve.Store.Handle

namespace RowSieve.Store

/-- A row as a call gives it. -/
inductive Entry where
  | customer (c : Customer)
  | product (p : Product)
  | invoice (n : NewInvoice)
  | lineItem (l : NewLineItem)

inductive Call where
  | add (e : Entry)
  | seed

/-- What a call answers when it succeeds. -/
inductive Answer where
  | added
  /-- The item that was added has this number. -/
  | numbered (id : Int)
  /-- Whether the demo data was added. -/
  | seeded (did : Bool)
deriving DecidableEq

/-- Adds a row to its table. -/
def Database.add (db : Database) : Entry → Except Error (Answer × Database)
  | .customer c => (db.insertCustomer c).map (Answer.added, ·)
  | .product p => (db.insertProduct p).map (Answer.added, ·)
  | .invoice n => (db.insertInvoice n.invoice).map (Answer.added, ·)
  | .lineItem l => (db.insertLineItem l).map fun (id, db) => (Answer.numbered id, db)

namespace Handle

/-- The answer to a call, and the store after it. -/
def call (h : Handle) : Call → Except Error Answer × Handle
  | .add e => h.runWhole (·.add e)
  | .seed => h.run fun db => (db.seed.1.map .seeded, db.seed.2)

/-- The store after calls, whether they succeed or not. -/
def after (h : Handle) (calls : List Call) : Handle := calls.foldl (fun h c => (h.call c).2) h

end Handle

end RowSieve.Store
