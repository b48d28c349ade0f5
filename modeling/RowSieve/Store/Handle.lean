/-
A store that is open or has been closed. On a closed store every operation fails.
-/
import RowSieve.Store.Seed

namespace RowSieve.Store

inductive Handle where
  | opened (db : Database)
  | closed

namespace Handle

def database? : Handle → Option Database
  | opened db => some db
  | closed => none

/-- Runs a change of the store; one that fails may have changed it in part. -/
def run {α : Type} (h : Handle) (change : Database → Except Error α × Database) :
    Except Error α × Handle :=
  match h with
  | opened db => ((change db).1, opened (change db).2)
  | closed => (.error .closed, closed)

/-- Runs a change that is made whole or not at all. -/
def runWhole {α : Type} (h : Handle) (change : Database → Except Error (α × Database)) :
    Except Error α × Handle :=
  h.run fun db => match change db with
    | .ok (a, db') => (.ok a, db')
    | .error e => (.error e, db)

/-- Asks the store; a statement that cannot be carried out gives no answer. -/
def ask {α : Type} (h : Handle) (question : Database → Except Sql.Fault α) : Except Error α :=
  match h with
  | opened db => (question db).mapError fun fault => .statement (.statement fault)
  | closed => .error .closed

end Handle

end RowSieve.Store
