/-
Starting a server: settings, data directory, search, database, demo data and address, in this
order; the first that fails decides the error. What was made in the tree of files stays.
-/
import RowSieve.Http.Router
import RowSieve.Service.Address
import RowSieve.Service.Storage
import RowSieve.Store.Adoption
import RowSieve.Store.Seed

namespace RowSieve.Service

open RowSieve.CommandLine (Arguments)
open RowSieve.Files (Path Tree)

/-- Why a server does not start. -/
inductive StartError where
  | settings (e : SettingsError)
  | storage (e : StorageError)
  | search (e : Filter.CatalogError)
  | database (p : Path) (e : Store.Error)
  | seed (e : Store.Error)
  | address (e : AddressError)

namespace StartError

def message : StartError → String
  | settings e => e.message
  | storage e => e.message
  | search _ => "Invalid invoice filter registry"
  | database p _ => s!"Failed to open database: {String.ofList p}"
  | seed _ => "Failed to seed demo data"
  | address e => e.message

/-- What lies behind the error, the nearest cause first. -/
def causes : StartError → List String
  | settings e => e.causes
  | storage e => e.causes
  | search e => [e.message]
  | database _ e | seed e => e.message :: e.causes
  | address _ => []

end StartError

/-- A server with its settings and places, before it listens. -/
structure Opened where
  settings : Settings
  dataDirectory : Path
  databasePath : Path
  server : Http.Server

/-- A step of starting, which may change the tree of files. -/
abbrev Starting (α : Type) := ExceptT StartError (StateM Tree) α

namespace Starting

/-- A step that changes nothing. -/
def ask {α ε : Type} (error : ε → StartError) (outcome : Except ε α) : Starting α :=
  match outcome with
  | .ok a => return a
  | .error e => throw (error e)

/-- A step that leaves a tree behind. -/
def change {α ε : Type} (error : ε → StartError) (step : Tree → Except ε α × Tree) :
    Starting α := do
  let (outcome, tree) := step (← get)
  set tree
  ask error outcome

end Starting

/-- The store of a database file that was blank. -/
def openBlankStore (stamp : Int → Store.Stamp) (settings : Settings) (path : Path) :
    Starting Store.Handle := do
  let (outcome, file) := Store.File.blank.migrate stamp
  Starting.ask (.database path) outcome
  if settings.seedDemo then do
    let (outcome, db) := file.data.seed
    let _ ← Starting.ask .seed outcome
    return .opened db
  else return .opened file.data

/-- The store of a database file that held something. The rows it brings along are not taken into
the store. -/
def openFoundStore (settings : Settings) (path : Path) (found : Store.Inventory) :
    Starting Store.Handle := do
  let inventory ← Starting.ask (.database path) found.migrate
  if settings.seedDemo then
    Starting.ask (fun problem => .seed (.statement problem)) inventory.seed
  return .opened .empty

/-- Opens all that a server needs. -/
def openAll (s : Surroundings) (args : Arguments) : Starting Opened := do
  let settings ← Starting.ask .settings (Settings.load s args)
  let data ← Starting.change .storage fun tree => Storage.prepare { s with tree := tree }
  let search ← Starting.ask .search Invoice.Search.standard
  let path := Storage.databasePath settings data
  let found? ← Starting.change (.database path) fun tree => Storage.openDatabase tree path
  let store ← match found? with
    | none => openBlankStore s.stamp settings path
    | some found => openFoundStore settings path found
  return ⟨settings, data, path, ⟨store, search, settings.limits, s.engine⟩⟩

/-- The address that a server listens at. -/
def Opened.address (o : Opened) : Starting Address :=
  Starting.ask .address (Address.ofHost o.settings.host)

end RowSieve.Service
