/-
Where a server keeps its data: a directory that is made when it is missing, with one below it for
the database, and the database file itself. A file can be opened when it is empty, when it can be
created, or when it holds a database. To write to it, others have to be made beside it.
-/
import RowSieve.Service.Settings
import RowSieve.Store.Image.Inventory

namespace RowSieve.Service

open RowSieve.Files (Node Path Place Tree)

/-- Why there is no place for data. -/
inductive StorageError where
  | dataDirectory (p : Path) (fault : Files.Fault)
  | databaseDirectory (p : Path) (fault : Files.Fault)

namespace StorageError

def message : StorageError → String
  | dataDirectory p _ => s!"Failed to create data directory: {String.ofList p}"
  | databaseDirectory p _ => s!"Failed to create sqlite directory: {String.ofList p}"

/-- What lies behind the error. -/
def causes : StorageError → List String
  | dataDirectory _ fault | databaseDirectory _ fault => [fault.message]

end StorageError

namespace Storage

/-- The name of the directory for the database. -/
def databaseDirectoryName : Path := "sqlite".toList

/-- The data directory: the one that the environment names, or else the program's own among the
data of the user. -/
def dataDirectory (s : Surroundings) : Path :=
  match s.value? "RELQUERY_DATA_DIR" with
  | some named => s.expand named.toList
  | none =>
    let shared := ((s.value? "XDG_DATA_HOME").map String.toList).filter Path.isAbsolute
    (shared.getD (s.home.join ".local/share".toList)).join "relquery".toList

/-- Makes the data directory and the one below it, and gives the plainest path to it. -/
def prepare (s : Surroundings) : Except StorageError Path × Tree :=
  let data := dataDirectory s
  match s.tree.makeAll (s.current.join data) with
  | .error fault => (.error (.dataDirectory data fault), s.tree)
  | .ok tree =>
    let below := data.join databaseDirectoryName
    match tree.makeAll (s.current.join below) with
    | .error fault => (.error (.databaseDirectory below fault), tree)
    | .ok tree => (.ok ((tree.canonical? (s.current.join data)).getD data), tree)

/-- The database file: the one that the settings name, or else the one in the data directory. -/
def databasePath (settings : Settings) (data : Path) : Path :=
  settings.databasePath?.getD ((data.join databaseDirectoryName).join "relquery.db".toList)

/-! ## Database files -/

/-- The greatest number of bytes in the path of a database file. -/
def databasePathLimit : Nat := 504

/-- The greatest number of bytes in a path on the way there. -/
def partialPathLimit : Nat := 511

def pathLength (place : Place) : Nat := Text.Utf8.byteLength (Path.ofNames place)

/-- The place that is one step from another, whether or not something stands there. -/
def nominalStep (place : Place) (name : List Char) : Place :=
  if name == Path.up then place.dropLast else place ++ [name]

/-- The place that a path names when its steps are taken one after the other, whether or not
something stands on the way. -/
def nominalPlace (p : Path) : Place := p.names.foldl nominalStep []

/-- The place of a database file, unless the way there is too long. -/
def databasePlace? (p : Path) : Option Place := do
  let place ← p.names.foldlM (fun place name =>
    let next := nominalStep place name
    if partialPathLimit < pathLength next then none else some next) []
  if databasePathLimit < pathLength place then none else some place

/-- A file that stands beside a database file and has a longer name. -/
inductive Companion where
  /-- What it takes to undo a change. -/
  | journal
  /-- Changes that are yet to be made. -/
  | ahead
  /-- Where to find what in those changes. -/
  | shared
deriving DecidableEq

namespace Companion

def all : List Companion := [journal, ahead, shared]

def suffix : Companion → List Char
  | journal => "-journal".toList
  | ahead => "-wal".toList
  | shared => "-shm".toList

def place (c : Companion) (database : Place) : Place :=
  database.dropLast ++ [database.getLast?.getD [] ++ c.suffix]

/-- Whether a directory stands where the file should. -/
def isDirectory (c : Companion) (t : Tree) (database : Place) : Bool :=
  (t.node? (c.place database)).any Node.isDirectory

/-- Whether a file of that name can be made. -/
def canBeNamed (c : Companion) (database : Place) : Bool :=
  Text.Utf8.byteLength ((c.place database).getLast?.getD []) ≤ Tree.nameLimit

end Companion

/-- Opens a file in which nothing has been written. -/
def openBlank (t : Tree) (place : Place) : Except Store.Problem Unit := do
  if Companion.ahead.isDirectory t place then throw (.cannotAccess 2570)
  if Companion.journal.isDirectory t place || !Companion.journal.canBeNamed place then
    throw .cannotOpen
  if Companion.shared.isDirectory t place then throw .readOnly

/-- Opens a file in which something has been written. -/
def openImage (t : Tree) (place : Place) (f : Store.Image) :
    Except Store.Problem Store.Inventory := do
  if Companion.journal.isDirectory t place then throw (.cannotAccess 266)
  if Companion.ahead.isDirectory t place then throw .cannotOpen
  let inventory ← Store.Inventory.ofImage f
  if !f.isWritable then throw .readOnly
  if f.isAhead then
    if !Companion.ahead.canBeNamed place then throw .cannotOpen
  else
    if !Companion.journal.canBeNamed place then throw .cannotOpen
    f.checkChange
  if Companion.shared.isDirectory t place then throw .readOnly
  return inventory

/-- Opens the file at a place, and creates it if nothing stands there; gives what it holds, unless
it is blank. -/
def openFile (t : Tree) (place : Place) :
    Except Store.Problem (Option Store.Inventory × Tree) := do
  match t.node? place with
  | some .directory => throw .cannotOpen
  | some (.file bytes) =>
    let f : Store.Image := ⟨bytes⟩
    if f.isBlank then
      openBlank t place
      return (none, t)
    return (← openImage t place f, t)
  | none =>
    if (t.inside place.dropLast (place.getLast?.getD [])).isOk then
      openBlank t place
      return (none, t.put place (.file .empty))
    else throw .cannotOpen

/-- Opens a database file by its absolute path; the directories above it are made if they are
missing. -/
def openDatabase (t : Tree) (p : Path) : Except Store.Error (Option Store.Inventory) × Tree :=
  match t.makeAll (.ofNames p.names.dropLast) with
  | .error fault => (.error (.io fault.message), t)
  | .ok t =>
    if p.contains '\x00' then
      (.error (.fileName "filename passed to SQLite must not contain nul bytes"), t)
    else match databasePlace? p with
      | none => (.error (.statement .cannotOpen), t)
      | some place => match openFile t place with
        | .error problem => (.error (.statement problem), t)
        | .ok (found?, t) => (.ok found?, t)

end Storage

end RowSieve.Service
