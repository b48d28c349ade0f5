/-
What a program finds when it starts, and the settings that a server runs with. Each setting is the
first that is given: by the arguments, by the file laid on top, by the profile, or else by default.
Demo data and debug mode are on when the arguments ask for them, whatever the files say.
-/
import RowSieve.CommandLine.Arguments
import RowSieve.CommandLine.Help
import RowSieve.Files.Tree
import RowSieve.Filter.Intake
import RowSieve.Service.SettingsFile
import RowSieve.Store.Listing
import RowSieve.Store.Migration

namespace RowSieve.Service

open RowSieve.CommandLine (Arguments Variables)
open RowSieve.Files (Fault Path Tree)

/-! ## Surroundings -/

/-- What a program finds when it starts: the variables of its environment, its home directory, the
directory it runs in, the tree of files, the engine of its store, and the stamps that changes of
database files get. -/
structure Surroundings where
  environment : Variables
  home : Path
  current : Path
  tree : Tree
  engine : Store.Engine
  stamp : Int → Store.Stamp

namespace Surroundings

def value? (s : Surroundings) (name : String) : Option String := s.environment.get? name

/-- The absolute path that a user means. -/
def expand (s : Surroundings) (input : Path) : Path := Path.expand s.home s.current input

/-- Whether something stands where a path leads from the current directory. -/
def exists? (s : Surroundings) (p : Path) : Bool := s.tree.exists? (s.current.join p)

/-- The text of a file, from the current directory. -/
def readText (s : Surroundings) (p : Path) : Except Fault String :=
  s.tree.readText (s.current.join p)

end Surroundings

/-! ## Settings -/

/-- The settings that a server runs with. -/
structure Settings where
  host : String
  port : Nat
  /-- The database file, if it is not in its usual place. -/
  databasePath? : Option Path
  seedDemo : Bool
  limits : Filter.Limits
  debug : Bool
deriving DecidableEq

/-- A setting that no server can run with. -/
inductive Unfit where
  | emptyHost
  | zeroPort
  | zeroMaxFilters
  | zeroMaxJsonBytes
deriving DecidableEq

def Unfit.message : Unfit → String
  | emptyHost => "Configuration error: server.host must not be empty"
  | zeroPort => "Configuration error: server.port must be greater than 0"
  | zeroMaxFilters => "Configuration error: filters.max_filters must be greater than 0"
  | zeroMaxJsonBytes => "Configuration error: filters.max_json_bytes must be greater than 0"

/-- Why there are no settings. -/
inductive SettingsError where
  | missingFile (p : Path)
  | unreadableFile (p : Path) (fault : Files.Fault)
  | malformedFile (p : Path) (fault : Json.Fault)
  | unfit (what : Unfit)

namespace SettingsError

def message : SettingsError → String
  | missingFile p => s!"Config file not found: {String.ofList p}"
  | unreadableFile p _ => s!"Failed to read config file: {String.ofList p}"
  | malformedFile p _ => s!"Failed to parse config file: {String.ofList p}"
  | unfit what => what.message

/-- What lies behind the error. -/
def causes : SettingsError → List String
  | unreadableFile _ fault => [fault.message]
  | malformedFile _ fault => [fault.message]
  | _ => []

end SettingsError

namespace Settings

def defaultHost : String := "127.0.0.1"

def defaultPort : Nat := 5390

/-- The settings that arguments and files give together. -/
def layered (s : Surroundings) (args : Arguments) (file : SettingsFile) : Settings :=
  let server := file.server?.getD .blank
  let database := file.database?.getD .blank
  let filters := file.filters?.getD .blank
  let standard := Filter.Limits.standard
  { host := (args.host?.or server.host?).getD defaultHost
    port := (args.port?.or server.port?).getD defaultPort
    databasePath? := (args.dbPath?.or database.path?).map fun p => s.expand p.toList
    seedDemo := args.seedDemo || database.seedDemo?.getD false
    limits := ⟨(args.maxFilters?.or filters.maxFilters?).getD standard.maxRequests,
      filters.maxJsonBytes?.getD standard.maxJsonBytes⟩
    debug := args.debug || file.debug?.getD false }

/-- The first setting that no server can run with. -/
def unfit? (s : Settings) : Option Unfit :=
  if s.host.isEmpty then some .emptyHost
  else if s.port = 0 then some .zeroPort
  else if s.limits.maxRequests = 0 then some .zeroMaxFilters
  else if s.limits.maxJsonBytes = 0 then some .zeroMaxJsonBytes
  else none

/-! ## Files -/

/-- The name of a file of settings. -/
def fileName : Path := "relquery.json".toList

/-- The file of settings in the profile of a user. -/
def profilePath (s : Surroundings) : Path := (s.home.join ".relquery".toList).join fileName

/-- What a file says. -/
def readFile (s : Surroundings) (p : Path) : Except SettingsError SettingsFile :=
  match s.readText p with
  | .error fault => .error (.unreadableFile p fault)
  | .ok text => (SettingsFile.ofText text).mapError (.malformedFile p)

/-- What a file says that may be missing. -/
def readFile? (s : Surroundings) (p : Path) : Except SettingsError SettingsFile :=
  if s.exists? p then readFile s p else .ok .blank

/-- What the topmost file says: the one that is asked for, which has to exist, or else the one in
the current directory. -/
def readTopmost (s : Surroundings) (args : Arguments) : Except SettingsError SettingsFile :=
  match args.config? with
  | none => readFile? s fileName
  | some asked =>
    let p := s.expand asked.toList
    if s.exists? p then readFile s p else .error (.missingFile p)

/-- The settings that a server runs with. -/
def load (s : Surroundings) (args : Arguments) : Except SettingsError Settings := do
  let profile ← readFile? s (profilePath s)
  let topmost ← readTopmost s args
  let settings := layered s args (profile.overlay topmost)
  match settings.unfit? with
  | some what => .error (.unfit what)
  | none => .ok settings

end Settings

end RowSieve.Service
