/-
Database files and their migration. A file without a table of versions receives the whole schema
at its current version; an older one is brought forward version by version. Each of these changes
is made whole or not at all, and is recorded in a history, in which every version stands once, with
the time of the change and how long it took.
-/
import RowSieve.Digest.Sha256
import RowSieve.Store.Schema
import RowSieve.Store.Insert

namespace RowSieve.Store

/-- When a change is made to a file, in seconds since the start of 1970, and how many milliseconds
it takes. -/
structure Stamp where
  time : Int
  duration : Int
deriving DecidableEq

/-- The version that a file has. -/
structure VersionRow where
  version : Int
  appliedAt : Int
  description? : Option String
deriving DecidableEq

/-- A change that was made to a file. -/
structure HistoryRow where
  version : Int
  name : String
  appliedAt : Int
  checksum : String
  duration? : Option Int
  success : Int
deriving DecidableEq

/-- A database file. A table that may be missing is `none` when it is. -/
structure File where
  /-- The table of versions, which has at most one row. -/
  versions? : Option (Option VersionRow)
  history? : Option (List HistoryRow)
  hasLineItems : Bool
  hasNameIndex : Bool
  data : Database
deriving DecidableEq

namespace File

/-- A file without any table. -/
def blank : File := ⟨none, none, false, false, .empty⟩

/-- The record of a change. -/
def entry (stamp : Stamp) (version : Int) (name statements : String) : HistoryRow :=
  ⟨version, name, stamp.time, Sha256.hex statements, some stamp.duration, 1⟩

/-- Records a change in the history. -/
def record (f : File) (stamp : Stamp) (version : Int) (name statements : String) :
    Except Error File :=
  match f.history? with
  | none => .error (.statement (.noSuchTable "schema_migrations"))
  | some rows =>
    if rows.any (·.version == version) then
      .error (.statement (.primaryKey "schema_migrations" "version"))
    else
      .ok { f with history? := some (rows ++ [entry stamp version name statements]) }

/-- Creates the tables and indexes that are missing. -/
def createMissing (f : File) : File :=
  { f with
    versions? := some (f.versions?.getD none)
    history? := some (f.history?.getD [])
    hasLineItems := true
    hasNameIndex := true }

/-- Gives the file the whole schema. -/
def applySchema (f : File) (stamp : Stamp) : Except Error File :=
  let f := f.createMissing
  let f := { f with
    versions? := some (some ⟨Schema.version, stamp.time, some "Initial schema"⟩) }
  f.record stamp Schema.version "initial_schema" Schema.statements

def secondVersionName : String := "index_line_item_product_name"

/-- The failure of the statement that brings a file to version two. -/
def secondVersionFails (p : Problem) : Error :=
  let opening := String.ofList (Schema.secondVersion.toList.take 50)
  .migration 2 secondVersionName s!"Failed at statement: {opening} - {p.message}"

/-- The failure to bring a file to a version that is not known. -/
def unknownVersion (version : Int) : Error :=
  .migration version "unknown" s!"Unknown migration version: {version}"

/-- Brings the file to version two. -/
def applySecond (f : File) (stamp : Stamp) : Except Error File :=
  if !f.hasLineItems then .error (secondVersionFails (.noSuchTable "main.line_items"))
  else
    let f := { f with
      hasNameIndex := true
      versions? := f.versions?.map fun (row? : Option VersionRow) =>
        row?.map fun _ => ⟨2, stamp.time, some secondVersionName⟩ }
    f.record stamp 2 secondVersionName Schema.secondVersion

/-- Brings the file to a version from the one before. -/
def applyVersion (f : File) (stamp : Stamp) (version : Int) : Except Error File :=
  if version = 1 then .ok f
  else if version = 2 then f.applySecond stamp
  else .error (unknownVersion version)

/-- Brings the file through `steps` versions from `version` on; stops at the first failure and
keeps what was done before it. -/
def applyVersions (stamp : Int → Stamp) (version : Int) :
    (steps : Nat) → File → Except Error Unit × File
  | 0, f => (.ok (), f)
  | steps + 1, f =>
    match f.applyVersion (stamp version) version with
    | .ok f' => applyVersions stamp (version + 1) steps f'
    | .error e => (.error e, f)

/-- Brings the file to the current version, if it has an older one. The change to each version has
its stamp. -/
def migrate (f : File) (stamp : Int → Stamp) : Except Error Unit × File :=
  match f.versions? with
  | none => match f.applySchema (stamp Schema.version) with
    | .ok f' => (.ok (), f')
    | .error e => (.error e, f)
  | some row? =>
    match Number.Bounds.signed32.check ((row?.map (·.version)).getD 0) with
    | .error e => (.error (.value 0 e.message), f)
    | .ok current => applyVersions stamp (current + 1) (Schema.version - current).toNat f

/-- The history in the order of versions; a missing table has no rows. -/
def history (f : File) : List HistoryRow :=
  (f.history?.getD []).mergeSort fun a b => a.version ≤ b.version

/-- The version of the file, if it has one. -/
def version? (f : File) : Option VersionRow := f.versions?.join

/-! ## Changes by hand -/

/-- A change that is made to a file from outside. -/
inductive Edit where
  | dropNameIndex
  | setVersion (version : Int)
  | deleteVersion
  | forget (version : Int)
  | rename (old new : Int)
  | dropVersions
  | dropHistory
  | dropLineItems

def missing (table : String) : Except Error File := .error (.statement (.noSuchTable table))

/-- The file after a change. -/
def edit (f : File) : Edit → Except Error File
  | .dropNameIndex => .ok { f with hasNameIndex := false }
  | .setVersion version => match f.versions? with
    | none => missing "schema_version"
    | some row? =>
      .ok { f with versions? := some (row?.map fun row => { row with version := version }) }
  | .deleteVersion => match f.versions? with
    | none => missing "schema_version"
    | some _ => .ok { f with versions? := some none }
  | .forget version => match f.history? with
    | none => missing "schema_migrations"
    | some rows => .ok { f with history? := some (rows.filter (·.version != version)) }
  | .rename old new => match f.history? with
    | none => missing "schema_migrations"
    | some rows =>
      if rows.any (·.version == old) && rows.any (·.version == new) && old != new then
        .error (.statement (.primaryKey "schema_migrations" "version"))
      else
        .ok { f with history? := some (rows.map fun row =>
          if row.version == old then { row with version := new } else row) }
  | .dropVersions =>
    if f.versions?.isNone then missing "schema_version" else .ok { f with versions? := none }
  | .dropHistory =>
    if f.history?.isNone then missing "schema_migrations" else .ok { f with history? := none }
  | .dropLineItems =>
    if f.hasLineItems then
      .ok { f with hasLineItems := false, hasNameIndex := false,
                   data := { f.data with lineItems := [] } }
    else missing "line_items"

/-- The file after several changes; the first that fails ends them. -/
def editAll (f : File) : List Edit → Except Error Unit × File
  | [] => (.ok (), f)
  | e :: rest => match f.edit e with
    | .ok f' => editAll f' rest
    | .error err => (.error err, f)

end File

end RowSieve.Store
