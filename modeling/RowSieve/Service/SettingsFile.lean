/-
Files of settings. Each holds a JSON object with up to three sections and the debug mode; every
field may be left out or `null`, and members that are none of these are kept by name. One file is
laid over another field by field: what it leaves out stays as it was.
-/
import RowSieve.Json.Reader

namespace RowSieve.Service

open RowSieve.Json (Reader RecordForm)

/-- The address that is served. -/
structure ServerSection where
  host? : Option String
  port? : Option Nat
deriving DecidableEq

/-- The database that is served from. -/
structure DatabaseSection where
  path? : Option String
  seedDemo? : Option Bool
deriving DecidableEq

/-- The limits on filters of a query. -/
structure FilterSection where
  maxFilters? : Option Nat
  maxJsonBytes? : Option Nat
deriving DecidableEq

/-- What a file of settings says. -/
structure SettingsFile where
  server? : Option ServerSection
  database? : Option DatabaseSection
  filters? : Option FilterSection
  debug? : Option Bool
  /-- The members that are no settings, in order. -/
  unknown : List String
deriving DecidableEq

/-! ## Laying over -/

def ServerSection.blank : ServerSection := ⟨none, none⟩

def ServerSection.overlay (base upper : ServerSection) : ServerSection :=
  ⟨upper.host?.or base.host?, upper.port?.or base.port?⟩

def DatabaseSection.blank : DatabaseSection := ⟨none, none⟩

def DatabaseSection.overlay (base upper : DatabaseSection) : DatabaseSection :=
  ⟨upper.path?.or base.path?, upper.seedDemo?.or base.seedDemo?⟩

def FilterSection.blank : FilterSection := ⟨none, none⟩

def FilterSection.overlay (base upper : FilterSection) : FilterSection :=
  ⟨upper.maxFilters?.or base.maxFilters?, upper.maxJsonBytes?.or base.maxJsonBytes?⟩

/-- A section laid over one that may be missing. -/
def overlaySection {α : Type} (blank : α) (overlay : α → α → α) (base? upper? : Option α) :
    Option α :=
  match upper? with
  | none => base?
  | some upper => some (overlay (base?.getD blank) upper)

namespace SettingsFile

def blank : SettingsFile := ⟨none, none, none, none, []⟩

/-- The settings of `base` with those of `upper` laid over them. -/
def overlay (base upper : SettingsFile) : SettingsFile where
  server? := overlaySection .blank ServerSection.overlay base.server? upper.server?
  database? := overlaySection .blank DatabaseSection.overlay base.database? upper.database?
  filters? := overlaySection .blank FilterSection.overlay base.filters? upper.filters?
  debug? := upper.debug?.or base.debug?
  unknown := base.unknown

end SettingsFile

/-! ## Reading -/

/-- The members of a section that have been read. -/
structure SectionParts (α β : Type) where
  first? : Option (Option α)
  second? : Option (Option β)

/-- A section of two fields, each of which may be `null`. -/
def sectionForm {α β : Type} (name first second : String) (readFirst : Reader α)
    (readSecond : Reader β) : RecordForm (SectionParts α β) where
  name := name
  blank := ⟨none, none⟩
  fields := [
    { name := first, mayEnd := false, given := (·.first?.isSome),
      read := fun _ parts => do
        return { parts with first? := some (← Json.Reader.optional readFirst) } },
    { name := second, mayEnd := false, given := (·.second?.isSome),
      read := fun _ parts => do
        return { parts with second? := some (← Json.Reader.optional readSecond) } }]

/-- Reads a section and makes it of its fields. -/
def readSection {α β γ : Type} (form : RecordForm (SectionParts α β))
    (make : Option α → Option β → γ) (depth : Nat) : Reader (Option γ) :=
  Json.Reader.optional <|
    form.read (fun parts => .ok (make parts.first?.join parts.second?.join)) depth

/-- A number that fits a word of the machine. -/
def sizeValue : Reader Nat := Json.Reader.natValue "usize" 0x10000000000000000

def ServerSection.read (depth : Nat) : Reader (Option ServerSection) :=
  readSection (sectionForm "ServerFileConfig" "host" "port" Json.Reader.textValue
    (Json.Reader.natValue "u16" 0x10000)) ServerSection.mk depth

def DatabaseSection.read (depth : Nat) : Reader (Option DatabaseSection) :=
  readSection (sectionForm "DatabaseFileConfig" "path" "seed_demo" Json.Reader.textValue
    Json.Reader.boolValue) DatabaseSection.mk depth

def FilterSection.read (depth : Nat) : Reader (Option FilterSection) :=
  readSection (sectionForm "FiltersFileConfig" "max_filters" "max_json_bytes" sizeValue sizeValue)
    FilterSection.mk depth

namespace SettingsFile

/-- The members of a file that have been read. -/
structure Parts where
  server? : Option (Option ServerSection)
  database? : Option (Option DatabaseSection)
  filters? : Option (Option FilterSection)
  debug? : Option (Option Bool)
  unknown : List String

def form : RecordForm Parts where
  name := "FileConfig"
  blank := ⟨none, none, none, none, []⟩
  fields := [
    { name := "server", mayEnd := false, given := (·.server?.isSome),
      read := fun depth parts => do
        return { parts with server? := some (← ServerSection.read depth) } },
    { name := "database", mayEnd := false, given := (·.database?.isSome),
      read := fun depth parts => do
        return { parts with database? := some (← DatabaseSection.read depth) } },
    { name := "filters", mayEnd := false, given := (·.filters?.isSome),
      read := fun depth parts => do
        return { parts with filters? := some (← FilterSection.read depth) } },
    { name := "debug", mayEnd := false, given := (·.debug?.isSome),
      read := fun _ parts => do
        return { parts with debug? := some (← Json.Reader.optional Json.Reader.boolValue) } }]

/-- Reads a member that is no setting, and keeps its name. -/
def readOther (name : String) (depth : Nat) (parts : Parts) : Reader Parts := do
  let _ ← Json.Reader.anyValue depth
  return { parts with
    unknown := if parts.unknown.contains name then parts.unknown else parts.unknown ++ [name] }

/-- The settings that have been read. -/
def ofParts (parts : Parts) : SettingsFile :=
  ⟨parts.server?.join, parts.database?.join, parts.filters?.join, parts.debug?.join,
    parts.unknown⟩

/-- The settings that a text writes. -/
def ofText (s : String) : Except Json.Fault SettingsFile :=
  (Json.readWhole (form.readObject readOther) s).map ofParts

end SettingsFile

end RowSieve.Service
