/-
What can go wrong in the store: a statement refused by a rule of the schema or by the tables that
are there, a file that is no database or a damaged one, a closed store, and a migration that
cannot be carried out.
-/
import RowSieve.Filter.Catalog
import RowSieve.Sql.Limits

namespace RowSieve.Store

/-- Why a statement fails. -/
inductive Problem where
  /-- A row breaks a rule, given as the schema writes it. -/
  | check (rule : String)
  /-- A row refers to a row that does not exist. -/
  | foreignKey
  /-- The primary key is taken. -/
  | primaryKey (table column : String)
  /-- A value that has to be unique is taken. -/
  | unique (table column : String)
  /-- Values that are a key together are taken. -/
  | keyTaken (isPrimary : Bool) (columns : String)
  /-- A value that has to be there is missing. -/
  | required (table column : String)
  /-- A value is not of the type of its column. -/
  | wrongType (kind type table column : String)
  | noSuchTable (name : String)
  | noSuchColumn (name : String)
  /-- A row has a value for a column that the table does not have. -/
  | noColumnNamed (table column : String)
  /-- A column that is computed is given a value; `action` is what was to be done. -/
  | computed (action column : String)
  /-- A column is computed from itself. -/
  | loop (column : String)
  | noCollation (name : String)
  /-- What makes a table on demand does not exist. -/
  | noMaker (name : String)
  /-- A row is added to a view. -/
  | changedView (name : String)
  | indexedView
  /-- A table is indexed that is made on demand. -/
  | indexedVirtual
  /-- Rows of a table refer to a column that is no key. -/
  | noKey (table referred : String)
  /-- What is to be created has the name of a table or an index, as `kind` says. -/
  | nameTaken (kind name : String)
  /-- The statement cannot be carried out. -/
  | statement (fault : Sql.Fault)
  | cannotOpen
  | cannotAccess (code : Nat)
  | readOnly
  | notADatabase
  | unknownFormat
  | malformed
  /-- The definition of something in the file cannot be read. -/
  | malformedSchema (name detail : String)
deriving DecidableEq

namespace Problem

/-- The number of the failure. -/
def code : Problem → Nat
  | check _ => 275
  | foreignKey => 787
  | primaryKey .. => 1555
  | unique .. => 2067
  | keyTaken isPrimary _ => if isPrimary then 1555 else 2067
  | required .. => 1299
  | wrongType .. => 3091
  | noCollation _ => 257
  | noSuchTable _ | noSuchColumn _ | noColumnNamed .. | computed .. | loop _ | noMaker _
  | changedView _ | indexedView | indexedVirtual | noKey .. | nameTaken .. | statement _
  | unknownFormat => 1
  | readOnly => 8
  | malformed | malformedSchema .. => 11
  | cannotOpen => 14
  | notADatabase => 26
  | cannotAccess code => code

def text : Problem → String
  | check rule => s!"CHECK constraint failed: {rule}"
  | foreignKey => "FOREIGN KEY constraint failed"
  | primaryKey table column => s!"UNIQUE constraint failed: {table}.{column}"
  | unique table column => s!"UNIQUE constraint failed: {table}.{column}"
  | keyTaken _ columns => s!"UNIQUE constraint failed: {columns}"
  | required table column => s!"NOT NULL constraint failed: {table}.{column}"
  | wrongType kind type table column =>
    s!"cannot store {kind} value in {type} column {table}.{column}"
  | noSuchTable name => s!"no such table: {name}"
  | noSuchColumn name => s!"no such column: {name}"
  | noColumnNamed table column => s!"table {table} has no column named {column}"
  | computed action column => s!"cannot {action} generated column \"{column}\""
  | loop column => s!"generated column loop on \"{column}\""
  | noCollation name => s!"no such collation sequence: {name}"
  | noMaker name => s!"no such module: {name}"
  | changedView name => s!"cannot modify {name} because it is a view"
  | indexedView => "views may not be indexed"
  | indexedVirtual => "virtual tables may not be indexed"
  | noKey table referred => s!"foreign key mismatch - \"{table}\" referencing \"{referred}\""
  | nameTaken kind name => s!"there is already {kind} named {name}"
  | statement fault => fault.text
  | cannotOpen => "unable to open database file"
  | cannotAccess _ => "disk I/O error"
  | readOnly => "attempt to write a readonly database"
  | notADatabase => "file is not a database"
  | unknownFormat => "unsupported file format"
  | malformed => "database disk image is malformed"
  | malformedSchema name detail =>
    let more := if detail.isEmpty then "" else s!" - {detail}"
    s!"malformed database schema ({name}){more}"

/-- Number and text together. -/
def numbered (p : Problem) : String := s!"(code: {p.code}) {p.text}"

def message (p : Problem) : String := s!"error returned from database: {p.numbered}"

end Problem

/-- Why an operation of the store fails. -/
inductive Error where
  | statement (p : Problem)
  /-- A value that is not of the kind it should be, in a column of the answer. -/
  | value (column : Nat) (reason : String)
  | closed
  /-- The name of a file that names cannot be passed on. -/
  | fileName (reason : String)
  | migration (version : Int) (name : String) (reason : String)
  | io (reason : String)
deriving DecidableEq

namespace Error

/-- What went wrong, without the kind of error it is. -/
def reason : Error → String
  | statement p => p.message
  | value column reason => s!"error occurred while decoding column {column}: {reason}"
  | closed => "attempted to acquire a connection on a closed pool"
  | fileName reason => s!"error communicating with database: {reason}"
  | migration version name reason => s!"Migration {version} ({name}) failed: {reason}"
  | io reason => reason

def message (e : Error) : String :=
  match e with
  | migration .. => e.reason
  | io _ => s!"IO error: {e.reason}"
  | _ => s!"Database error: {e.reason}"

/-- What lies behind the error, the nearest cause first. -/
def causes (e : Error) : List String :=
  match e with
  | statement p => [e.reason, p.numbered]
  | value _ inner | fileName inner => [e.reason, inner]
  | closed | io _ => [e.reason]
  | migration .. => []

end Error

/-- A failure on the way from a request to rows. -/
inductive Failure where
  | store (e : Error)
  | filter (e : Filter.Error)
  | catalog (e : Filter.CatalogError)

namespace Failure

def message : Failure → String
  | store e => s!"SQLite error: {e.message}"
  | filter e => e.message
  | catalog e => s!"Filter registry error: {e.message}"

/-- Whether the request is at fault. -/
def isClientError : Failure → Bool
  | filter e => e.isClientError
  | _ => false

end Failure

end RowSieve.Store
