/-
Taking in the filters of a query: those written as parameters, then those written as JSON lists in
parameters named `filters`. The number of requests and the size of each JSON text are limited.
-/
import RowSieve.Filter.Param
import RowSieve.Json.Reader

namespace RowSieve.Filter

/-- The limits on filters of a query. -/
structure Limits where
  maxRequests : Nat
  maxJsonBytes : Nat
deriving DecidableEq

def Limits.standard : Limits := ⟨50, 64 * 1024⟩

/-- Why the filters of a query are not taken in. -/
inductive IntakeError where
  | jsonTooLarge (limit : Nat)
  | badJson (fault : Json.Fault)
  | badParam (name : String)
  | tooMany (limit : Nat)

namespace IntakeError

def code : IntakeError → String
  | jsonTooLarge _ => "FILTER_JSON_TOO_LARGE"
  | badJson _ => "INVALID_FILTER_JSON"
  | badParam _ => "INVALID_FILTER_PARAM"
  | tooMany _ => "TOO_MANY_FILTERS"

def message : IntakeError → String
  | jsonTooLarge limit => s!"Filter JSON exceeds maximum size of {limit} bytes"
  | badJson fault => fault.message
  | badParam name => s!"Malformed filter parameter '{name}'"
  | tooMany limit => s!"Maximum {limit} filters allowed"

end IntakeError

/-! ## Requests as JSON -/

namespace Scalar

/-- The scalar that a JSON value is. -/
def ofJson? : Json → Option Scalar
  | .bool b => some (bool b)
  | .number n => some (number n)
  | .text s => some (text s)
  | _ => none

def toJson : Scalar → Json
  | bool b => .bool b
  | number n => .number n
  | text s => .text s

end Scalar

namespace RequestValue

/-- The value that a JSON value is: a scalar or a list of scalars. -/
def ofJson? : Json → Option RequestValue
  | .list items => (items.mapM Scalar.ofJson?).map list
  | v => (Scalar.ofJson? v).map scalar

def toJson : RequestValue → Json
  | list items => .list (items.map Scalar.toJson)
  | scalar s => s.toJson

/-- Reads a value, or nothing for `null`. -/
def read (depth : Nat) : Json.Reader (Option RequestValue) :=
  Json.Reader.optional do
    match ofJson? (← Json.Reader.anyValue depth) with
    | some v => return v
    | none => Json.Reader.unplaced (.noVariant "FilterValue")

end RequestValue

namespace Request

/-- A request of which some fields have been read. -/
structure Parts where
  key? : Option String
  operator? : Option String
  value? : Option (Option RequestValue)

/-- The form of a request in JSON; the value may be left out. -/
def form : Json.RecordForm Parts where
  name := "FilterRequest"
  blank := ⟨none, none, none⟩
  fields := [
    { name := "key", mayEnd := false, given := (·.key?.isSome),
      read := fun _ parts => do return { parts with key? := some (← Json.Reader.textValue) } },
    { name := "operator", mayEnd := false, given := (·.operator?.isSome),
      read := fun _ parts => do return { parts with operator? := some (← Json.Reader.textValue) } },
    { name := "value", mayEnd := true, given := (·.value?.isSome),
      read := fun depth parts => do
        return { parts with value? := some (← RequestValue.read depth) } }]

/-- The request of the parts, if none that it needs is missing. -/
def ofParts (parts : Parts) : Except Json.Problem Request :=
  match parts.key?, parts.operator? with
  | none, _ => .error (.missingField "key")
  | _, none => .error (.missingField "operator")
  | some key, some operator => .ok ⟨key, operator, parts.value?.join⟩

def read (depth : Nat) : Json.Reader Request := form.read ofParts depth

/-- The request that a text writes. -/
def ofText (s : String) : Except Json.Fault Request := Json.readWhole read s

/-- The requests that a text writes as a list. -/
def listOfText (s : String) : Except Json.Fault (List Request) :=
  Json.readWhole (fun depth => Json.Reader.listOf depth read) s

/-- The request as a JSON object; a value that is missing is left out. -/
def toJson (r : Request) : Json :=
  .object ([("key", .text r.key), ("operator", .text r.operator)] ++
    (r.value?.map fun v => ("value", v.toJson)).toList)

end Request

/-! ## Limits -/

/-- The requests, unless there are too many. -/
def limited (limits : Limits) (requests : List Request) : Except IntakeError (List Request) :=
  if limits.maxRequests < requests.length then .error (.tooMany limits.maxRequests)
  else .ok requests

/-- The requests of a JSON list. -/
def intakeJson (limits : Limits) (s : String) : Except IntakeError (List Request) :=
  if limits.maxJsonBytes < s.utf8ByteSize then .error (.jsonTooLarge limits.maxJsonBytes)
  else match Request.listOfText s with
    | .error fault => .error (.badJson fault)
    | .ok requests => limited limits requests

/-- The requests of query parameters. -/
def intakeParams (limits : Limits) (pairs : List (String × String)) :
    Except IntakeError (List Request) :=
  match readParams [] pairs with
  | .error name => .error (.badParam name)
  | .ok requests => limited limits requests

/-- The name of parameters that hold JSON. -/
def jsonParam : String := "filters"

/-- The requests with those of the JSON parameters behind them. -/
def addJson (limits : Limits) (requests : List Request) :
    List (String × String) → Except IntakeError (List Request)
  | [] => .ok requests
  | (name, text) :: rest =>
    if name = jsonParam then do
      let more ← intakeJson limits text
      addJson limits (requests ++ more) rest
    else addJson limits requests rest

/-- All requests of a query: those of parameters first, then those of JSON texts. -/
def intake (limits : Limits) (pairs : List (String × String)) :
    Except IntakeError (List Request) := do
  let requests ← intakeParams limits pairs
  let all ← addJson limits requests pairs
  limited limits all

end RowSieve.Filter
