/-
Errors as clients see them: a status, and a body with the kind of error, a code and a message. A
refused filter value names its field; what goes wrong inside is not described.
-/
import RowSieve.Filter.Intake
import RowSieve.Store.Error

namespace RowSieve.Http

/-- An answer to a request; the body may be empty. -/
structure Response where
  status : Nat
  body? : Option Json

def Response.json (status : Nat) (body : Json) : Response := ⟨status, some body⟩

/-- An error as a client sees it. -/
inductive Error where
  | badRequest (code message : String)
  | notFound (code message : String)
  | validation (field code message : String)
  | internal (message : String)
deriving DecidableEq

namespace Error

def status : Error → Nat
  | badRequest .. => 400
  | notFound .. => 404
  | validation .. => 422
  | internal _ => 500

def kind : Error → String
  | badRequest .. => "bad_request"
  | notFound .. => "not_found"
  | validation .. => "validation_error"
  | internal _ => "internal_error"

def code : Error → String
  | badRequest code _ | notFound code _ | validation _ code _ => code
  | internal _ => "INTERNAL"

def message : Error → String
  | badRequest _ message | notFound _ message | validation _ _ message | internal message => message

/-- The field that the error is about. -/
def field? : Error → Option String
  | validation field _ _ => some field
  | _ => none

def body (e : Error) : Json :=
  .object ([("error", .text e.kind), ("code", .text e.code)] ++
    (e.field?.map fun f => ("field", Json.text f)).toList ++ [("message", .text e.message)])

def response (e : Error) : Response := .json e.status e.body

/-- A refused filter: an unknown key is a bad request, a missing join is no client's business. -/
def ofFilter (e : Filter.Error) : Error :=
  match e with
  | .unknownKey _ => badRequest e.code e.message
  | .unknownRelation .. => internal "Filter configuration error"
  | _ => validation e.field e.code e.message

def ofIntake (e : Filter.IntakeError) : Error := badRequest e.code e.message

def ofStore (_ : Store.Error) : Error := internal "Database operation failed"

def ofFailure : Store.Failure → Error
  | .filter e => ofFilter e
  | _ => internal "Database operation failed"

end Error

end RowSieve.Http
