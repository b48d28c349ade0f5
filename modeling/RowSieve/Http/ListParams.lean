/-
The parameters of a listing that are not filters: `page`, `limit` and `order_by`. Pairs are read
in their order; a parameter given twice is an error, and names that mean nothing are left aside.
-/
import RowSieve.Http.Error
import RowSieve.Http.Paging
import RowSieve.Number.Integer

namespace RowSieve.Http

/-- The parameters as far as they have been read. -/
structure ListParams where
  page? : Option Nat
  limit? : Option Nat
  orderBy? : Option String
deriving DecidableEq

/-- Why the parameters cannot be read. -/
inductive ParamError where
  | duplicate (name : String)
  | badNumber (name : String) (reason : Number.IntegerError)
deriving DecidableEq

def ParamError.message : ParamError → String
  | duplicate name => s!"Failed to deserialize query string: duplicate field `{name}`"
  | badNumber name reason => s!"Failed to deserialize query string: {name}: {reason.message}"

namespace ListParams

def none : ListParams := ⟨Option.none, Option.none, Option.none⟩

def number (name value : String) : Except ParamError Nat :=
  match Number.readInteger .word32 value.toList with
  | .ok n => .ok n.toNat
  | .error reason => .error (.badNumber name reason)

/-- The parameters with one more pair. -/
def add (p : ListParams) (name value : String) : Except ParamError ListParams :=
  match name with
  | "page" =>
    if p.page?.isSome then .error (.duplicate name)
    else (number name value).map fun n => { p with page? := some n }
  | "limit" =>
    if p.limit?.isSome then .error (.duplicate name)
    else (number name value).map fun n => { p with limit? := some n }
  | "order_by" =>
    if p.orderBy?.isSome then .error (.duplicate name)
    else .ok { p with orderBy? := some value }
  | _ => .ok p

/-- The parameters of the pairs. -/
def read (p : ListParams) : List (String × String) → Except ParamError ListParams
  | [] => .ok p
  | (name, value) :: rest => do
    let p ← p.add name value
    p.read rest

/-- The page asked for; the first one when none is. -/
def page (p : ListParams) : Page :=
  ⟨p.page?.getD Page.first.number, p.limit?.getD Page.first.limit⟩

end ListParams

/-- The page and the order that the pairs ask for, or what is wrong with them; of several wrong
bounds the message names all, sorted. -/
def readListParams (pairs : List (String × String)) : Except Error ListParams :=
  match ListParams.none.read pairs with
  | .error e => .error (.badRequest "QUERY_PARSE_ERROR" e.message)
  | .ok p =>
    match p.page.errors with
    | [] => .ok p
    | errors =>
      let texts := (errors.map PageError.message).mergeSort fun a b =>
        !Text.lt b.toList a.toList
      .error (.badRequest "VALIDATION_ERROR" ("; ".intercalate texts))

end RowSieve.Http
