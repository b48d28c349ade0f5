/-
The catalog of an endpoint: its fields, checked once, and the description of them that clients
see. A catalog is well formed by construction.
-/
import RowSieve.Filter.Compiled

namespace RowSieve.Filter

/-- Why fields do not make a catalog. -/
inductive CatalogError where
  | duplicateKey (key : String)
  | noOperators (key : String)
  | unsupportedOperator (key : String) (op : Operator) (kind : Kind)
  | noLabels (key : String)
  | badPath (key : String) (reason : PathError)
  | unknownRelation (key relation : String)
deriving DecidableEq

def CatalogError.message : CatalogError → String
  | duplicateKey key => s!"Filter '{key}' is registered more than once"
  | noOperators key => s!"Filter '{key}' allows no operators"
  | unsupportedOperator key op kind =>
    s!"Filter '{key}' of type {kind.name} cannot use operator '{op.token}'"
  | noLabels key => s!"Enum filter '{key}' has no value mapping"
  | badPath key reason => s!"Filter '{key}' has an invalid path: {reason.message}"
  | unknownRelation key relation => s!"Filter '{key}' uses relation '{relation}' which has no join"

namespace Field

/-- Whether a text is a well-formed path, as an error of the field. -/
def checkPath (f : Field) (path : String) : Except CatalogError Unit :=
  match Path.ofText? path with
  | .ok _ => .ok ()
  | .error reason => .error (.badPath f.key reason)

/-- Whether the field allows operators, and only such as its kind supports. -/
def checkOperators (f : Field) : Except CatalogError Unit :=
  if f.operators.isEmpty then .error (.noOperators f.key)
  else match f.operators.find? (!f.kind.supports ·) with
    | some op => .error (.unsupportedOperator f.key op f.kind)
    | none => .ok ()

/-- Whether a choice has labels. -/
def checkLabels (f : Field) : Except CatalogError Unit :=
  if f.kind = .choice ∧ (f.labels?.all Labels.isEmpty) then .error (.noLabels f.key) else .ok ()

/-- Whether the field is sound by itself: key, path, operators, labels. -/
def check (f : Field) : Except CatalogError Unit := do
  f.checkPath f.key
  f.checkPath f.columnPath
  f.checkOperators
  f.checkLabels

end Field

/-- Whether the fields are sound and their keys differ from each other and from the earlier ones;
a field that is unsound is reported as such even when its key repeats. -/
def checkFields (earlier : List String) : List Field → Except CatalogError Unit
  | [] => .ok ()
  | f :: rest => do
    f.check
    if f.key ∈ earlier then .error (.duplicateKey f.key)
    else checkFields (f.key :: earlier) rest

/-- The fields of an endpoint. -/
structure Catalog where
  fields : List Field
  checked : checkFields [] fields = .ok ()

/-- What clients see of a field. -/
structure FieldEntry where
  key : String
  kind : Kind
  operators : List Operator
  labels? : Option (List String)

namespace Catalog

/-- The catalog of the fields, if they make one. -/
def ofFields (fields : List Field) : Except CatalogError Catalog :=
  match h : checkFields [] fields with
  | .ok () => .ok ⟨fields, h⟩
  | .error e => .error e

/-- The field of a key. -/
def find? (c : Catalog) (key : String) : Option Field := c.fields.find? (·.key == key)

/-- The field of a request's key. -/
def resolve (c : Catalog) (key : String) : Except Error Field :=
  match c.find? key with
  | some f => .ok f
  | none => .error (.unknownKey key)

/-- The predicate that a request asks for. -/
def predicate (c : Catalog) (r : Request) : Except Error Predicate := do
  let f ← c.resolve r.key
  f.predicate r

/-- The predicates of the requests; the first request that is refused decides the error. -/
def predicates (c : Catalog) : List Request → Except Error (List Predicate)
  | [] => .ok []
  | r :: rest => do
    let p ← c.predicate r
    let ps ← c.predicates rest
    return p :: ps

def size (c : Catalog) : Nat := c.fields.length

/-- The description of the fields, in their order. -/
def entries (c : Catalog) : List FieldEntry :=
  c.fields.map fun f => ⟨f.key, f.kind, f.operators, f.labels?.map Labels.labels⟩

/-- The description as clients read it. -/
def toJson (c : Catalog) : Json :=
  .list (c.entries.map fun e => .object (
    [("key", .text e.key), ("type", .text e.kind.name),
     ("operators", .texts (e.operators.map Operator.token))] ++
      (e.labels?.map fun ls => ("values", Json.texts ls)).toList))

end Catalog

end RowSieve.Filter
