/-
Filters written as query parameters: `filter[key]`, `filter[key][operator]`, and
`filter[key][operator][]`, whose repetitions collect into one list. Other parameters are no
filters; a name that starts like a filter and is not one of the three forms is an error.
-/
import RowSieve.Filter.Operator
import RowSieve.Filter.Request
import RowSieve.Text.Pieces

namespace RowSieve.Filter

/-- The parts of a filter parameter's name. -/
structure Param where
  key : String
  operator : String
  list : Bool
deriving DecidableEq

/-- What the name of a query parameter says. -/
inductive ParamName where
  | unrelated
  | malformed
  | filter (p : Param)
deriving DecidableEq

namespace ParamName

/-- The contents of bracket groups that make up the whole text. -/
def groups? : (fuel : Nat) → List Char → Option (List (List Char))
  | _, [] => some []
  | 0, _ => none
  | fuel + 1, c :: cs =>
    if c = '[' then do
      let (inner, rest) ← Text.cut? ']' cs
      let more ← groups? fuel rest
      return inner :: more
    else none

/-- What the name of a query parameter says. -/
def read (name : String) : ParamName :=
  match Text.after? "filter".toList name.toList with
  | some ('[' :: rest) =>
    match groups? (rest.length + 1) ('[' :: rest) with
    | some [k] =>
      if k.isEmpty then malformed else filter ⟨.ofList k, Operator.equals.token, false⟩
    | some [k, op] =>
      if k.isEmpty || op.isEmpty then malformed else filter ⟨.ofList k, .ofList op, false⟩
    | some [k, op, []] =>
      if k.isEmpty || op.isEmpty then malformed else filter ⟨.ofList k, .ofList op, true⟩
    | _ => malformed
  | _ => unrelated

end ParamName

/-- The value that one parameter gives an operator: null operators take none from an empty text
or `true`, and those that want a list take a list of one. -/
def Param.value? (p : Param) (text : String) : Option RequestValue :=
  match (Operator.ofToken? p.operator).map Operator.arity with
  | some .none => if text.isEmpty || text == "true" then none else some (.scalar (.text text))
  | some .list => some (.list [.text text])
  | _ => some (.scalar (.text text))

/-- A request under construction; an open one takes further items of its list. -/
structure Draft where
  request : Request
  isOpen : Bool

/-- Adds an item to the list request of this key and operator, or starts one at the end. -/
def addItem (p : Param) (text : String) : List Draft → List Draft
  | [] => [⟨⟨p.key, p.operator, some (.list [.text text])⟩, true⟩]
  | d :: rest =>
    if d.isOpen && d.request.key == p.key && d.request.operator == p.operator then
      match d.request.value? with
      | some (.list items) =>
        { d with request := { d.request with value? := some (.list (items ++ [.text text])) } }
          :: rest
      | _ => d :: rest
    else d :: addItem p text rest

/-- The requests with what one parameter adds. -/
def addParam (drafts : List Draft) (p : Param) (text : String) : List Draft :=
  if p.list then addItem p text drafts
  else drafts ++ [⟨⟨p.key, p.operator, p.value? text⟩, false⟩]

/-- The requests of query parameters, in the order in which they first appear; the error is the
first malformed name. -/
def readParams (drafts : List Draft) : List (String × String) → Except String (List Request)
  | [] => .ok (drafts.map (·.request))
  | (name, text) :: rest =>
    match ParamName.read name with
    | .unrelated => readParams drafts rest
    | .malformed => .error name
    | .filter p => readParams (addParam drafts p text) rest

end RowSieve.Filter
