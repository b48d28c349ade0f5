/-
What filters are added to: anything that takes predicates one by one and joins them with "and". A
predicate is added whole or, on an error, not at all; of several predicates those before the first
error stay.
-/
import RowSieve.Filter.Catalog

namespace RowSieve.Filter

/-- A collection that predicates are added to. -/
class Target (τ : Type) where
  /-- The collection with one more predicate. -/
  add : τ → Predicate → Except Error τ
  /-- How a column of the rows themselves is written. -/
  columnText : τ → String → String

namespace Target

variable {τ : Type} [Target τ]

/-- The outcome of one step and the collection after it; an error leaves the collection as it
was. -/
def step (t : τ) (p : Except Error Predicate) : Except Error Unit × τ :=
  match p with
  | .error e => (.error e, t)
  | .ok p => match add t p with
    | .ok t' => (.ok (), t')
    | .error e => (.error e, t)

/-- Adds what a request asks for of a field. -/
def addRequest (t : τ) (f : Field) (r : Request) : Except Error Unit × τ := step t (f.predicate r)

/-- Adds that some row reached through the relations satisfies the leaf. -/
def addReach (t : τ) (relations : List String) (leaf : Predicate) : Except Error Unit × τ :=
  step t (.ok (.reach relations leaf))

/-- Adds that no row reached through the relations satisfies the leaf. -/
def addReachNone (t : τ) (relations : List String) (leaf : Predicate) : Except Error Unit × τ :=
  step t (.ok (.reachNone relations leaf))

/-- Adds predicates up to the first error. -/
def addAll (t : τ) : List Predicate → Except Error Unit × τ
  | [] => (.ok (), t)
  | p :: rest => match add t p with
    | .ok t' => addAll t' rest
    | .error e => (.error e, t)

/-- Adds what the requests ask for, and gives their number; nothing is added before all requests
are understood. -/
def addRequests (t : τ) (c : Catalog) (requests : List Request) : Except Error Nat × τ :=
  match c.predicates requests with
  | .error e => (.error e, t)
  | .ok ps => match addAll t ps with
    | (.ok (), t') => (.ok ps.length, t')
    | (.error e, t') => (.error e, t')

end Target

/-- A target that only keeps the predicates. -/
structure Collector where
  predicates : List Predicate

namespace Collector

def empty : Collector := ⟨[]⟩

instance : Target Collector where
  add c p := .ok ⟨c.predicates ++ [p]⟩
  columnText _ name := name

/-- All that was collected as one predicate; `none` for nothing. -/
def predicate? (c : Collector) : Option Predicate :=
  if c.predicates.isEmpty then none else some (.conj c.predicates)

end Collector

end RowSieve.Filter
