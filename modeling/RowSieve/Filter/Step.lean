/-
Steps on a target, one after another. A step adds one predicate, whole or not at all, or what a
list of requests asks for, of which the predicates before a refused one stay.
-/
import RowSieve.Filter.Target

namespace RowSieve.Filter

/-- What is added to a target as one predicate. -/
inductive Addition where
  | request (f : Field) (r : Request)
  | predicate (p : Predicate)
  | reach (relations : List String) (leaf : Predicate)
  | reachNone (relations : List String) (leaf : Predicate)

inductive Step where
  | add (a : Addition)
  | batch (c : Catalog) (requests : List Request)

/-- What a step answers when it succeeds. -/
inductive Answer where
  | added
  /-- So many requests have been added. -/
  | counted (n : Nat)
deriving DecidableEq

namespace Target

variable {τ : Type} [Target τ]

/-- The outcome of an addition, and the target after it. -/
def extend (t : τ) : Addition → Except Error Unit × τ
  | .request f r => addRequest t f r
  | .predicate p => step t (.ok p)
  | .reach relations leaf => addReach t relations leaf
  | .reachNone relations leaf => addReachNone t relations leaf

/-- The answer to a step, and the target after it. -/
def perform (t : τ) : Step → Except Error Answer × τ
  | .add a => ((extend t a).1.map fun () => .added, (extend t a).2)
  | .batch c requests =>
    ((addRequests t c requests).1.map .counted, (addRequests t c requests).2)

/-- The answers to steps, and the target after them, whether they succeed or not. -/
def run (t : τ) : List Step → List (Except Error Answer) × τ
  | [] => ([], t)
  | s :: rest =>
    let (answer, t) := perform t s
    let (answers, t) := run t rest
    (answer :: answers, t)

end Target

end RowSieve.Filter
