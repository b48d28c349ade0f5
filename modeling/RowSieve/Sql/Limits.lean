/-
What a statement can hold. Its expressions may be nested only so deep, subqueries together with
the conditions they stand in, and it can have only so many parameters. A statement that goes
beyond is refused before it runs, for whichever its text goes beyond first; how deep subqueries
stand in each other is seen last.
-/
import RowSieve.Sql.Query

namespace RowSieve.Sql

/-- Why a statement cannot be carried out. -/
inductive Fault where
  | tooDeep
  | tooManyParameters
  /-- What the engine comes upon while a statement runs. -/
  | running (text : String)
deriving DecidableEq

/-- The greatest depth of expressions. -/
def depthLimit : Nat := 1000

/-- The greatest number of parameters. -/
def parameterLimit : Nat := 32766

def Fault.text : Fault → String
  | tooDeep => s!"Expression tree is too large (maximum depth {depthLimit})"
  | tooManyParameters => "too many SQL variables"
  | running text => text

/-! ## Depth -/

/-- The levels of a column with its alias, and with the function around them. -/
def ColumnRef.depth (c : ColumnRef) : Nat := if c.column.day then 3 else 2

/-- The levels of a comparison of two columns. -/
def joinDepth : Nat := 3

/-- The levels of operands that are joined one after another from the left. -/
def chainDepth : (first : Nat) → (rest : List Nat) → Nat
  | first, [] => first
  | first, d :: rest => chainDepth (max first d + 1) rest

namespace Condition

mutual

/-- The levels of a condition, those of its subqueries among them. -/
def depth : Condition → Nat
  | compare c _ _ => c.depth + 1
  | among c _ negated | like c _ negated => c.depth + 1 + negated.toNat
  | isNull c _ none => c.depth + 1
  | isNull c _ (some _) => c.depth + 2
  | all items | any items => depthOfAll items
  | subquery negated _ _ _ body => max joinDepth body.depth + 2 + negated.toNat

def depthOfAll : List Condition → Nat
  | [] => 2
  | c :: rest => chainDepth c.depth (depths rest)

def depths : List Condition → List Nat
  | [] => []
  | c :: rest => c.depth :: depths rest

end

mutual

/-- The levels that stand one within another in subqueries, each counted by itself. -/
def nesting : Condition → Nat
  | all items | any items => nestingOfAll items
  | subquery _ _ _ _ body => max joinDepth body.depth + 1 + body.nesting
  | _ => 0

def nestingOfAll : List Condition → Nat
  | [] => 0
  | c :: rest => max c.nesting (nestingOfAll rest)

end

/-! ## Reading a statement -/

/-- The number of parameters, if there can be so many. -/
def counted (n : Nat) : Except Fault Nat :=
  if parameterLimit < n then .error .tooManyParameters else .ok n

mutual

/-- Reads a condition behind `n` parameters, and gives the number of parameters with its own. -/
def scan (n : Nat) : Condition → Except Fault Nat
  | all items | any items => scanAll n none items
  | subquery negated join inner outer body => do
    let n ← body.scan n
    if depthLimit < (subquery negated join inner outer body).depth then throw .tooDeep
    return n
  | c => counted (n + c.params.length)

/-- Reads conditions that are joined to what has been read, of the depth `before?`. -/
def scanAll (n : Nat) (before? : Option Nat) : List Condition → Except Fault Nat
  | [] => return n
  | c :: rest => do
    let n ← c.scan n
    let depth := match before? with
      | none => c.depth
      | some before => max before c.depth + 1
    if depthLimit < depth then throw .tooDeep
    scanAll n (some depth) rest

end

end Condition

/-- Refuses a query that cannot be carried out. A listing has a join besides, and two parameters
behind the conditions. -/
def Query.refuse (q : Query) (listing : Bool) : Except Fault Unit := do
  let n ← Condition.scanAll 0 none q.conditions
  let _ ← Condition.counted (if listing then n + 2 else n)
  let depth := Condition.depthOfAll q.conditions
  let depth := if listing && !q.conditions.isEmpty then max depth joinDepth + 1 else depth
  if depthLimit < depth + Condition.nestingOfAll q.conditions then throw .tooDeep

end RowSieve.Sql
