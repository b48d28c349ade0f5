/-
Definitions of tables, views, indexes and triggers, read from the statements that create them. Of
a view it is known what it selects only where that is simple, and of a trigger only when it acts.
-/
import RowSieve.Store.Image.TableDraft

namespace RowSieve.Store

/-- What a view selects. -/
inductive Selection where
  /-- As many rows of values as there are expressions. -/
  | values (rows : List Expression)
  /-- The rows of a table. -/
  | table (name : List Char)
  | other

/-- An index as its statement defines it. -/
structure IndexDefinition where
  name : List Char
  table : List Char
  isUnique : Bool
  parts : List Expression
  condition? : Option Expression

/-- When a trigger acts. -/
inductive Moment where
  | before
  | after
  | instead
deriving DecidableEq

/-- A trigger as its statement defines it. -/
structure TriggerDefinition where
  name : List Char
  table : List Char
  moment : Moment
  body : Except String Unit

/-- What a statement creates. What is wrong with the inside of a table or of a trigger is told about
when it is used. -/
inductive Definition where
  | table (name : List Char) (columns : Except String Columns)
  | virtual (name maker : List Char)
  | view (name : List Char) (selection : Selection)
  | index (d : IndexDefinition)
  | trigger (d : TriggerDefinition)

namespace Definition

open Reading

/-- Moves over what lets a statement be repeated. -/
def skipCondition : Reading Unit := do
  if ← keyword? "if" then
    keyword "not"
    keyword "exists"

/-- The name of what is created; another name in front of it does not fit into a file. -/
def ownName : Reading (List Char) := do
  let own ← name
  if ← symbol? '.' then
    discard name
    blame "corrupt database"
  return own

/-- What is left to be read, whose faults are told about later. -/
def later {α : Type} (reading : Reading α) : Reading (Except String α) := do
  settle
  return (reading.run (← get)).map (·.1)

def indexDefinition (isUnique : Bool) : Reading Definition := do
  skipCondition
  let own ← ownName
  keyword "on"
  let table ← name
  let parts ← inBrackets TableDraft.ordered
  let condition? ← if ← keyword? "where" then some <$> expression else pure none
  finish
  return .index ⟨own, table, isUnique, parts, condition?⟩

/-! ## Views -/

/-- A column of a selection. -/
def selected : Reading Expression := do
  if ← symbol? '*' then return .query
  let e ← expression
  if ← keyword? "as" then discard name
  else if ((← ahead).head?.bind Token.name?).isSome then discard name
  return e

/-- The items of a list with commas between them, at most `count` of them. -/
def separated {α : Type} (item : Reading α) : (count : Nat) → Reading (List α)
  | 0 => unexpected
  | count + 1 => do
    let a ← item
    if ← symbol? ',' then return a :: (← separated item count)
    return [a]

/-- Whether nothing of a statement is left. -/
def atEnd : Reading Bool := return (← ahead).head?.all (· == .symbol ';')

/-- A row of values. -/
def rowOfValues : Reading Expression := do
  match ← inBrackets expression with
  | e :: more => return Expression.operation e more
  | [] => unexpected

/-- What may follow the columns of a query. -/
def clauseWords : List String :=
  ["from", "where", "group", "having", "order", "limit", "union", "except", "intersect", "window"]

/-- What a query selects. -/
def selection : Reading Selection := do
  match ← oneOf? ["select", "values", "with"] with
  | some "select" =>
    discard (oneOf? ["distinct", "all"])
    match ← separated selected (← size) with
    | e :: more =>
      let values : Selection := .values [Expression.operation e more]
      if ← atEnd then return values
      if !(← ahead).head?.any fun t => clauseWords.any t.isKeyword then unexpected
      if ← keyword? "from" then
        if ← startsWith '(' then return .other
        let table ← name
        return if ← atEnd then .table table else .other
      if ← keyword? "where" then
        let condition ← expression
        let isFalse := (condition.value? fun _ => none).any Stored.isFalse
        return if ← atEnd then (if isFalse then .values [] else values) else .other
      return .other
    | [] => unexpected
  | some "values" => return .values (← separated rowOfValues (← size))
  | some _ => return .other
  | none => unexpected

def viewDefinition : Reading Definition := do
  skipCondition
  let own ← ownName
  if ← startsWith '(' then discard (inBrackets TableDraft.columnName)
  keyword "as"
  let hasParameter := ((← ahead).takeWhile (· != .symbol ';')).any fun
    | .parameter _ => true
    | _ => false
  let selection ← selection
  if (← ahead).isEmpty && selection matches .other then unexpected
  skipTo (· == .symbol ';')
  if hasParameter then blame "parameters are not allowed in views"
  finish
  return .view own selection

/-! ## Triggers -/

/-- What begins a statement of a trigger. -/
def triggerWords : List String :=
  ["select", "values", "with", "insert", "replace", "update", "delete"]

/-- The statements of a trigger up to its end, at most `count` of them. -/
def triggerBody : (count : Nat) → Reading Unit
  | 0 => unexpected
  | count + 1 => do
    oneOf triggerWords
    if (← atEnd) then unexpected
    skipTo (· == .symbol ';')
    symbol ';'
    if !(← keyword? "end") then triggerBody count

/-- When a trigger acts, before unless it is said. -/
def moment : Reading Moment := do
  if ← keyword? "instead" then
    keyword "of"
    return .instead
  return if (← oneOf? ["before", "after"]) == some "after" then .after else .before

def triggerDefinition : Reading Definition := do
  skipCondition
  let own ← ownName
  let moment ← moment
  match ← oneOf? ["delete", "insert", "update"] with
  | some "update" => if ← keyword? "of" then discard (separated name (← size))
  | some _ => pure ()
  | none => unexpected
  keyword "on"
  let first ← name
  let table ← if ← symbol? '.' then name else pure first
  if ← keyword? "for" then
    keyword "each"
    keyword "row"
  if ← keyword? "when" then discard expression
  keyword "begin"
  let body ← later do
    triggerBody (← size)
    finish
  return .trigger ⟨own, table, moment, body⟩

/-! ## Statements -/

/-- Whether the words may follow the name of a table. -/
def beginsColumns (words : List Token) : Bool :=
  words.head?.any fun t => t == .symbol '(' || t.isKeyword "as"

def tableDefinition : Reading Definition := do
  skipCondition
  let own ← ownName
  if !beginsColumns (← ahead) then unexpected
  return .table own (← later (TableDraft.readColumns own))

def virtualDefinition : Reading Definition := do
  keyword "table"
  skipCondition
  let own ← ownName
  keyword "using"
  let maker ← name
  if ← symbol? '(' then
    skipTo (· == .symbol ')')
    symbol ')'
  finish
  return .virtual own maker

def statement : Reading Definition := do
  keyword "create"
  if ← keyword? "unique" then
    keyword "index"
    indexDefinition true
  else if ← keyword? "index" then indexDefinition false
  else if ← keyword? "virtual" then virtualDefinition
  else do
    if !(← keyword? "temp") then discard (keyword? "temporary")
    if ← keyword? "table" then tableDefinition
    else if ← keyword? "view" then viewDefinition
    else if ← keyword? "trigger" then triggerDefinition
    else unexpected

/-- The definition that the words of a statement make. -/
def ofTokens (words : List Token) : Except String Definition :=
  (statement.run ⟨words, none⟩).map (·.1)

/-- The parts of a list between the separators. -/
def parts (isSeparator : Token → Bool) : List Token → List (List Token)
  | [] => [[]]
  | t :: rest =>
    if isSeparator t then [] :: parts isSeparator rest
    else match parts isSeparator rest with
      | [] => [[t]]
      | part :: more => (t :: part) :: more

/-- The definitions that statements make, one after another. -/
def ofStatements (statements : String) : List Definition :=
  (parts (· == .symbol ';') (Token.ofText statements.toList)).filterMap fun words =>
    (ofTokens words).toOption

end Definition

end RowSieve.Store
