/-
Reading the columns and rules of a table from the statement that creates it.
-/
import RowSieve.Store.Image.Columns

namespace RowSieve.Store

/-- The columns read so far. -/
structure TableDraft where
  table : List Char
  columns : Columns
  hasPrimary : Bool
  /-- The name that the next rule has been given. -/
  ruleName? : Option (List Char)

namespace TableDraft

open Reading

/-- The column that is being read. -/
def last (d : TableDraft) : Column := d.columns.all.getLast?.getD (.plain [] [])

def changeLast (d : TableDraft) (change : Column → Column) : TableDraft :=
  { d with columns := d.columns.changeLast change }

/-! ## Parts of rules -/

/-- What follows a rule that can be broken. -/
def conflict : Reading Unit := do
  if ← keyword? "on" then
    keyword "conflict"
    oneOf ["rollback", "abort", "fail", "ignore", "replace"]

/-- An order of rows; whether it is descending. -/
def direction : Reading Bool := do
  return (← oneOf? ["asc", "desc"]) == some "desc"

/-- An expression in brackets. -/
def bracketed : Reading Expression := do
  symbol '('
  let e ← expression
  symbol ')'
  return e

/-- An expression that rows are ordered by. -/
def ordered : Reading Expression := do
  let e ← expression
  discard direction
  if ← keyword? "nulls" then
    match ← oneOf? ["first", "last"] with
    | some "first" => blame "unsupported use of NULLS FIRST"
    | some _ => blame "unsupported use of NULLS LAST"
    | none => unexpected
  return e

/-- A column by its name; a collation and an order behind it do not count. -/
def columnName : Reading (List Char) := do
  let own ← name
  if ← keyword? "collate" then discard (take Token.typeWord?)
  discard direction
  return own

/-- The words that an expression in brackets is written with, put together. -/
def writtenInBrackets : Reading (List Char) := do
  let (inside, _) := upTo (· == .symbol ')') 0 ((← ahead).drop 1)
  return inside.flatMap Token.written

/-! ## Rules -/

/-- The column that is being read gets a value for rows that are given none. -/
def withStandard (d : TableDraft) (e : Expression) : Reading TableDraft := do
  if !e.isConstant then
    blame s!"default value of column [{String.ofList d.last.name}] is not constant"
  else if d.last.isGenerated then blame "cannot use DEFAULT on a generated column"
  return d.changeLast ({ · with standard? := some e })

/-- The value of a column for rows that are given none. -/
def standard (d : TableDraft) : Reading TableDraft := do
  let value : Reading Expression :=
    take fun t => ((Expression.literal? t).map Expression.value).or <|
      if Expression.presentWords.any t.isKeyword then some (.function t.written 0) else none
  match ← ahead with
  | .symbol '(' :: _ => d.withStandard (← bracketed)
  | .symbol '+' :: rest => moveTo rest; d.withStandard (← value)
  | .symbol '-' :: rest => moveTo rest; d.withStandard (.signed true (← value))
  | t :: _ =>
    let isName := (Expression.literal? t).isNone &&
      !Expression.presentWords.any t.isKeyword && t.name?.isSome
    if isName then
      let word ← name
      let inQuotes := t.written.head?.any (!Token.beginsName ·)
      let truth? := if inQuotes then none else Expression.truth? word
      d.withStandard (.value (truth?.getD (.text word)))
    else d.withStandard (← value)
  | [] => unexpected

/-- The fault of a rule for expressions, which do not name a column each. -/
def keyFault? (d : TableDraft) (e : Expression) : Option String :=
  match e.nameFirst.fault? .index d.table d.columns.has with
  | some fault => some fault
  | none =>
    if (e.asName?.any fun (name, _) => d.columns.has name) then none
    else some "expressions prohibited in PRIMARY KEY and UNIQUE constraints"

/-- The parts of a key that expressions make. -/
def keyParts (items : List Expression) : List KeyPart :=
  items.map fun e => match e.asName? with
    | some (name, collation?) => ⟨some name, collation?⟩
    | none => ⟨none, none⟩

/-- The table has columns that are unique together. -/
def withUnique (d : TableDraft) (items : List Expression) (isPrimary : Bool) :
    Reading TableDraft := do
  match items.findSome? d.keyFault? with
  | some fault => blame fault; return d
  | none => return { d with columns := d.columns.withKey ⟨keyParts items, isPrimary⟩ }

/-- The table has a primary key. A single column of whole numbers is the number of the row. -/
def withPrimary (d : TableDraft) (items : List Expression) (isDescending counts : Bool) :
    Reading TableDraft := do
  if d.hasPrimary then
    blame s!"table \"{String.ofList d.table}\" has more than one primary key"
    return d
  let named := items.filterMap fun e => (e.asName?).bind fun (name, _) => d.columns.column? name
  if named.any Column.isGenerated then
    blame "generated columns cannot be part of the PRIMARY KEY"
  let d := { d with hasPrimary := true }
  match items, named with
  | [_], [column] =>
    if Token.sameName column.type "integer".toList && !isDescending then
      return { d with columns := { d.columns with key? := some column.name } }
    else onColumns d
  | _, _ => onColumns d
where
  onColumns (d : TableDraft) : Reading TableDraft := do
    if counts then
      blame "AUTOINCREMENT is only allowed on an INTEGER PRIMARY KEY"
      return d
    d.withUnique items true

/-- The table has a rule for the values in a row. -/
def withRule (d : TableDraft) : Reading TableDraft := do
  let written ← writtenInBrackets
  let e ← bracketed
  let rule : Rule := ⟨d.ruleName?.getD written, e⟩
  return { d with columns := { d.columns with rules := d.columns.rules ++ [rule] } }

/-- What happens to rows that refer to others, at most `count` times. -/
def consequences : (count : Nat) → Reading Unit
  | 0 => return
  | count + 1 => do
    if ← keyword? "match" then
      discard name
      consequences count
    else if ← keyword? "on" then
      oneOf ["delete", "update", "insert"]
      if ← keyword? "set" then oneOf ["null", "default"]
      else if ← keyword? "no" then keyword "action"
      else oneOf ["cascade", "restrict"]
      consequences count

/-- The rows of another table that columns refer to; without any columns, the last one does. -/
def withReference (d : TableDraft) (own : List (List Char)) : Reading TableDraft := do
  let written := ((← ahead).head?.map Token.written).getD []
  let table ← name
  let columns ← if ← startsWith '(' then inBrackets columnName else pure []
  consequences (← size)
  if own.isEmpty && 1 < columns.length then
    blame (s!"foreign key on {String.ofList d.last.name} should reference only one column of " ++
      s!"table {String.ofList written}")
  else if !own.isEmpty && !columns.isEmpty && own.length != columns.length then
    blame ("number of columns in foreign key does not match the number of columns in the " ++
      "referenced table")
  else if let some column := d.columns.missing? own then
    blame s!"unknown column \"{String.ofList column}\" in foreign key definition"
  let own := if own.isEmpty then [d.last.name] else own
  let references := ⟨own, table, columns⟩ :: d.columns.references
  return { d with columns := { d.columns with references := references } }

/-- When rows have to refer to others. -/
def deferral : Reading Unit := do
  if ← keyword? "initially" then oneOf ["deferred", "immediate"]

/-- Whether a column belongs to the primary key. -/
def isInPrimary (d : TableDraft) (name : List Char) : Bool :=
  d.columns.key?.any (Token.sameName name) || d.columns.unique.any fun key =>
    key.isPrimary && key.parts.any fun part => part.column?.any (Token.sameName name)

/-- The column that is being read is computed. -/
def withGeneration (d : TableDraft) : Reading TableDraft := do
  let e ← bracketed
  let kind? ← match ← ahead with
    | .name word :: rest => do
      let isRule := ["constraint", "collate", "generated"].any (Token.sameName word ·.toList)
      if Token.isReserved word || isRule then pure none
      else do
        moveTo rest
        pure (some word)
    | _ => pure none
  let isStored := kind?.any (Token.sameName · "stored".toList)
  let isKnown := isStored || kind?.all (Token.sameName · "virtual".toList)
  if d.last.standard?.isSome || d.last.isGenerated || !isKnown then
    blame s!"error in generated column \"{String.ofList d.last.name}\""
    return d
  if d.isInPrimary d.last.name then
    blame "generated columns cannot be part of the PRIMARY KEY"
  return d.changeLast ({ · with generation? := some ⟨e, isStored⟩ })

/-- The column that is being read, as an expression. -/
def lastName (d : TableDraft) : Expression := .column none d.last.name false

/-- The columns with a rule for the last of them, if one comes next. -/
def columnRule? (d : TableDraft) : Reading (Option TableDraft) := do
  match ← oneOf? ["constraint", "default", "null", "not", "primary", "unique", "check",
      "references", "deferrable", "collate", "generated", "as"] with
  | some "constraint" => return some { d with ruleName? := some (← name) }
  | some "default" => return some (← d.standard)
  | some "null" => conflict; return some d
  | some "not" =>
    if ← keyword? "deferrable" then
      deferral
      return some d
    keyword "null"
    conflict
    return some (d.changeLast ({ · with isRequired := true }))
  | some "primary" =>
    keyword "key"
    let isDescending ← direction
    conflict
    let counts ← keyword? "autoincrement"
    return some (← d.withPrimary [d.lastName] isDescending counts)
  | some "unique" =>
    conflict
    return some (← d.withUnique [d.lastName] false)
  | some "check" => return some (← d.withRule)
  | some "references" => return some (← d.withReference [])
  | some "deferrable" => deferral; return some d
  | some "collate" =>
    let order ← take Token.typeWord?
    return some (d.changeLast ({ · with collation? := some order }))
  | some "generated" =>
    keyword "always"
    keyword "as"
    return some (← d.withGeneration)
  | some _ => return some (← d.withGeneration)
  | none => return none

/-- The columns with a rule for the table, if one comes next. -/
def tableRule? (d : TableDraft) : Reading (Option TableDraft) := do
  match ← oneOf? ["constraint", "primary", "unique", "check", "foreign"] with
  | some "constraint" => return some { d with ruleName? := some (← name) }
  | some "primary" =>
    keyword "key"
    symbol '('
    let (items, counts) ← keyItems (← size)
    conflict
    return some (← d.withPrimary items false counts)
  | some "unique" =>
    let items ← inBrackets ordered
    conflict
    return some (← d.withUnique items false)
  | some "check" =>
    let d ← d.withRule
    conflict
    return some d
  | some _ =>
    keyword "key"
    let own ← inBrackets columnName
    keyword "references"
    let d ← d.withReference own
    if ← keyword? "not" then
      keyword "deferrable"
      deferral
    else if ← keyword? "deferrable" then deferral
    return some d
  | none => return none
where
  /-- The expressions of a primary key up to the closing bracket, and whether its numbers are
  counted. -/
  keyItems : (count : Nat) → Reading (List Expression × Bool)
    | 0 => unexpected
    | count + 1 => do
      let e ← ordered
      if ← symbol? ',' then
        let (items, counts) ← keyItems count
        return (e :: items, counts)
      let counts ← keyword? "autoincrement"
      symbol ')'
      return ([e], counts)

/-- The rules for the last column, at most `count` of them. -/
def columnRules (d : TableDraft) : (count : Nat) → Reading TableDraft
  | 0 => return d
  | count + 1 => do
    match ← d.columnRule? with
    | some d => columnRules d count
    | none => return d

/-- The rules of a table behind a first one, with or without commas between them. -/
def tableRules (d : TableDraft) : (count : Nat) → Reading TableDraft
  | 0 => return d
  | count + 1 => do
    if ← symbol? ',' then
      match ← { d with ruleName? := none }.tableRule? with
      | some d => tableRules d count
      | none => unexpected
    else match ← d.tableRule? with
      | some d => tableRules d count
      | none => return d

/-! ## Columns -/

/-- The type without the words behind it that say that the column is computed. -/
def typeAlone (words : List Char) : List Char :=
  let cut (suffix : String) (s : List Char) : Option (List Char) :=
    let front := s.take (s.length - suffix.length)
    if Token.sameName (s.drop front.length) suffix.toList then
      some (front.reverse.dropWhile Token.isBlank).reverse
    else none
  match cut "always" words with
  | some front => (cut "generated" front).getD words
  | none => words

/-- The columns and rules up to the closing bracket, at most `count` of them. -/
def columnsFrom (d : TableDraft) : (count : Nat) → Reading TableDraft
  | 0 => unexpected
  | count + 1 => do
    let own ← name
    let type ← Expression.typeName
    if d.columns.has own then blame s!"duplicate column name: {String.ofList own}"
    let columns := { d.columns with all := d.columns.all ++ [.plain own (typeAlone type)] }
    let d ← { d with columns := columns, ruleName? := none }.columnRules (← size)
    if ← symbol? ',' then
      match ← { d with ruleName? := none }.tableRule? with
      | some d => do
        let d ← d.tableRules (← size)
        symbol ')'
        return d
      | none => columnsFrom d count
    else
      symbol ')'
      return d

/-! ## The end of a table -/

/-- What may follow the columns of a table. -/
inductive TableOption where
  | strict
  /-- Rows have no number. -/
  | unnumbered
deriving DecidableEq

/-- The options of a table, at most `count` of them. -/
def options : (count : Nat) → Reading (List TableOption)
  | 0 => return []
  | count + 1 => do
    if ((← ahead).head?.bind Token.name?).isNone then return []
    let option ← if ← keyword? "without" then known "rowid" .unnumbered else known "strict" .strict
    if ← symbol? ',' then return option ++ (← options count)
    return option
where
  /-- An option by its name. -/
  known (own : String) (option : TableOption) : Reading (List TableOption) := do
    let word ← name
    if Token.sameName word own.toList then return [option]
    blame s!"unknown table option: {String.ofList word}"
    return []

/-- The types that columns can have whose values have to be of their type. -/
def strictTypes : List String := ["any", "blob", "int", "integer", "real", "text"]

/-- What is wrong with the type of a column whose values have to be of it. -/
def typeFault? (table : List Char) (column : Column) : Option String :=
  let place := s!"{String.ofList table}.{String.ofList column.name}"
  if strictTypes.any (Token.sameName column.type ·.toList) then none
  else if column.type.isEmpty then some s!"missing datatype for {place}"
  else some s!"unknown datatype for {place}: \"{String.ofList column.type}\""

/-- What is wrong with the expressions of a table. -/
def expressionFault? (d : TableDraft) : Option String :=
  let fault? (p : Expression.Place) (e : Expression) := e.fault? p d.table d.columns.has
  let generated := d.columns.all.filterMap fun column => column.generation?.map (·.expression)
  if generated.length == d.columns.all.length then
    some "must have at least one non-generated column"
  else (d.columns.rules.findSome? (fault? .rule ·.expression)).or
    (generated.findSome? (fault? .generated))

/-- What is wrong with a table that has been read to its end. -/
def fault? (d : TableDraft) (found : List TableOption) : Option String :=
  let typeFault? := if found.contains .strict then d.columns.all.findSome? (typeFault? d.table)
    else none
  typeFault?.or <|
    if found.contains .unnumbered && !d.hasPrimary then
      some s!"PRIMARY KEY missing on table {String.ofList d.table}"
    else d.expressionFault?

/-- The columns of a table and all that follows them. -/
def readColumns (table : List Char) : Reading Columns := do
  if ← keyword? "as" then
    if (← ahead).head?.any Expression.beginsQuery then throw "" else unexpected
  symbol '('
  let d ← columnsFrom ⟨table, .empty, false, none⟩ (← size)
  let found ← options (← size)
  if let some fault := d.fault? found then blame fault
  finish
  return { d.columns with isStrict := found.contains .strict }

end TableDraft

end RowSieve.Store
