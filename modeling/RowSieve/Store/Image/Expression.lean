/-
Expressions in definitions. They are read in full, but only a value, the name of a column, a sign in
front of them and a single comparison of them can be computed; of all others it is known which
columns they name and what else stands in them. Operators are not told apart by how closely they
bind.
-/
import RowSieve.Store.Image.Affinity
import RowSieve.Store.Image.Reading

namespace RowSieve.Store

/-- How two values are compared. -/
inductive Comparison where
  | equal
  | unequal
  | less
  | atMost
  | greater
  | atLeast
deriving DecidableEq

namespace Comparison

/-- The comparison that a word stands for. -/
def ofToken? (t : Token) : Option Comparison :=
  match String.ofList t.written with
  | "=" | "==" => some equal
  | "<>" | "!=" => some unequal
  | "<" => some less
  | "<=" => some atMost
  | ">" => some greater
  | ">=" => some atLeast
  | _ => none

def holds : Comparison → Ordering → Bool
  | equal, o => o == .eq
  | unequal, o => o != .eq
  | less, o => o == .lt
  | atMost, o => o != .gt
  | greater, o => o == .gt
  | atLeast, o => o != .lt

end Comparison

inductive Expression where
  | value (v : Stored)
  /-- A name, which is meant as a text if it is in quotes and no column has it. -/
  | column (table? : Option (List Char)) (name : List Char) (inQuotes : Bool)
  | parameter
  | query
  /-- The function of a call with so many values, which stand in front of it. -/
  | function (name : List Char) (count : Nat)
  | signed (isNegative : Bool) (inner : Expression)
  | compared (how : Comparison) (first second : Expression)
  | collated (inner : Expression) (order : List Char)
  /-- The end of what a trigger does. -/
  | stop
  /-- An operation on both. -/
  | both (first second : Expression)

namespace Expression

open Reading

/-! ## Values -/

/-- The value of a number as it is written. -/
def ofNumeral (written : List Char) : Stored :=
  let digits := written.filter (· != Token.digitMark)
  match digits with
  | '0' :: x :: hex =>
    if Text.foldCase x = 'x' then
      .integer (Bytes.wrapped (hex.foldl (fun n c => n * 16 + Token.hexDigit c) 0))
    else decimal digits
  | _ => decimal digits
where
  decimal (digits : List Char) : Stored :=
    match Number.readInteger .signed64 digits with
    | .ok n => .integer n
    | .error _ => .real ((Binary64.read? digits).getD .zero)

/-- The bytes that pairs of digits write. -/
def ofPairs : List Char → List UInt8
  | a :: b :: rest => UInt8.ofNat (Token.hexDigit a * 16 + Token.hexDigit b) :: ofPairs rest
  | _ => []

/-- The value that a word gives by itself. -/
def literal? : Token → Option Stored
  | .number digits => some (ofNumeral digits)
  | .bytes _ digits => some (.blob (ofPairs digits))
  | .quoted '\'' word => some (.text word)
  | t => if t.isKeyword "null" then some .null else none

/-- Truth, by its name. -/
def truth? (name : List Char) : Option Stored :=
  if Token.sameName name "true".toList then some (.integer 1)
  else if Token.sameName name "false".toList then some (.integer 0)
  else none

/-- The value with a sign in front of it. -/
def withSign (isNegative : Bool) (v : Stored) : Option Stored :=
  if !isNegative then some v
  else match v with
    | .integer n => some (.integer (-n))
    | .real x => some (.real x.neg)
    | .null => some .null
    | _ => none

/-- The value of what is compared, with its affinity. -/
def term? (columnOf : List Char → Option (Affinity × Stored)) :
    Expression → Option (Affinity × Stored)
  | value v => some (.none, v)
  | column none name inQuotes => (columnOf name).or <|
      (if inQuotes then some (.text name) else truth? name).map (Affinity.none, ·)
  | signed isNegative inner =>
    ((inner.term? columnOf).bind fun (_, v) => withSign isNegative v).map (Affinity.none, ·)
  | collated inner _ => inner.term? columnOf
  | _ => none

/-- The value, if it can be computed from the columns. -/
def value? (columnOf : List Char → Option (Affinity × Stored)) (e : Expression) : Option Stored :=
  match e with
  | compared how first second => do
    let (a, x) ← first.term? columnOf
    let (b, y) ← second.term? columnOf
    match (a.meet b x).compare? (b.meet a y) with
    | some o => some (.integer (how.holds o).toNat)
    | none => some .null
  | _ => (e.term? columnOf).map (·.2)

/-- Whether the value is the same in every row. -/
def isConstant : Expression → Bool
  | value _ | parameter | function .. => true
  | column none name inQuotes => !inQuotes && (truth? name).isSome
  | column (some _) .. | query | stop => false
  | signed _ inner | collated inner _ => inner.isConstant
  | compared _ first second | both first second => first.isConstant && second.isConstant

/-- The name that an expression is, with the collation behind it. -/
def asName? : Expression → Option (List Char × Option (List Char))
  | column none name _ => some (name, none)
  | value (.text name) => some (name, none)
  | collated inner order => inner.asName?.map fun (name, inside?) => (name, inside?.or (some order))
  | _ => none

/-- The expression with a text taken for a name. -/
def nameFirst : Expression → Expression
  | value (.text name) => column none name false
  | collated inner order => collated inner.nameFirst order
  | e => e

/-! ## What may stand where -/

/-- Where an expression stands. -/
inductive Place where
  | rule
  | generated
  | index
  | indexCondition
deriving DecidableEq

def Place.text : Place → String
  | rule => "CHECK constraints"
  | generated => "generated columns"
  | index => "index expressions"
  | indexCondition => "partial index WHERE clauses"

/-- Whether a number of the row can be named. -/
def Place.hasRowNumber (p : Place) : Bool := p == .rule || p == .indexCondition

def rowNumberNames : List String := ["rowid", "oid", "_rowid_"]

/-- What is wrong with the names in an expression that stands in the definition of a table, and what
else cannot stand there. -/
def nameFault? (p : Place) (table : List Char) (hasColumn : List Char → Bool) :
    Expression → Option String
  | column none name inQuotes =>
    if known name || inQuotes || (truth? name).isSome then none
    else some s!"no such column: {String.ofList name}"
  | column (some own) name _ =>
    if !p.hasRowNumber then some s!"the \".\" operator prohibited in {p.text}"
    else if Token.sameName own table && known name then none
    else some s!"no such column: {String.ofList own}.{String.ofList name}"
  | parameter => some s!"parameters prohibited in {p.text}"
  | query => some s!"subqueries prohibited in {p.text}"
  | signed _ inner | collated inner _ => inner.nameFault? p table hasColumn
  | compared _ first second | both first second =>
    (first.nameFault? p table hasColumn).or (second.nameFault? p table hasColumn)
  | value _ | function .. | stop => none
where
  known (name : List Char) : Bool :=
    hasColumn name ||
      p.hasRowNumber && rowNumberNames.any fun row => Token.sameName name row.toList

/-- The present day and time, by the words that stand for them. -/
def presentWords : List String := ["current_date", "current_time", "current_timestamp"]

/-- The functions that do not always give the same. -/
def changingFunctions : List String :=
  presentWords ++ ["random", "randomblob", "changes", "total_changes", "last_insert_rowid"]

/-- The functions that put several rows together, with any number of values or with one. -/
def groupFunctions : List String :=
  ["avg", "count", "group_concat", "max", "min", "string_agg", "sum", "total"]

/-- The least and the greatest number of values that functions take. -/
def arities : List (String × Nat × Option Nat) :=
  [("abs", 1, some 1), ("avg", 1, some 1), ("changes", 0, some 0), ("coalesce", 2, none),
   ("count", 0, some 1), ("glob", 2, some 2), ("group_concat", 1, some 2), ("hex", 1, some 1),
   ("ifnull", 2, some 2), ("iif", 3, some 3), ("instr", 2, some 2),
   ("last_insert_rowid", 0, some 0), ("length", 1, some 1), ("like", 2, some 3),
   ("likely", 1, some 1), ("lower", 1, some 1), ("ltrim", 1, some 2), ("max", 1, none),
   ("min", 1, none), ("nullif", 2, some 2), ("octet_length", 1, some 1), ("quote", 1, some 1),
   ("random", 0, some 0), ("randomblob", 1, some 1), ("replace", 3, some 3), ("round", 1, some 2),
   ("rtrim", 1, some 2), ("sign", 1, some 1), ("string_agg", 2, some 2), ("substr", 2, some 3),
   ("substring", 2, some 3), ("sum", 1, some 1), ("total", 1, some 1),
   ("total_changes", 0, some 0), ("trim", 1, some 2), ("typeof", 1, some 1), ("unhex", 1, some 2),
   ("unicode", 1, some 1), ("unlikely", 1, some 1), ("upper", 1, some 1), ("zeroblob", 1, some 1)]

/-- What is wrong with the last function in an expression with which something is. -/
def functionFault? (p : Place) : Expression → Option String
  | function name count =>
    let isOf (names : List String) : Bool := names.any (Token.sameName name ·.toList)
    let takes : Nat × Option Nat := ((arities.find? fun (own, _) => isOf [own]).map (·.2)).getD
      (0, none)
    if count < takes.1 || takes.2.any (· < count) then
      some s!"wrong number of arguments to function {String.ofList name}()"
    else if p != .rule && isOf changingFunctions then
      some s!"non-deterministic functions prohibited in {p.text}"
    else if isOf groupFunctions && !(isOf ["max", "min"] && 1 < count) then
      some s!"misuse of aggregate function {String.ofList name}()"
    else none
  | signed _ inner | collated inner _ => inner.functionFault? p
  | compared _ first second | both first second =>
    (second.functionFault? p).or (first.functionFault? p)
  | _ => none

/-- What is wrong with an expression that stands in the definition of a table. -/
def fault? (p : Place) (table : List Char) (hasColumn : List Char → Bool) (e : Expression) :
    Option String :=
  (e.nameFault? p table hasColumn).or (e.functionFault? p)

/-- The first name in an expression that has to be that of a column. -/
def freeName? : Expression → Option (List Char)
  | column none name inQuotes => if inQuotes || (truth? name).isSome then none else some name
  | column (some own) name _ => some (own ++ '.' :: name)
  | signed _ inner | collated inner _ => inner.freeName?
  | compared _ first second | both first second => first.freeName?.or second.freeName?
  | _ => none

/-- Whether an expression names a column. -/
def names (e : Expression) (name : List Char) : Bool :=
  match e with
  | column _ own _ => Token.sameName own name
  | signed _ inner | collated inner _ => inner.names name
  | compared _ first second | both first second => first.names name || second.names name
  | _ => false

/-! ## Reading -/

/-- An operation on several expressions. -/
def operation (e : Expression) (more : List Expression) : Expression := more.foldl both e

/-- Whether a word begins a query. -/
def beginsQuery (t : Token) : Bool := ["select", "values", "with"].any t.isKeyword

def isOperator : Token → Bool
  | .symbol c => ['+', '-', '*', '/', '%', '&', '|', '<', '>', '='].contains c
  | .operator _ => true
  | _ => false

/-- The words that join two expressions by likeness. -/
def likenessWords : List String := ["like", "glob", "regexp", "match"]

/-- The words of a type, at most `count` of them. -/
def typeWords : (count : Nat) → Reading (List (List Char))
  | 0 => return []
  | count + 1 => do
    match ← ahead with
    | t :: rest => match t.typeWord? with
      | some word => do
        moveTo rest
        return word :: (← typeWords count)
      | none => return []
    | [] => return []

/-- A number with or without a sign. -/
def signedNumber : Reading (List Char) := do
  let sign ← skipIf fun t => t == .symbol '+' || t == .symbol '-'
  let written : Token → Option (List Char)
    | .number digits => some digits
    | _ => none
  let digits ← take written
  return if sign then '-' :: digits else digits

/-- A type, which may have one or two sizes. -/
def typeName : Reading (List Char) := do
  let words ← typeWords (← size)
  let name := Text.joinWith [' '] words
  if !words.isEmpty && (← startsWith '(') then
    symbol '('
    let first ← signedNumber
    if ← symbol? ',' then
      let second ← signedNumber
      symbol ')'
      return name ++ '(' :: first ++ ',' :: second ++ [')']
    symbol ')'
    return name ++ '(' :: first ++ [')']
  return name

/-- A query in brackets. -/
def queryInBrackets : Reading Expression := do
  symbol '('
  skipTo (· == .symbol ')')
  symbol ')'
  return query

/-- A name that may have other names in front of it; of two, the first does not count. -/
def qualified (first : List Char) (inQuotes : Bool) : Reading Expression := do
  if !(← symbol? '.') then return column none first inQuotes
  let second ← name
  if !(← symbol? '.') then return column (some first) second inQuotes
  let third ← name
  return column (some second) third inQuotes

mutual

/-- An expression. -/
def read : (fuel : Nat) → Reading Expression
  | 0 => unexpected
  | fuel + 1 => do continued fuel false (← operand fuel)

/-- The expressions of a list in brackets, which may be empty. -/
def listRest : (fuel : Nat) → Reading (List Expression)
  | 0 => unexpected
  | fuel + 1 => do
    if ← symbol? ')' then return []
    listed (read fuel) fuel

/-- What an expression is made of, and what follows its first part; `inRange` up to the word that
joins the ends of a range. -/
def continued : (fuel : Nat) → (inRange : Bool) → Expression → Reading Expression
  | 0, _, _ => unexpected
  | fuel + 1, inRange, e => do
    match ← ahead with
    | t :: rest =>
      if isOperator t || (!inRange && (t.isKeyword "and" || t.isKeyword "or")) then
        moveTo rest
        let next ← operand fuel
        match Comparison.ofToken? t with
        | some how => continued fuel inRange (compared how e next)
        | none => continued fuel inRange (both e next)
      else if t.isKeyword "is" then
        moveTo rest
        discard (keyword? "not")
        if ← keyword? "distinct" then keyword "from"
        continued fuel inRange (both e (← operand fuel))
      else if t.isKeyword "isnull" || t.isKeyword "notnull" then
        moveTo rest
        continued fuel inRange (both e (value .null))
      else if t.isKeyword "collate" then
        moveTo rest
        continued fuel inRange (collated e (← take Token.typeWord?))
      else if t.isKeyword "not" then
        moveTo rest
        if ← keyword? "null" then continued fuel inRange (both e (value .null))
        else match ← tested fuel e with
          | some e => continued fuel inRange e
          | none => unexpected
      else match ← tested fuel e with
        | some e => continued fuel inRange e
        | none => return e
    | [] => return e

/-- An expression under a test that can be turned into its opposite, if one comes next. -/
def tested : (fuel : Nat) → Expression → Reading (Option Expression)
  | 0, _ => unexpected
  | fuel + 1, e => do
    if (← oneOf? likenessWords).isSome then
      let pattern ← operand fuel
      let e := both e (← continued fuel true pattern)
      if ← keyword? "escape" then return some (both e (← operand fuel))
      return some e
    else if ← keyword? "between" then
      let low ← continued fuel true (← operand fuel)
      keyword "and"
      return some (operation e [low, ← operand fuel])
    else if ← keyword? "in" then
      if !(← startsWith '(') then
        discard (qualified (← name) false)
        if ← symbol? '(' then return some (operation query (e :: (← listRest fuel)))
        return some (both query e)
      if ((← ahead).drop 1).head?.any beginsQuery then return some (both (← queryInBrackets) e)
      symbol '('
      return some (operation e (← listRest fuel))
    else return none

/-- The first part of an expression. -/
def operand : (fuel : Nat) → Reading Expression
  | 0 => unexpected
  | fuel + 1 => do
    match ← ahead with
    | .symbol '(' :: rest =>
      if rest.head?.any beginsQuery then queryInBrackets
      else match ← inBrackets (read fuel) with
        | e :: more => return operation e more
        | [] => unexpected
    | .symbol '-' :: rest => moveTo rest; return signed true (← operand fuel)
    | .symbol '+' :: rest => moveTo rest; return signed false (← operand fuel)
    | .symbol '~' :: rest => moveTo rest; return both (value .null) (← operand fuel)
    | .parameter word :: rest =>
      if word.head? == some '#' && (word.drop 1).head?.any Number.isDigit then unexpected
      moveTo rest
      return parameter
    | t :: rest =>
      if t.isKeyword "not" then moveTo rest; return both (value .null) (← operand fuel)
      else if t.isKeyword "exists" then moveTo rest; queryInBrackets
      else if t.isKeyword "cast" then
        moveTo rest
        symbol '('
        let e ← read fuel
        keyword "as"
        discard typeName
        symbol ')'
        return both (value .null) e
      else if t.isKeyword "case" then
        moveTo rest
        let start ← if (← ahead).head?.any (Token.isKeyword "when") then pure (value .null)
          else read fuel
        keyword "when"
        branches fuel start
      else if t.isKeyword "raise" then
        moveTo rest
        symbol '('
        if !(← keyword? "ignore") then
          oneOf ["rollback", "abort", "fail"]
          symbol ','
          discard name
        symbol ')'
        return stop
      else if presentWords.any t.isKeyword then moveTo rest; return function t.written 0
      else if let some v := literal? t then do
        moveTo rest
        match t with
        | .quoted _ word => if ← startsWith '.' then qualified word false else return value v
        | _ => return value v
      else
        let own ← name
        let inQuotes := t.written.head? == some '"'
        if !(← symbol? '(') then qualified own inQuotes
        else if ← symbol? '*' then
          symbol ')'
          return function own 0
        else
          discard (oneOf? ["distinct", "all"])
          let given ← listRest fuel
          return given.foldr both (function own given.length)
    | [] => unexpected

/-- The branches of a choice behind the word that begins the first, up to its end. -/
def branches : (fuel : Nat) → Expression → Reading Expression
  | 0, _ => unexpected
  | fuel + 1, e => do
    let condition ← read fuel
    keyword "then"
    let e := operation e [condition, ← read fuel]
    if ← keyword? "when" then branches fuel e
    else if ← keyword? "else" then
      let last ← read fuel
      keyword "end"
      return both e last
    else
      keyword "end"
      return e

end

end Expression

/-- An expression as the next words write it. -/
def Reading.expression : Reading Expression := do Expression.read (4 * (← Reading.size) + 4)

end RowSieve.Store
