/-
The text of conditions read by the grammar of statements. The words of a text are taken apart as
the store's own statements are, each open place is filled with the parameter at its position, and
the words are read with the usual precedence: comparisons, `IN`, `LIKE` and `IS` bind more closely
than `NOT`, that more closely than `AND`, and `OR` least; `AND` and `OR` group from the left. What
is read is a formula over named scopes. Its truth for stored rows is three-valued, and a text that
the grammar does not have, whose parameters are too few or too many, or that names a scope that is
not there, has none.
-/
import RowSieve.Proofs.Filter.Meaning
import RowSieve.Store.Image.Token

namespace RowSieve.Sql

open RowSieve.Filter (Column Comparison)
open RowSieve.Store (Token)

/-! ## Words -/

/-- A word of a text whose open places have been filled. -/
inductive Word where
  | token (t : Token)
  | value (d : Datum)
deriving DecidableEq

/-- The words of a text, each open place filled with the next value; all values are used up. -/
def fill : List Token → List Datum → Option (List Word)
  | [], ds => if ds.isEmpty then some [] else none
  | t :: ts, ds =>
    if t = .parameter ['?'] then
      match ds with
      | d :: ds => (fill ts ds).map (.value d :: ·)
      | [] => none
    else (fill ts ds).map (.token t :: ·)

/-! ## Formulas -/

/-- What a test compares: a column of a named scope, or a value. -/
inductive Term where
  | column (scope : List Char) (column : Column)
  | value (d : Datum)
deriving DecidableEq

/-- What a text says of rows. -/
inductive Formula where
  | compare (a : Term) (op : Comparison) (b : Term)
  | among (a : Term) (items : List Term)
  | like (a pattern : Term)
  | isNull (a : Term)
  /-- Some row of the table, under the name of its scope, satisfies the body. -/
  | found (table : String) (scope : List Char) (body : Formula)
  | not (f : Formula)
  | and (f g : Formula)
  | or (f g : Formula)
deriving DecidableEq

/-- The row of each named scope, the innermost first. -/
abbrev Frame := List (List Char × Row)

/-- The row of a scope; the case of letters in its name does not count. -/
def Frame.row? (frame : Frame) (scope : List Char) : Option Row :=
  (frame.find? fun e => Token.sameName e.1 scope).map (·.2)

/-- The value of a term; there is none in a scope that is not there. -/
def Term.cell (frame : Frame) : Term → Cell
  | column scope c => ((frame.row? scope).map c.value).getD .null
  | value d => .ofDatum d

/-- Whether the scope that a term names is among those that are there. -/
def Term.inScope (scopes : List (List Char)) : Term → Bool
  | column scope _ => scopes.any (Token.sameName · scope)
  | value _ => true

namespace Formula

/-- The denial, if it is asked for. -/
def notIf (negated : Bool) (f : Formula) : Formula := if negated then f.not else f

/-- Whether every scope that is named is there, with those of the subqueries around it. -/
def inScope (scopes : List (List Char)) : Formula → Bool
  | compare a _ b => a.inScope scopes && b.inScope scopes
  | among a items => a.inScope scopes && items.all (·.inScope scopes)
  | like a pattern => a.inScope scopes && pattern.inScope scopes
  | isNull a => a.inScope scopes
  | found _ scope body => body.inScope (scope :: scopes)
  | not f => f.inScope scopes
  | and f g | or f g => f.inScope scopes && g.inScope scopes

/-- Whether a value is like what another one gives as a pattern. -/
def likeness (a pattern : Cell) : Truth :=
  match pattern.toText? with
  | some p => likeCell a p
  | none => .unknown

/-- The truth of a formula. -/
def truth (tables : Tables) (frame : Frame) : Formula → Truth
  | compare a op b => compareCells op (a.cell frame) (b.cell frame)
  | among a items => amongCells (a.cell frame) (items.map (·.cell frame))
  | like a pattern => likeness (a.cell frame) (pattern.cell frame)
  | isNull a => .ofBool (a.cell frame).isNull
  | found table scope body =>
    .ofBool ((tables table).any fun row => (body.truth tables ((scope, row) :: frame)).selects)
  | not f => (f.truth tables frame).not
  | and f g => (f.truth tables frame).and (g.truth tables frame)
  | or f g => (f.truth tables frame).or (g.truth tables frame)

/-! ## Reading words -/

/-- Reads something off the front of the words, and gives what follows it. -/
abbrev Reader (α : Type) := List Word → Option (α × List Word)

/-- What follows a token. -/
def after? (p : Token → Bool) : List Word → Option (List Word)
  | .token t :: ws => if p t then some ws else none
  | _ => none

def keyword? (word : String) : List Word → Option (List Word) := after? (Token.isKeyword word)

def symbol? (c : Char) : List Word → Option (List Word) := after? (· == .symbol c)

/-- A name that is no keyword of the grammar. -/
def scopeName : Reader (List Char)
  | .token (.name word) :: ws => if Token.isReserved word then none else some (word, ws)
  | _ => none

/-- A name in double quotes. -/
def quotedName : Reader String
  | .token (.quoted '"' word) :: ws => some (String.ofList word, ws)
  | _ => none

/-- A column of a scope. -/
def columnName : Reader (List Char × String) := fun ws => do
  let (scope, ws) ← scopeName ws
  let ws ← symbol? '.' ws
  let (name, ws) ← quotedName ws
  some ((scope, name), ws)

/-- A column, or the day of a column. -/
def columnTerm : Reader Term := fun ws =>
  match keyword? "date" ws >>= symbol? '(' with
  | some inside => do
    let ((scope, name), ws) ← columnName inside
    some (.column scope ⟨name, true⟩, ← symbol? ')' ws)
  | none => do
    let ((scope, name), ws) ← columnName ws
    some (.column scope ⟨name, false⟩, ws)

/-- A value, or what a column gives. -/
def term : Reader Term
  | .value d :: ws => some (.value d, ws)
  | .token (.number digits) :: ws => match Number.readInteger .signed64 digits with
    | .ok n => some (.value (.integer n), ws)
    | .error _ => none
  | ws => columnTerm ws

/-- Terms behind commas up to a bracket, at most `count` of them. -/
def moreTerms : (count : Nat) → Reader (List Term)
  | 0, _ => none
  | count + 1, ws => match symbol? ')' ws with
    | some ws => some ([], ws)
    | none => do
      let (t, ws) ← term (← symbol? ',' ws)
      let (ts, ws) ← moreTerms count ws
      some (t :: ts, ws)

/-- The terms of a list in brackets, which may be empty. -/
def termList : Reader (List Term) := fun ws => do
  let ws ← symbol? '(' ws
  match symbol? ')' ws with
  | some ws => some ([], ws)
  | none =>
    let (t, ws) ← term ws
    let (ts, ws) ← moreTerms ws.length ws
    some (t :: ts, ws)

/-- The comparison that a word stands for. -/
def comparison? (t : Token) : Option Comparison :=
  Comparison.all.find? fun op => t.written == op.sign.toList

/-- What follows `IN` or `LIKE`; a pattern is followed by the mark that makes its next character
stand for itself. -/
def range (a : Term) : Reader Formula := fun ws =>
  match keyword? "in" ws with
  | some ws => do
    let (items, ws) ← termList ws
    some (.among a items, ws)
  | none => do
    let (pattern, ws) ← term (← keyword? "like" ws)
    let ws ← keyword? "escape" ws
    some (.like a pattern, ← after? (· == .quoted '\'' ['\\']) ws)

/-- A test of a term. -/
def test : Reader Formula := fun ws => do
  let (a, ws) ← term ws
  match keyword? "is" ws, keyword? "not" ws with
  | some ws, _ => match keyword? "not" ws with
    | some ws => some (.not (.isNull a), ← keyword? "null" ws)
    | none => some (.isNull a, ← keyword? "null" ws)
  | none, some ws => do
    let (f, ws) ← range a ws
    some (.not f, ws)
  | none, none => match ws with
    | .token t :: behind => match comparison? t with
      | some op => do
        let (b, ws) ← term behind
        some (.compare a op b, ws)
      | none => range a ws
    | _ => none

/-- A subquery behind `EXISTS`: it asks for a row of a table under a name. -/
def subquery (condition : Reader Formula) : Reader Formula := fun ws => do
  let (_, ws) ← term (← keyword? "select" (← symbol? '(' ws))
  let (table, ws) ← quotedName (← keyword? "from" ws)
  let (scope, ws) ← scopeName (← keyword? "as" ws)
  let (body, ws) ← condition (← keyword? "where" ws)
  some (.found table scope body, ← symbol? ')' ws)

/-- A condition in brackets, a subquery, or a test. -/
def primary (condition : Reader Formula) : Reader Formula := fun ws =>
  match symbol? '(' ws, keyword? "exists" ws with
  | some ws, _ => do
    let (f, ws) ← condition ws
    some (f, ← symbol? ')' ws)
  | none, some ws => subquery condition ws
  | none, none => test ws

/-- A primary condition behind at most `count` words that deny it. -/
def denial (condition : Reader Formula) : (count : Nat) → Reader Formula
  | count + 1, ws => match keyword? "not" ws with
    | some ws => do
      let (f, ws) ← denial condition count ws
      some (.not f, ws)
    | none => primary condition ws
  | 0, _ => none

/-- A primary condition behind whatever denies it. -/
def item (condition : Reader Formula) : Reader Formula := fun ws => denial condition ws.length ws

/-- What follows `f`, at most `count` items with the word in front of each. -/
def more (word : String) (join : Formula → Formula → Formula) (item : Reader Formula) :
    (count : Nat) → Formula → Reader Formula
  | 0, f, ws => some (f, ws)
  | count + 1, f, ws => match keyword? word ws with
    | some ws => do
      let (g, ws) ← item ws
      more word join item count (join f g) ws
    | none => some (f, ws)

/-- Items with the word between them. -/
def chain (word : String) (join : Formula → Formula → Formula) (item : Reader Formula) :
    Reader Formula := fun ws => do
  let (f, ws) ← item ws
  more word join item ws.length f ws

/-- A condition whose brackets stand at most `depth` deep in each other. -/
def condition : (depth : Nat) → Reader Formula
  | 0, _ => none
  | depth + 1, ws =>
    chain "or" .or (chain "and" .and (item (condition depth))) ws

/-- The formula of words that make one condition on rows of the scope. -/
def ofWords? (scope : List Char) (ws : List Word) : Option Formula :=
  match condition (ws.length + 1) ws with
  | some (f, []) => if f.inScope [scope] then some f else none
  | _ => none

end Formula

/-! ## The truth of a text -/

/-- The name of the scope of the table that is asked for. -/
def rootName : List Char := (aliasText rootAlias).toList

/-- The truth of words for a row. -/
def truthOfWords? (tables : Tables) (row : Row) (ws : List Word) : Option Truth :=
  (Formula.ofWords? rootName ws).map (·.truth tables [(rootName, row)])

/-- The truth of a condition's text for a row, with the parameters in its open places. -/
def truthOfText? (text : String) (params : List Datum) (tables : Tables) (row : Row) :
    Option Truth :=
  fill (Token.ofText text.toList) params >>= truthOfWords? tables row

-- `NOT` binds before `AND`, and `AND` before `OR`.
example : ["NOT 1=0 AND 1=0", "1=1 OR 1=1 AND 1=0"].map
    (fun text => truthOfText? text [] (fun _ => []) ⟨fun _ => .null, 0⟩) = [some .no, some .yes] := by
  decide

/-- The truth of a clause for a row: without a clause every row is selected. -/
def truthOfClause? (clause : String) (params : List Datum) (tables : Tables) (row : Row) :
    Option Truth := do
  match ← fill (Token.ofText clause.toList) params with
  | [] => some .yes
  | ws => truthOfWords? tables row (← Formula.keyword? "where" ws)

end RowSieve.Sql
