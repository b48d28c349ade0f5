/-
Reading a statement word by word. A fault in the meaning of what has been read is told about once
the word behind it has turned out to be right, so that a wrong word comes first.
-/
import RowSieve.Store.Image.Token

namespace RowSieve.Store

/-- The words that are still to be read, and what is wrong with those that have been. -/
structure Words where
  rest : List Token
  fault? : Option String

/-- A reading of words, which tells what is wrong with them. -/
abbrev Reading (α : Type) := StateT Words (Except String) α

namespace Reading

/-- The next word is not what could stand there. -/
def unexpected {α : Type} : Reading α := do
  match (← get).rest with
  | [] => throw "incomplete input"
  | .broken rest :: _ => throw s!"unrecognized token: \"{String.ofList rest}\""
  | t :: _ => throw s!"near \"{String.ofList t.written}\": syntax error"

/-- What has been read has a fault. -/
def blame (fault : String) : Reading Unit := modify fun w => { w with fault? := some fault }

/-- Tells about a fault in what has been read. -/
def settle : Reading Unit := do
  if let some fault := (← get).fault? then throw fault

/-- The words that come next. -/
def ahead : Reading (List Token) := return (← get).rest

/-- The number of words that are still to be read. -/
def size : Reading Nat := return (← get).rest.length

/-- Moves to where other words come next. -/
def moveTo (rest : List Token) : Reading Unit := do
  settle
  set (⟨rest, none⟩ : Words)

/-- Moves over the next word if it is of a kind. -/
def skipIf (is : Token → Bool) : Reading Bool := do
  match ← ahead with
  | t :: rest => if is t then moveTo rest; return true else return false
  | [] => return false

/-- Moves over the next word, of which something can be made. -/
def take {α : Type} (make? : Token → Option α) : Reading α := do
  match ← ahead with
  | t :: rest => match make? t with
    | some a => moveTo rest; return a
    | none => unexpected
  | [] => unexpected

def keyword? (keyword : String) : Reading Bool := skipIf (Token.isKeyword keyword)

def symbol? (c : Char) : Reading Bool := skipIf (· == .symbol c)

def expect (found : Bool) : Reading Unit := if found then return else unexpected

def name : Reading (List Char) := take Token.name?

/-- Expects a keyword. -/
def keyword (keyword : String) : Reading Unit := do expect (← keyword? keyword)

def symbol (c : Char) : Reading Unit := do expect (← symbol? c)

/-- The first of the keywords that comes next. -/
def oneOf? : List String → Reading (Option String)
  | [] => return none
  | k :: rest => do if ← keyword? k then return some k else oneOf? rest

def oneOf (keywords : List String) : Reading Unit := do expect (← oneOf? keywords).isSome

/-- Whether the symbol comes next. -/
def startsWith (c : Char) : Reading Bool := return (← ahead).head? == some (.symbol c)

/-- The items of a list between brackets, at most `count` of them. -/
def listed {α : Type} (item : Reading α) : (count : Nat) → Reading (List α)
  | 0 => unexpected
  | count + 1 => do
    let a ← item
    if ← symbol? ',' then return a :: (← listed item count)
    symbol ')'
    return [a]

/-- The items of a list in brackets. -/
def inBrackets {α : Type} (item : Reading α) : Reading (List α) := do
  symbol '('
  listed item (← size)

/-- The words in front of one that stands outside of `depth` brackets and ends them, and the rest
from there on. -/
def upTo (stops : Token → Bool) : (depth : Nat) → List Token → List Token × List Token
  | _, [] => ([], [])
  | depth, t :: rest =>
    if depth = 0 ∧ stops t then ([], t :: rest)
    else
      let depth :=
        if t = .symbol '(' then depth + 1 else if t = .symbol ')' then depth - 1 else depth
      let (part, behind) := upTo stops depth rest
      (t :: part, behind)

def isBroken : Token → Bool
  | .broken _ => true
  | _ => false

/-- Moves over words up to one that stands outside of brackets. -/
def skipTo (stops : Token → Bool) : Reading Unit := do
  let (part, behind) := upTo stops 0 (← ahead)
  match part.find? isBroken with
  | some t => moveTo [t]; unexpected
  | none => if part.isEmpty then return else moveTo behind

/-- The end of a statement. Nothing behind it is looked at. -/
def finish : Reading Unit := do
  match ← ahead with
  | [] | .symbol ';' :: _ => settle
  | _ => unexpected

end Reading

end RowSieve.Store
