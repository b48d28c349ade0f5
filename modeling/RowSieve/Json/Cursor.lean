/-
Reading a JSON text character by character. A `Reader` moves a cursor over the text and ends in
a value or a fault; the cursor keeps its place in either case, since an enclosing list or object
is still closed after a fault inside it. A problem is placed either at the cursor or at the byte
in front of it.
-/
import RowSieve.Json.Problem
import RowSieve.Text.Utf8

namespace RowSieve.Json

/-- The text that is left and the place where it begins. -/
structure Cursor where
  rest : List Char
  place : Position

def Cursor.start (s : List Char) : Cursor := ⟨s, ⟨1, 0⟩⟩

/-- A reading that may fault. -/
abbrev Reader (α : Type) := ExceptT Fault (StateM Cursor) α

/-! ## Places -/

/-- The place behind the first `count` bytes of a text. -/
def Position.behind : (count : Nat) → List Char → Position → Position
  | 0, _, p => p
  | _ + 1, [], p => p
  | count + 1, c :: cs, p =>
    if c = '\n' then behind count cs ⟨p.line + 1, 0⟩
    else if c.utf8Size ≤ count + 1 then
      behind (count + 1 - c.utf8Size) cs ⟨p.line, p.column + c.utf8Size⟩
    else ⟨p.line, p.column + (count + 1)⟩

/-- Whether a text has that many bytes. -/
def hasBytes : (count : Nat) → List Char → Bool
  | 0, _ => true
  | _ + 1, [] => false
  | count + 1, c :: cs => hasBytes (count + 1 - c.utf8Size) cs

namespace Reader

/-- Faults with a problem whose place the enclosing value decides. -/
def unplaced {α : Type} (p : Problem) : Reader α := throw ⟨p, none⟩

/-- Faults at the cursor. -/
def failHere {α : Type} (p : Problem) : Reader α := do
  throw ⟨p, some (← get).place⟩

/-- Faults behind the next `count` bytes. -/
def failBehind {α : Type} (count : Nat) (p : Problem) : Reader α := do
  let c ← get
  throw ⟨p, some (Position.behind count c.rest c.place)⟩

/-- Faults at the byte in front of the cursor. -/
def failAhead {α : Type} (p : Problem) : Reader α := failBehind 1 p

/-- The character in front of the cursor. -/
def peek : Reader (Option Char) := do return (← get).rest.head?

/-- Moves over one character. -/
def skip : Reader Unit :=
  modify fun c => match c.rest with
    | [] => c
    | x :: xs => ⟨xs, Position.behind x.utf8Size (x :: xs) c.place⟩

/-- Moves over the characters of a kind and gives them. -/
def takeWhile (p : Char → Bool) : Reader (List Char) := do
  let c ← get
  let taken := c.rest.takeWhile p
  set (⟨c.rest.dropWhile p, Position.behind (Text.Utf8.byteLength taken) c.rest c.place⟩ : Cursor)
  return taken

def isJsonBlank (c : Char) : Bool := c == ' ' || c == '\n' || c == '\t' || c == '\r'

/-- Moves over blanks and gives the character behind them. -/
def peekPastBlanks : Reader (Option Char) := do
  discard (takeWhile isJsonBlank)
  peek

/-- Places a fault at the cursor if it has no place yet. -/
def place {α : Type} (r : Reader α) : Reader α :=
  tryCatch r fun f => match f.place? with
    | some _ => throw f
    | none => failHere f.problem

/-- Runs a reader to its end, also for the place it leaves, whatever it finds. -/
def attempt {α : Type} (r : Reader α) : Reader (Except Fault α) :=
  tryCatch (do return .ok (← r)) fun f => return .error f

/-- Runs `inner` and then `close`; a fault of `inner` goes before one of `close`. -/
def enclosed {α : Type} (inner : Reader α) (close : Reader Unit) : Reader α := place do
  match ← attempt inner with
  | .ok a => do close; return a
  | .error f => do discard (attempt close); throw f

end Reader

end RowSieve.Json
