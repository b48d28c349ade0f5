/-
Files that add variables to the environment, a `name=value` on each line. Values may be quoted:
between single quotes everything stands for itself, between double quotes and outside of quotes a
backslash escapes and a dollar sign names a variable to be put in. Quotes may run over lines. The
first line that cannot be read ends the file; what stood above it counts, and variables that are
there already keep their values.
-/
import RowSieve.Service.Settings
import RowSieve.Text.Alphanumeric

namespace RowSieve.Service.EnvironmentFile

open RowSieve.CommandLine (Variables)
open RowSieve.Files (Path Tree)

/-! ## Lines -/

/-- What a character of a line stands in. -/
inductive Mode where
  | plain
  | blank
  | escape
  | single
  | singleEscape
  | double
  | doubleEscape
deriving DecidableEq

/-- The mode behind a character. -/
def Mode.next (m : Mode) (c : Char) : Mode :=
  let opened : Mode :=
    if c = '\\' then escape else if c = '"' then double else if c = '\'' then single else plain
  match m with
  | plain => if Text.isBlank c && c != '\n' && c != '\r' then blank else opened
  | blank => opened
  | escape => plain
  | single => if c = '\\' then singleEscape else if c = '\'' then plain else single
  | singleEscape => single
  | double => if c = '\\' then doubleEscape else if c = '"' then plain else double
  | doubleEscape => double

/-- The mode behind a line, and the part of it in front of a comment. -/
def scan : Mode → List Char → Mode × Option (List Char)
  | m, [] => (m, none)
  | m, c :: rest =>
    if m = .blank ∧ c = '#' then (m, some [])
    else
      let (last, before?) := scan (m.next c) rest
      (last, before?.map (c :: ·))

/-- The lines of a text, each with the character that ends it. -/
def physicalLines : List Char → List (List Char)
  | [] => []
  | c :: rest =>
    if c = '\n' then [c] :: physicalLines rest
    else match physicalLines rest with
      | [] => [[c]]
      | line :: lines => (c :: line) :: lines

/-- A line without what ends it. -/
def withoutEnd (line : List Char) : List Char :=
  match line.reverse with
  | '\n' :: '\r' :: rest => rest.reverse
  | '\n' :: rest => rest.reverse
  | _ => line

/-- The lines that make one statement each; `none` for one that does not end. `held` is the part
of a statement that stands above. -/
def statements (held : List Char) (m : Mode) : List (List Char) → List (Option (List Char))
  | [] => if m = .plain then [] else [none]
  | line :: rest =>
    let whole := held ++ line
    if (Text.trimStart whole).head? == some '#' then some [] :: statements [] .plain rest
    else match scan m line with
      | (_, some before) => some (held ++ before) :: statements [] .plain rest
      | (.plain, none) => some (withoutEnd whole) :: statements [] .plain rest
      | (m, none) => statements whole m rest

/-! ## Values -/

/-- How a variable that is put in is named. -/
inductive Naming where
  | none
  | bare
  | braced
deriving DecidableEq

/-- A value of which some characters have been read. -/
structure Progress where
  single : Bool
  double : Bool
  escaped : Bool
  /-- Whether only a comment can follow. -/
  ended : Bool
  naming : Naming
  name : List Char
  value : List Char

namespace Progress

def start : Progress := ⟨false, false, false, false, .none, [], []⟩

def push (p : Progress) (c : Char) : Progress := { p with value := p.value ++ [c] }

/-- Puts the named variable in. -/
def putIn (vars : Variables) (p : Progress) : Progress :=
  let held := (vars.get? (String.ofList p.name)).getD ""
  { p with value := p.value ++ held.toList, name := [], naming := .none }

end Progress

/-- Reads one more character of a value; `none` where it cannot stand. -/
def read (vars : Variables) (p : Progress) (c : Char) : Option Progress :=
  if p.ended then if c = ' ' ∨ c = '\t' then some p else none
  else if p.escaped then
    if ['\\', '\'', '"', '$', ' '].contains c then some { p.push c with escaped := false }
    else if c = 'n' then some { p.push '\n' with escaped := false }
    else none
  else if p.single then some (if c = '\'' then { p with single := false } else p.push c)
  else match p.naming with
    | .bare =>
      if Text.isAlphanumeric c then some { p with name := p.name ++ [c] }
      else if c = '\x7b' ∧ p.name.isEmpty then some { p with naming := .braced }
      else
        let p := p.putIn vars
        some (if c = '$' then { p with naming := .bare } else p.push c)
    | .braced => some (if c = '\x7d' then p.putIn vars else { p with name := p.name ++ [c] })
    | .none =>
      if c = '$' then some { p with naming := .bare }
      else if c = '\\' then some { p with escaped := true }
      else if c = '"' then some { p with double := !p.double }
      else if p.double then some (p.push c)
      else if c = '\'' then some { p with single := true }
      else if c = ' ' ∨ c = '\t' then some { p with ended := true }
      else some (p.push c)

/-- The value that characters write. -/
def value? (vars : Variables) (p : Progress) : List Char → Option (List Char)
  | [] =>
    if p.naming = .braced ∨ p.single ∨ p.double then none else some (p.putIn vars).value
  | c :: rest =>
    if p.ended ∧ c = '#' then value? vars p []
    else match read vars p c with
      | some p => value? vars p rest
      | none => none

/-! ## Statements -/

/-- A name at the start of a text, and the text behind it. -/
def name? (s : List Char) : Option (List Char × List Char) :=
  match s with
  | [] => none
  | c :: _ =>
    let isInside (c : Char) : Bool := c.isAlphanum || c == '_' || c == '.'
    if c.isAlpha || c == '_' then some (s.takeWhile isInside, s.dropWhile isInside) else none

/-- The name of a statement and the text behind its equals sign; `export` may stand in front. -/
def assigned? (s : List Char) : Option (List Char × List Char) := do
  let (name, rest) ← name? s
  let rest := Text.trimStart rest
  match Text.after? ['='] rest with
  | some value => return (name, value)
  | none =>
    if name = "export".toList then do
      let (name, rest) ← name? rest
      return (name, ← Text.after? ['='] (Text.trimStart rest))
    else none

/-- What a line says. -/
inductive Statement where
  | nothing
  | assign (name value : String)
  | unreadable

def statement (vars : Variables) (line : List Char) : Statement :=
  let s := Text.trim line
  if s.isEmpty || s.head? == some '#' then .nothing
  else match assigned? s with
    | none => .unreadable
    | some (name, rest) =>
      let rest := Text.trimStart rest
      if rest.isEmpty || rest.head? == some '#' then .assign (String.ofList name) ""
      else match value? vars .start rest with
        | some value => .assign (String.ofList name) (String.ofList value)
        | none => .unreadable

/-- The variables with those of some lines added. -/
def addLines (vars : Variables) : List (Option (List Char)) → Variables
  | some line :: rest =>
    match statement vars line with
    | .nothing => addLines vars rest
    | .assign name value =>
      addLines (if (vars.get? name).isSome then vars else vars ++ [(name, value)]) rest
    | .unreadable => vars
  | _ => vars

/-- The variables with those of a file added. -/
def add (vars : Variables) (content : String) : Variables :=
  let s := content.toList
  let s := if s.head? == some (Char.ofNat 0xFEFF) then s.tail else s
  addLines vars (statements [] .plain (physicalLines s))

/-! ## Finding the file -/

/-- The name of the file. -/
def fileName : Path := ".env".toList

/-- The path of the file in a directory, which is given by the names on the way, innermost
first. -/
def candidate (names : List (List Char)) : Path := (Path.ofNames names.reverse).join fileName

/-- The text of the file in a directory or in the nearest one above that has one. -/
def find? (t : Tree) : List (List Char) → Option String
  | [] => (t.readText (candidate [])).toOption
  | name :: above =>
    match t.locate (candidate (name :: above)) with
    | .ok (_, .file bytes) => String.fromUTF8? bytes
    | .ok (_, .directory) | .error .notFound => find? t above
    | .error _ => none

/-- The surroundings with the variables of the file that is found from the current directory
upwards. -/
def load (s : Surroundings) : Surroundings :=
  match find? s.tree s.current.names.reverse with
  | some content => { s with environment := add s.environment content }
  | none => s

end RowSieve.Service.EnvironmentFile
