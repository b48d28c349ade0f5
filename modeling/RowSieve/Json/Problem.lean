/-
What can be wrong with a JSON text, and where: each problem has one wording, and a fault is a
problem with the line and column at which it was met.
-/
import RowSieve.Number.Shortest
import RowSieve.Text.Printable

namespace RowSieve.Json

/-- What stood in the text where something else was due. -/
inductive Found where
  | null
  | bool (b : Bool)
  | integer (n : Int)
  | real (x : Binary64)
  | text (s : String)
  | sequence
  | map

def Found.describe : Found → String
  | null => "null"
  | bool b => s!"boolean `{b}`"
  | integer n => s!"integer `{n}`"
  | real x => s!"floating point `{x.literal}`"
  | text s => s!"string {Text.shown s}"
  | sequence => "sequence"
  | map => "map"

/-- What is wrong with a text. -/
inductive Problem where
  | endInValue
  | endInList
  | endInObject
  | endInText
  | valueExpected
  | identExpected
  | colonExpected
  | listEndExpected
  | objectEndExpected
  | trailingComma
  | trailingCharacters
  | keyNotText
  | invalidNumber
  | numberOutOfRange
  | invalidEscape
  | hexEscapeEnded
  | loneSurrogate
  | controlCharacter
  | tooDeep
  | missingField (name : String)
  | duplicateField (name : String)
  | wrongLength (found : Nat) (record : String) (fields : Nat)
  | wrongType (found : Found) (expected : String)
  | wrongInteger (n : Int) (expected : String)
  | noVariant (name : String)

def Problem.message : Problem → String
  | endInValue => "EOF while parsing a value"
  | endInList => "EOF while parsing a list"
  | endInObject => "EOF while parsing an object"
  | endInText => "EOF while parsing a string"
  | valueExpected => "expected value"
  | identExpected => "expected ident"
  | colonExpected => "expected `:`"
  | listEndExpected => "expected `,` or `]`"
  | objectEndExpected => "expected `,` or `\x7d`"
  | trailingComma => "trailing comma"
  | trailingCharacters => "trailing characters"
  | keyNotText => "key must be a string"
  | invalidNumber => "invalid number"
  | numberOutOfRange => "number out of range"
  | invalidEscape => "invalid escape"
  | hexEscapeEnded => "unexpected end of hex escape"
  | loneSurrogate => "lone leading surrogate in hex escape"
  | controlCharacter => "control character (\\u0000-\\u001F) found while parsing a string"
  | tooDeep => "recursion limit exceeded"
  | missingField name => s!"missing field `{name}`"
  | duplicateField name => s!"duplicate field `{name}`"
  | wrongLength found record fields =>
    s!"invalid length {found}, expected struct {record} with {fields} elements"
  | wrongType found expected => s!"invalid type: {found.describe}, expected {expected}"
  | wrongInteger n expected => s!"invalid value: integer `{n}`, expected {expected}"
  | noVariant name => s!"data did not match any variant of untagged enum {name}"

/-- A place in a text: lines count from one, columns count the bytes before it on its line. -/
structure Position where
  line : Nat
  column : Nat

/-- A problem, with its place once that is known. -/
structure Fault where
  problem : Problem
  place? : Option Position

def Fault.message (f : Fault) : String :=
  match f.place? with
  | some p => s!"{f.problem.message} at line {p.line} column {p.column}"
  | none => f.problem.message

end RowSieve.Json
