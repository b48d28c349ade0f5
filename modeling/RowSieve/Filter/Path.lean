/-
Dotted paths: the relations to follow from a row, one after another, and the column to test in
the rows reached. Every text is a path; a path is well formed when all its segments are
identifiers.
-/
import RowSieve.Text.Pieces

namespace RowSieve.Filter

/-- A chain of relations and a column at its end. -/
structure Path where
  relations : List String
  column : String
deriving DecidableEq

/-- Why a text is not a well-formed path. -/
inductive PathError where
  | emptySegment (path : String)
  | badSegment (segment path : String)
deriving DecidableEq

def PathError.message : PathError → String
  | emptySegment path => s!"Path '{path}' contains an empty segment"
  | badSegment segment path => s!"Path segment '{segment}' in '{path}' is not a valid identifier"

def isLetter (c : Char) : Bool :=
  ('A' ≤ c && c ≤ 'Z') || ('a' ≤ c && c ≤ 'z') || c == '_'

def isLetterOrDigit (c : Char) : Bool := isLetter c || ('0' ≤ c && c ≤ '9')

/-- Whether a text is an ASCII letter or underscore, followed by such and digits. -/
def isIdentifier (s : String) : Bool :=
  match s.toList with
  | [] => false
  | c :: cs => isLetter c && cs.all isLetterOrDigit

namespace Path

/-- The segments of a text between its dots. -/
def segments (text : String) : List String := (Text.split '.' text.toList).map String.ofList

/-- The path that a text writes: its last segment is the column. -/
def ofText (text : String) : Path :=
  let parts := segments text
  ⟨parts.dropLast, parts.getLastD ""⟩

/-- The path with dots between its segments. -/
def text (p : Path) : String :=
  String.ofList (Text.joinWith ['.'] ((p.relations ++ [p.column]).map String.toList))

/-- The path that a text writes, if every segment is an identifier; the first one that is not
decides the error. -/
def ofText? (text : String) : Except PathError Path :=
  match (segments text).find? (!isIdentifier ·) with
  | none => .ok (ofText text)
  | some segment =>
    .error (if segment.isEmpty then .emptySegment text else .badSegment segment text)

/-- Whether the column is one of the row itself. -/
def isLocal (p : Path) : Bool := p.relations.isEmpty

end Path

end RowSieve.Filter
