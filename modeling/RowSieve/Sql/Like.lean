/-
`LIKE` patterns. In a pattern `%` stands for any characters, `_` for one, and a backslash makes
the next character stand for itself; letters of ASCII match in either case. `escape` writes a text
as a pattern for itself, and `around` makes a pattern for texts that hold it at a place.
-/
import RowSieve.Text.Pieces
import RowSieve.Text.Utf8

namespace RowSieve.Sql.Like

/-- The pattern that matches a text itself. -/
def escape : List Char → List Char
  | [] => []
  | c :: cs =>
    if c = '\\' ∨ c = '%' ∨ c = '_' then '\\' :: c :: escape cs else c :: escape cs

/-- Where a text has to stand in those that match. -/
inductive Anchor where
  | anywhere
  | start
  | finish
deriving DecidableEq

/-- The pattern for texts that hold `literal` at the anchor. -/
def around (anchor : Anchor) (literal : List Char) : List Char :=
  match anchor with
  | .anywhere => '%' :: escape literal ++ ['%']
  | .start => escape literal ++ ['%']
  | .finish => '%' :: escape literal

/-- The same, on texts. -/
def pattern (anchor : Anchor) (literal : String) : String :=
  String.ofList (around anchor literal.toList)

/-- A character as patterns see it: the two that stand for none look like the replacement
character. -/
def seen (c : Char) : Char :=
  if c.toNat = 0xFFFE ∨ c.toNat = 0xFFFF then Text.Utf8.replacement else c

/-- Whether two characters are the same but for the case of an ASCII letter. -/
def sameLetter (a b : Char) : Bool := Text.foldCase (seen a) == Text.foldCase (seen b)

/-- Whether some end of the text, the whole and the empty one included, passes the test. -/
def someEnd (p : List Char → Bool) : List Char → Bool
  | [] => p []
  | c :: cs => p (c :: cs) || someEnd p cs

/-- Whether a text matches a pattern; a backslash at the end of a pattern matches nothing. -/
def matchesPattern : (pattern : List Char) → (text : List Char) → Bool
  | [], text => text.isEmpty
  | '%' :: rest, text => someEnd (matchesPattern rest) text
  | '_' :: rest, text => match text with
    | [] => false
    | _ :: cs => matchesPattern rest cs
  | ['\\'], _ => false
  | '\\' :: p :: rest, text => match text with
    | [] => false
    | c :: cs => sameLetter p c && matchesPattern rest cs
  | p :: rest, text => match text with
    | [] => false
    | c :: cs => sameLetter p c && matchesPattern rest cs

end RowSieve.Sql.Like
