/-
The words of a statement. Names stand for themselves or in quotes, which a name holds twice where it
holds them; blanks and comments part words.
-/
import RowSieve.Number.Digits
import RowSieve.Text.Pieces

namespace RowSieve.Store

/-- A word of a statement. -/
inductive Token where
  /-- A name or a keyword. -/
  | name (word : List Char)
  | quoted (quote : Char) (word : List Char)
  | number (digits : List Char)
  /-- Bytes, as digits in quotes behind a letter. -/
  | bytes (letter : Char) (digits : List Char)
  /-- A place that is left open. -/
  | parameter (word : List Char)
  | symbol (c : Char)
  /-- An operator of more than one character. -/
  | operator (marks : List Char)
  /-- What cannot be a word: quotes that do not end, a number with letters behind it, or a
  character that no word begins with. -/
  | broken (word : List Char)
deriving DecidableEq

namespace Token

/-- The quote that ends what another one begins. -/
def closing? : Char → Option Char
  | '"' => some '"'
  | '\'' => some '\''
  | '\x60' => some '\x60'
  | '[' => some ']'
  | _ => none

/-- The word as it is written. -/
def written : Token → List Char
  | name word => word
  | quoted quote word =>
    let last := (closing? quote).getD quote
    let inner := word.flatMap fun c => if c = quote ∧ c = last then [c, c] else [c]
    quote :: inner ++ [last]
  | number digits => digits
  | bytes letter digits => letter :: '\'' :: digits ++ ['\'']
  | parameter word => word
  | symbol c => [c]
  | operator marks => marks
  | broken word => word

def isBlank (c : Char) : Bool := c == ' ' || c == '\t' || c == '\n' || c == '\x0c' || c == '\r'

/-- Whether a name can begin with the character. -/
def beginsName (c : Char) : Bool := c.isAlpha || c == '_' || 0x80 ≤ c.toNat

def continuesName (c : Char) : Bool := beginsName c || Number.isDigit c || c == '$'

/-- What stands in quotes that have been opened, and what follows them. -/
def inQuotes (quote : Char) : List Char → Option (List Char × List Char)
  | [] => none
  | c :: rest =>
    if c ≠ quote then (inQuotes quote rest).map fun (word, behind) => (c :: word, behind)
    else match rest with
      | d :: behind =>
        if d = quote ∧ quote ≠ ']' then
          (inQuotes quote behind).map fun (word, behind) => (c :: word, behind)
        else some ([], rest)
      | [] => some ([], [])

/-- What follows a comment that has been opened by a slash. -/
def behindComment : List Char → List Char
  | '*' :: '/' :: rest => rest
  | _ :: rest => behindComment rest
  | [] => []

/-- The characters that are words by themselves. -/
def symbols : List Char :=
  ['(', ')', ',', ';', '.', '+', '-', '*', '/', '%', '=', '<', '>', '|', '&', '~']

/-- The operators of more than one character; of two that a text begins with, the longer one comes
first. -/
def operators : List (List Char) :=
  ["->>", "->", "||", "<<", ">>", "<=", ">=", "<>", "!=", "=="].map String.toList

def isHexDigit (c : Char) : Bool :=
  Number.isDigit c || 'a' ≤ Text.foldCase c && Text.foldCase c ≤ 'f'

def hexDigit (c : Char) : Nat :=
  if Number.isDigit c then c.toNat - '0'.toNat else (Text.foldCase c).toNat - 'a'.toNat + 10

/-! ## Numbers -/

/-- The character that may stand between two digits. -/
def digitMark : Char := '_'

/-- The digits that a text begins with and the marks between them, and what follows them. -/
def digitsOf (isDigit : Char → Bool) (s : List Char) : List Char × List Char :=
  let continues (c : Char) : Bool := isDigit c || c == digitMark
  (s.takeWhile continues, s.dropWhile continues)

/-- The power of ten that a text begins with, behind its letter, and what follows it. -/
def powerOf (s : List Char) : List Char × List Char :=
  match s with
  | e :: rest =>
    if Text.foldCase e ≠ 'e' then ([], s)
    else match rest with
      | d :: behind =>
        if Number.isDigit d then
          let (power, last) := digitsOf Number.isDigit rest
          (e :: power, last)
        else if (d = '+' ∨ d = '-') ∧ behind.head?.any Number.isDigit then
          let (power, last) := digitsOf Number.isDigit behind
          (e :: d :: power, last)
        else ([], s)
      | [] => ([], s)
  | [] => ([], [])

/-- The number that a text begins with, and what follows it. -/
def numeral (s : List Char) : List Char × List Char :=
  match s with
  | '0' :: x :: d :: rest =>
    if Text.foldCase x = 'x' ∧ isHexDigit d then
      let (digits, last) := digitsOf isHexDigit (d :: rest)
      ('0' :: x :: digits, last)
    else decimal s
  | _ => decimal s
where
  decimal (s : List Char) : List Char × List Char :=
    let (whole, rest) := digitsOf Number.isDigit s
    let (fraction, rest) := match rest with
      | '.' :: rest => let (fraction, rest) := digitsOf Number.isDigit rest; ('.' :: fraction, rest)
      | rest => ([], rest)
    let (power, rest) := powerOf rest
    (whole ++ fraction ++ power, rest)

/-- Whether every mark stands between two digits. -/
def marksAreInside : List Char → Bool
  | a :: m :: rest =>
    if m == digitMark then isHexDigit a && rest.head?.any isHexDigit && marksAreInside rest
    else a != digitMark && marksAreInside (m :: rest)
  | [a] => a != digitMark
  | [] => true

/-! ## Reading words -/

/-- The open place that a text begins with, which may have something in brackets behind its name,
and what follows it. -/
def openPlace (c : Char) (rest : List Char) : Token × List Char :=
  let own := rest.takeWhile continuesName
  let behind := rest.dropWhile continuesName
  if own.isEmpty then (broken [c], behind)
  else match behind with
    | '(' :: inside =>
      let inBrackets := inside.takeWhile fun d => d ≠ ')' ∧ !isBlank d
      match inside.drop inBrackets.length with
      | ')' :: last => (parameter (c :: own ++ '(' :: inBrackets ++ [')']), last)
      | last => (broken (c :: own ++ '(' :: inBrackets), last)
    | behind => (parameter (c :: own), behind)

/-- The bytes whose digits come next, behind a letter and a quote, and what follows them. -/
def quotedBytes (c : Char) (s : List Char) : Token × List Char :=
  let digits := s.takeWhile isHexDigit
  let behind := s.dropWhile isHexDigit
  match behind, digits.length % 2 with
  | '\'' :: last, 0 => (bytes c digits, last)
  | _, _ =>
    let more := behind.takeWhile (· ≠ '\'')
    let last := behind.drop more.length
    (broken (c :: '\'' :: digits ++ more ++ last.take 1), last.drop 1)

/-- The word that a text begins with, and what follows it. -/
def next (c : Char) (rest : List Char) : Token × List Char :=
  if Text.foldCase c == 'x' && rest.head? == some '\'' then quotedBytes c (rest.drop 1)
  else if beginsName c then (name (c :: rest.takeWhile continuesName), rest.dropWhile continuesName)
  else if Number.isDigit c || c == '.' && rest.head?.any Number.isDigit then
    let (digits, behind) := numeral (c :: rest)
    match behind.takeWhile continuesName with
    | [] => (if marksAreInside digits then number digits else broken digits, behind)
    | more => (broken (digits ++ more), behind.dropWhile continuesName)
  else match closing? c with
    | some quote => match inQuotes quote rest with
      | some (word, behind) => (quoted c word, behind)
      | none => (broken (c :: rest), [])
    | none =>
      if c == '?' then
        (parameter (c :: rest.takeWhile Number.isDigit), rest.dropWhile Number.isDigit)
      else if ['@', '#', ':', '$'].contains c then openPlace c rest
      else match operators.find? (·.isPrefixOf (c :: rest)) with
        | some marks => (operator marks, rest.drop (marks.length - 1))
        | none => (if symbols.contains c then symbol c else broken [c], rest)

/-- The words of a text, at most `count` of them with the blanks and comments. -/
def read : (count : Nat) → List Char → List Token
  | 0, _ => []
  | _, [] => []
  | count + 1, c :: rest =>
    if isBlank c then read count rest
    else match c, rest with
      | '-', '-' :: comment => read count (comment.dropWhile (· ≠ '\n'))
      | '/', '*' :: c :: comment => read count (behindComment (c :: comment))
      | c, rest =>
        let (t, behind) := next c rest
        t :: read count behind

/-- The words of a text. -/
def ofText (s : List Char) : List Token := read s.length s

/-! ## Keywords -/

/-- Whether two names are the same; the case of ASCII letters does not count. -/
def sameName (a b : List Char) : Bool := a.map Text.foldCase == b.map Text.foldCase

def isKeyword (keyword : String) : Token → Bool
  | name word => sameName word keyword.toList
  | _ => false

/-- The keywords that cannot be names unless they stand in quotes. -/
def reserved : List String :=
  ["add", "all", "alter", "and", "as", "autoincrement", "between", "case", "check", "collate",
   "commit", "constraint", "create", "default", "deferrable", "delete", "distinct", "drop", "else",
   "escape", "except", "exists", "foreign", "from", "group", "having", "in", "index", "insert",
   "intersect", "into", "is", "isnull", "join", "limit", "not", "nothing", "notnull", "null", "on",
   "or", "order", "primary", "references", "returning", "select", "set", "table", "then", "to",
   "transaction", "union", "unique", "update", "using", "values", "when", "where"]

/-- The names that cannot be part of a type. -/
def joinWords : List String :=
  ["cross", "full", "indexed", "inner", "left", "natural", "outer", "right"]

def isReserved (word : List Char) : Bool := reserved.any (sameName word ·.toList)

/-- The name that a word gives. -/
def name? : Token → Option (List Char)
  | name word => if isReserved word then none else some word
  | quoted _ word => some word
  | _ => none

/-- The word of a type that a word gives. -/
def typeWord? (t : Token) : Option (List Char) :=
  if joinWords.any t.isKeyword then none else t.name?

end Token

end RowSieve.Store
