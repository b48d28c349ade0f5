/-
Writing JSON: on one line without blanks, or indented by two spaces a level. Quotes, backslashes
and control characters are escaped, all else is written as it is.
-/
import RowSieve.Json.Value

namespace RowSieve.Json

/-! ## Text -/

def hexDigit (n : Nat) : Char :=
  if n < 10 then Char.ofNat ('0'.toNat + n) else Char.ofNat ('a'.toNat + (n - 10))

/-- A character inside quotes. -/
def escaped (c : Char) : List Char :=
  match c with
  | '"' => ['\\', '"']
  | '\\' => ['\\', '\\']
  | '\n' => ['\\', 'n']
  | '\r' => ['\\', 'r']
  | '\t' => ['\\', 't']
  | '\x08' => ['\\', 'b']
  | '\x0c' => ['\\', 'f']
  | c =>
    if c.toNat < 0x20 then
      ['\\', 'u', '0', '0', hexDigit (c.toNat / 16), hexDigit (c.toNat % 16)]
    else [c]

/-- A text in quotes. -/
def quoted (s : String) : List Char := '"' :: s.toList.flatMap escaped ++ ['"']

/-! ## One line -/

mutual

/-- The value on one line. -/
def compactChars : Json → List Char
  | null => ['n', 'u', 'l', 'l']
  | bool true => ['t', 'r', 'u', 'e']
  | bool false => ['f', 'a', 'l', 's', 'e']
  | number n => n.text.toList
  | text s => quoted s
  | list items => '[' :: compactItems items ++ [']']
  | object members => '\x7b' :: compactMembers members ++ ['\x7d']

def compactItems : List Json → List Char
  | [] => []
  | [v] => compactChars v
  | v :: w :: rest => compactChars v ++ ',' :: compactItems (w :: rest)

def compactMembers : List (String × Json) → List Char
  | [] => []
  | [(k, v)] => quoted k ++ ':' :: compactChars v
  | (k, v) :: w :: rest => quoted k ++ ':' :: compactChars v ++ ',' :: compactMembers (w :: rest)

end

def compact (v : Json) : String := String.ofList (compactChars v)

/-! ## Indented -/

/-- A new line at a level. -/
def newLine (level : Nat) : List Char := '\n' :: List.replicate (2 * level) ' '

mutual

/-- The value with its items and members on lines of their own, one level deeper. -/
def indentedChars (level : Nat) : Json → List Char
  | list [] => ['[', ']']
  | object [] => ['\x7b', '\x7d']
  | list (v :: rest) => '[' :: indentedItems (level + 1) (v :: rest) ++ newLine level ++ [']']
  | object (m :: rest) =>
    '\x7b' :: indentedMembers (level + 1) (m :: rest) ++ newLine level ++ ['\x7d']
  | null => ['n', 'u', 'l', 'l']
  | bool true => ['t', 'r', 'u', 'e']
  | bool false => ['f', 'a', 'l', 's', 'e']
  | number n => n.text.toList
  | text s => quoted s

def indentedItems (level : Nat) : List Json → List Char
  | [] => []
  | [v] => newLine level ++ indentedChars level v
  | v :: w :: rest =>
    newLine level ++ indentedChars level v ++ ',' :: indentedItems level (w :: rest)

def indentedMembers (level : Nat) : List (String × Json) → List Char
  | [] => []
  | [(k, v)] => newLine level ++ quoted k ++ ':' :: ' ' :: indentedChars level v
  | (k, v) :: w :: rest =>
    newLine level ++ quoted k ++ ':' :: ' ' :: indentedChars level v ++
      ',' :: indentedMembers level (w :: rest)

end

def indented (v : Json) : String := String.ofList (indentedChars 0 v)

end RowSieve.Json
