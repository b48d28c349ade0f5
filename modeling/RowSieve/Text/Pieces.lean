/-
Cutting text at single characters and at fixed openings: `split c s` gives the pieces between the
separators, and `cut? c s` parts `s` at its first `c`. Trimming removes blank characters, those
with the `White_Space` property, from both ends.
-/
namespace RowSieve.Text

/-- The pieces of a text between the separators, with at least one piece. -/
def split (c : Char) : List Char → List (List Char)
  | [] => [[]]
  | x :: xs =>
    if x = c then [] :: split c xs
    else match split c xs with
      | [] => [[x]]
      | piece :: rest => (x :: piece) :: rest

theorem split_ne_nil (c : Char) (s : List Char) : split c s ≠ [] := by
  cases s with
  | nil => simp [split]
  | cons x xs => unfold split; split <;> (try split) <;> simp

/-- The pieces with the separator put back between them. -/
def joinWith (sep : List Char) : List (List Char) → List Char
  | [] => []
  | [piece] => piece
  | piece :: rest => piece ++ sep ++ joinWith sep rest

/-- What stands before and after the first `c`; `none` when there is no `c`. -/
def cut? (c : Char) : List Char → Option (List Char × List Char)
  | [] => none
  | x :: xs => if x = c then some ([], xs) else (cut? c xs).map fun (a, b) => (x :: a, b)

/-- What follows `start`, if the text begins with it. -/
def after? : (start : List Char) → List Char → Option (List Char)
  | [], s => some s
  | _ :: _, [] => none
  | p :: ps, x :: xs => if p = x then after? ps xs else none

/-- Whether `part` stands somewhere in the text. -/
def contains (part : List Char) : List Char → Bool
  | [] => part.isEmpty
  | x :: xs => part.isPrefixOf (x :: xs) || contains part xs

/-- The code-point order, which is also the order of the UTF-8 bytes. -/
def lt : List Char → List Char → Bool
  | _, [] => false
  | [], _ :: _ => true
  | a :: as, b :: bs => a.val < b.val || (a == b && lt as bs)

/-- The lower-case form of an ASCII letter; every other character stays. -/
def foldCase (c : Char) : Char := c.toLower

/-! ## Blanks -/

/-- The characters with the `White_Space` property. -/
def isBlank (c : Char) : Bool :=
  let n := c.toNat
  (9 ≤ n && n ≤ 13) || n == 0x20 || n == 0x85 || n == 0xA0 || n == 0x1680 ||
    (0x2000 ≤ n && n ≤ 0x200A) || n == 0x2028 || n == 0x2029 || n == 0x202F || n == 0x205F ||
    n == 0x3000

/-- The text without its leading blanks. -/
def trimStart (s : List Char) : List Char := s.dropWhile isBlank

/-- The text without its trailing blanks. -/
def trimEnd (s : List Char) : List Char := (s.reverse.dropWhile isBlank).reverse

/-- The text without leading and trailing blanks. -/
def trim (s : List Char) : List Char := trimEnd (trimStart s)

end RowSieve.Text
