/-
How alike two words are, for suggestions. Two letters agree when they are equal and stand less
than half the longer word apart; each letter agrees with one other at most. The likeness of two
words is the mean of three shares: of the letters in either word that agree, and of the agreeing
letters that stand in the same order. It is reckoned in floating point, and rounding decides
where it comes close to the threshold.
-/
import RowSieve.Number.Binary64

namespace RowSieve.CommandLine.Likeness

/-- The share that `part` is of `whole`. -/
def share (part whole : Nat) : Binary64 := .div (.ofInt part) (.ofInt whole)

/-- Marks the first free letter `a` among the positions from `lo` up to `hi`, counted from the
head of the list; `none` when there is no such letter. -/
def claim? (a : Char) (lo hi : Nat) : List (Char × Bool) → Option (List (Char × Bool))
  | [] => none
  | (b, claimed) :: rest =>
    if hi = 0 then none
    else if lo = 0 ∧ a = b ∧ !claimed then some ((b, true) :: rest)
    else (claim? a (lo - 1) (hi - 1) rest).map ((b, claimed) :: ·)

/-- The letters of the first word that agree, in order, and the marks they leave on the second.
`i` is the position of the next letter, and agreeing letters are at most `reach` apart. -/
def agree (reach : Nat) : (i : Nat) → List Char → List (Char × Bool) →
    List Char × List (Char × Bool)
  | _, [], marks => ([], marks)
  | i, a :: rest, marks =>
    match claim? a (i - reach) (i + reach + 1) marks with
    | some marks' =>
      let (found, last) := agree reach (i + 1) rest marks'
      (a :: found, last)
    | none => agree reach (i + 1) rest marks

/-- The likeness of two words, from zero to one. -/
def ofWords (a b : List Char) : Binary64 :=
  if a.isEmpty && b.isEmpty then .ofInt 1
  else
    let (found, marks) := agree (max a.length b.length / 2 - 1) 0 a (b.map (·, false))
    let m := found.length
    if m = 0 then .zero
    else
      let others := (marks.filter (·.2)).map (·.1)
      let swaps := ((found.zip others).filter fun (x, y) => x != y).length / 2
      let letters := Binary64.add (share m a.length) (share m b.length)
      .div (.add letters (share (m - swaps) m)) (.ofInt 3)

def less (x y : Binary64) : Bool := x.compareTo y == .lt

/-- The likeness above which a word is suggested. -/
def threshold : Binary64 := .ofRatio false 7 10

/-- Puts a word in front of those that are more like what was written. -/
def place (scored : Binary64 × String) : List (Binary64 × String) → List (Binary64 × String)
  | [] => [scored]
  | s :: rest =>
    if less scored.1 s.1 then scored :: s :: rest else s :: place scored rest

/-- The words that are much like what was written, the most alike last. -/
def similar (written : String) (words : List String) : List String :=
  let scored := words.map fun w => (ofWords written.toList w.toList, w)
  ((scored.filter fun s => less threshold s.1).foldl (fun acc s => place s acc) []).map (·.2)

end RowSieve.CommandLine.Likeness
