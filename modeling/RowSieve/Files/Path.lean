/-
Paths as they are written. A path below another is joined to it with one separator, unless it is
absolute and so stands for itself. Expansion anchors what a user wrote at the home directory or at
the current one.
-/
import RowSieve.Text.Pieces

namespace RowSieve.Files

/-- A path as it is written. -/
abbrev Path := List Char

namespace Path

def isAbsolute (p : Path) : Bool := p.head? == some '/'

/-- The path `rest` below `base`; an absolute `rest` stands for itself. -/
def join (base rest : Path) : Path :=
  if rest.isAbsolute then rest
  else if base.getLast?.all (· == '/') then base ++ rest
  else base ++ '/' :: rest

/-- The step that stays where it is. -/
def here : List Char := ['.']

/-- The step that goes up. -/
def up : List Char := ['.', '.']

/-- The steps of a path from the root or from where it starts; an empty one stays. -/
def steps (p : Path) : List (List Char) := Text.split '/' p

/-- The steps that go somewhere. -/
def names (p : Path) : List (List Char) := p.steps.filter fun s => !s.isEmpty && s != here

/-- The absolute path with the given steps. -/
def ofNames (names : List (List Char)) : Path := '/' :: Text.joinWith ['/'] names

/-- A path after its tilde has been replaced by the home directory. -/
def anchor (home : Path) : Path → Path
  | ['~'] => home
  | '~' :: '/' :: rest => home.join rest
  | '~' :: '\\' :: rest => home.join rest
  | p => p

/-- The absolute path that a user means. Blanks around it do not count, and nothing at all means
the current directory. -/
def expand (home current input : Path) : Path :=
  let p := Text.trim input
  if p.isEmpty then current else current.join (anchor home p)

/-! ## Laws of joining -/

theorem isAbsolute_join {base : Path} (h : base.isAbsolute) (rest : Path) :
    (base.join rest).isAbsolute := by
  unfold join
  split
  · assumption
  · cases base with
    | nil => simp [isAbsolute] at h
    | cons c cs => split <;> simpa [isAbsolute] using h

theorem join_of_isAbsolute {rest : Path} (h : rest.isAbsolute) (base : Path) :
    base.join rest = rest := by
  simp [join, h]

end Path

end RowSieve.Files
