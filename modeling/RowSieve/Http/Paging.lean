/-
Pages of a listing: their bounds, and how many pages a number of items takes.
-/
namespace RowSieve.Http

/-- The last page that can be asked for. -/
def maxPage : Nat := 100

/-- The greatest number of items on a page. -/
def maxLimit : Nat := 500

/-- A page that is asked for. -/
structure Page where
  number : Nat
  limit : Nat
deriving DecidableEq

def Page.first : Page := ⟨1, 50⟩

/-- Why a page cannot be asked for. -/
inductive PageError where
  | tooSmall
  | tooLarge
  | limitRange
deriving DecidableEq

namespace PageError

def code : PageError → String
  | tooSmall => "page_min"
  | tooLarge => "page_max"
  | limitRange => "limit_range"

def message : PageError → String
  | tooSmall => "Page must be >= 1"
  | tooLarge => s!"Page must be <= {maxPage} to prevent expensive queries"
  | limitRange => s!"Limit must be between 1 and {maxLimit}"

end PageError

namespace Page

def numberError? (p : Page) : Option PageError :=
  if p.number < 1 then some .tooSmall
  else if maxPage < p.number then some .tooLarge
  else none

def limitError? (p : Page) : Option PageError :=
  if p.limit = 0 ∨ maxLimit < p.limit then some .limitRange else none

/-- All that is wrong with the page. -/
def errors (p : Page) : List PageError := p.numberError?.toList ++ p.limitError?.toList

/-- The number of items before the page. -/
def offset (p : Page) : Nat := (p.number - 1) * p.limit

/-- The number of pages that so many items take. -/
def count (p : Page) (items : Nat) : Nat :=
  let limit := max p.limit 1
  (items + limit - 1) / limit

end Page

end RowSieve.Http
