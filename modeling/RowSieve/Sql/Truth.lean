/-
Truth in statements: a condition on a missing value is neither true nor false.
-/
namespace RowSieve.Sql

/-- A truth value. -/
inductive Truth where
  | yes
  | no
  | unknown
deriving DecidableEq

namespace Truth

def ofBool (b : Bool) : Truth := if b then yes else no

def not : Truth → Truth
  | yes => no
  | no => yes
  | unknown => unknown

/-- The denial, if it is asked for. -/
def notIf (negated : Bool) (t : Truth) : Truth := if negated then t.not else t

/-- Both: one that is false decides, else one that is unknown. -/
def and : Truth → Truth → Truth
  | no, _ => no
  | _, no => no
  | unknown, _ => unknown
  | _, unknown => unknown
  | yes, yes => yes

/-- Either: one that is true decides, else one that is unknown. -/
def or : Truth → Truth → Truth
  | yes, _ => yes
  | _, yes => yes
  | unknown, _ => unknown
  | _, unknown => unknown
  | no, no => no

/-- Whether a row with this truth is selected. -/
def selects (t : Truth) : Bool := t == yes

end Truth

end RowSieve.Sql
