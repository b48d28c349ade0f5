/-
The predicate that a request asks for. On a column of the row itself it is a test of that column.
Across relations the test is made in the rows reached: a positive operator asks that some row
passes it, a negative one that no row passes its positive form, and `equals` with a list asks that
each value is found in some row.
-/
import RowSieve.Filter.Operand
import RowSieve.Filter.Predicate
import RowSieve.Sql.Like

namespace RowSieve.Filter

open RowSieve.Sql

namespace Field

/-! ## The test of a column -/

/-- The column as it is compared: of a date field, the day it holds. -/
def comparedColumn (f : Field) : Column := ⟨f.path.column, f.kind == .date⟩

/-- The column as it is tested for null. -/
def plainColumn (f : Field) : Column := ⟨f.path.column, false⟩

/-- The stored value that stands for null. -/
def sentinel? (f : Field) : Option Datum :=
  match f.kind with
  | .datetime => some (.text Calendar.noInstant)
  | _ => none

def comparison (f : Field) (op : Comparison) (d : Datum) : Predicate :=
  .compare f.comparedColumn op d

/-- All comparisons of the column with the values of an operand. -/
def comparisons (f : Field) (op : Comparison) (value : Operand) : Predicate :=
  .conj (value.values.map (f.comparison op))

def likeness (f : Field) (anchor : Like.Anchor) (negated : Bool) (d : Datum) : Predicate :=
  .like f.comparedColumn (Like.pattern anchor d.plain) negated

/-- Some value of the operand stands in the column at the anchor. -/
def likenesses (f : Field) (anchor : Like.Anchor) (value : Operand) : Predicate :=
  .disj (value.values.map (f.likeness anchor false))

/-- The test of the column itself, relations left aside. -/
def test (f : Field) (op : Operator) (value : Operand) : Predicate :=
  match op, value with
  | .equals, .many ds => .among f.comparedColumn ds false
  | .equals, value => f.comparisons .eq value
  | .notEquals, .many ds => .among f.comparedColumn ds true
  | .notEquals, value => f.comparisons .ne value
  | .among, value => .among f.comparedColumn value.values false
  | .notAmong, value => .among f.comparedColumn value.values true
  | .contains, value => f.likenesses .anywhere value
  | .startsWith, value => f.likenesses .start value
  | .endsWith, value => f.likenesses .finish value
  | .notContains, value => .conj (value.values.map (f.likeness .anywhere true))
  | .below, value => f.comparisons .lt value
  | .atMost, value => f.comparisons .le value
  | .above, value => f.comparisons .gt value
  | .atLeast, value => f.comparisons .ge value
  | .isNull, _ => .isNull f.plainColumn false f.sentinel?
  | .isNotNull, _ => .isNull f.plainColumn true f.sentinel?

/-! ## The predicate of a request -/

/-- The operator of a token, if the field allows it and its kind supports it. -/
def operator (f : Field) (token : String) : Except Error Operator :=
  match (Operator.ofToken? token).filter fun op => f.allows op && f.kind.supports op with
  | some op => .ok op
  | none => .error (.unsupportedOperator f.key token f.operatorTokens)

/-- The test of the column, placed in the rows that the field's relations reach. -/
def placed (f : Field) (op : Operator) (value : Operand) : Predicate :=
  match f.path.relations with
  | [] => f.test op value
  | relations => match op.polarity, op, value with
    | .negative, op, value => .reachNone relations (f.test op.positive value)
    | .positive, .equals, .many ds =>
      .conj (ds.map fun d => .reach relations (f.comparison .eq d))
    | .positive, op, value => .reach relations (f.test op value)

/-- The predicate that a request asks for of the field. -/
def predicate (f : Field) (r : Request) : Except Error Predicate := do
  let op ← f.operator r.operator
  let value ← f.operand op r.value?
  return f.placed op value

end Field

end RowSieve.Filter
