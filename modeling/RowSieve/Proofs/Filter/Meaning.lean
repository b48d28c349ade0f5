/-
What a predicate says of a row, read directly over the rows of the tables. A relation leads to the
rows of its target whose foreign key equals the local key; `having` asks that some of them satisfies
the body and `lacking` that none does. Through a chain of relations `reach` asks for a row among
those reached hop by hop, and `reachNone` denies it.
-/
import RowSieve.Proofs.Sql.Truth
import RowSieve.Sql.Eval

namespace RowSieve.Sql

/-! ## Rows reached -/

/-- The rows of a join's target that belong to a row; a null key belongs to none. -/
def Join.belonging (join : Join) (tables : Tables) (row : Row) : List Row :=
  (tables join.target).filter fun r => ((r join.foreignKey).equal (row join.localKey)).selects

/-- The rows reached from a row of `table` through a chain of relations, hop by hop. -/
def Joins.reached (js : Joins) (tables : Tables) : (table : String) → Row → List String → List Row
  | _, row, [] => [row]
  | table, row, name :: rest =>
    match js.find? table name with
    | some join => (join.belonging tables row).flatMap fun r => js.reached tables join.target r rest
    | none => []

/-- A chain can be walked when its first relation joins and the rest can be walked from there. -/
theorem Joins.walk_cons_eq_ok {js : Joins} {table target name : String} {rest : List String} :
    js.walk table (name :: rest) = .ok target ↔
      ∃ join, js.find? table name = some join ∧ js.walk join.target rest = .ok target := by
  rw [Joins.walk]
  cases js.find? table name with
  | none => simp
  | some join => simp

theorem Join.mem_belonging {join : Join} {tables : Tables} {row r : Row} :
    r ∈ join.belonging tables row ↔
      r ∈ tables join.target ∧ (r join.foreignKey).equal (row join.localKey) = .yes := by
  unfold Join.belonging; simp

end RowSieve.Sql

namespace RowSieve.Filter

open RowSieve.Sql

/-- The value of a column in a row, or the calendar day of it. -/
def Column.value (c : Column) (row : Row) : Cell :=
  if c.day then (row c.name).day row.now else row c.name

namespace Predicate

/-- That no related row satisfies the body if it is negated, and otherwise that some row does. -/
def related (negated : Bool) (relation : String) (body : Predicate) : Predicate :=
  if negated then lacking relation body else having relation body

/-! ## Meaning -/

mutual

/-- The truth of a predicate for a row of `table`. -/
def eval (js : Joins) (tables : Tables) (table : String) (row : Row) : Predicate → Truth
  | compare c op value => compareCells op (c.value row) (.ofDatum value)
  | among c values negated => (amongCells (c.value row) (values.map .ofDatum)).notIf negated
  | like c pattern negated => (likeCell (c.value row) pattern).notIf negated
  | isNull c false sentinel? => nullCell (c.value row) (sentinel?.map .ofDatum)
  | isNull c true sentinel? => presentCell (c.value row) (sentinel?.map .ofDatum)
  | all items => evalAll js tables table row items
  | any items => evalAny js tables table row items
  | having relation body =>
    match js.find? table relation with
    | some join => .ofBool ((join.belonging tables row).any fun r =>
        (body.eval js tables join.target r).selects)
    | none => .unknown
  | lacking relation body =>
    match js.find? table relation with
    | some join => .ofBool (!(join.belonging tables row).any fun r =>
        (body.eval js tables join.target r).selects)
    | none => .unknown

/-- The truth of all predicates together. -/
def evalAll (js : Joins) (tables : Tables) (table : String) (row : Row) : List Predicate → Truth
  | [] => .yes
  | p :: rest => (p.eval js tables table row).and (evalAll js tables table row rest)

/-- The truth of some predicate. -/
def evalAny (js : Joins) (tables : Tables) (table : String) (row : Row) : List Predicate → Truth
  | [] => .no
  | p :: rest => (p.eval js tables table row).or (evalAny js tables table row rest)

end

section Laws

variable {js : Joins} {tables : Tables} {table : String} {row : Row}

theorem evalAll_eq_yes_iff {ps : List Predicate} :
    evalAll js tables table row ps = .yes ↔ ∀ p ∈ ps, p.eval js tables table row = .yes := by
  induction ps with
  | nil => simp [evalAll]
  | cons p ps ih => rw [evalAll, Truth.and_eq_yes_iff, ih, List.forall_mem_cons]

theorem evalAny_eq_yes_iff {ps : List Predicate} :
    evalAny js tables table row ps = .yes ↔ ∃ p ∈ ps, p.eval js tables table row = .yes := by
  induction ps with
  | nil => simp [evalAny]
  | cons p ps ih => rw [evalAny, Truth.or_eq_yes_iff, ih]; simp

/-- A single predicate stands for itself, which does not change what is said. -/
theorem eval_conj (ps : List Predicate) :
    (conj ps).eval js tables table row = evalAll js tables table row ps := by
  unfold conj
  split
  · rw [evalAll, evalAll, Truth.and_yes]
  · rw [eval]

theorem eval_disj (ps : List Predicate) :
    (disj ps).eval js tables table row = evalAny js tables table row ps := by
  unfold disj
  split
  · rw [evalAny, evalAny, Truth.or_no]
  · rw [eval]

theorem eval_related {negated : Bool} {relation : String} {body : Predicate} :
    (related negated relation body).eval js tables table row =
      match js.find? table relation with
      | some join => (Truth.ofBool ((join.belonging tables row).any fun r =>
          (body.eval js tables join.target r).selects)).notIf negated
      | none => .unknown := by
  cases negated
  · simp only [related, Bool.false_eq_true, if_false, eval, Truth.notIf]
  · simp only [related, if_true, eval, Truth.notIf, Truth.not_ofBool]

/-! ## Chains of relations -/

/-- A row is selected through a chain when some row reached through it is. -/
theorem selects_eval_reach {leaf : Predicate} {target : String} :
    ∀ {rels : List String} {table : String} {row : Row}, js.walk table rels = .ok target →
      ((reach rels leaf).eval js tables table row).selects =
        (js.reached tables table row rels).any fun r => (leaf.eval js tables target r).selects
  | [], table, row, h => by
    cases h
    simp [reach, Joins.reached]
  | name :: rest, table, row, h => by
    obtain ⟨join, hj, hw⟩ := Joins.walk_cons_eq_ok.1 h
    simp only [reach, eval, hj, Truth.selects_ofBool, Joins.reached, List.any_flatMap]
    congr 1
    funext r
    exact selects_eval_reach hw

/-- What a non-empty chain asks for is never unknown: some row reached satisfies the leaf. -/
theorem eval_reach {leaf : Predicate} {target : String} {rels : List String} (hne : rels ≠ [])
    (h : js.walk table rels = .ok target) :
    (reach rels leaf).eval js tables table row = .ofBool
      ((js.reached tables table row rels).any fun r => (leaf.eval js tables target r).selects) := by
  rw [← selects_eval_reach h]
  cases rels with
  | nil => exact absurd rfl hne
  | cons name rest =>
    obtain ⟨join, hj, -⟩ := Joins.walk_cons_eq_ok.1 h
    simp only [reach, eval, hj, Truth.selects_ofBool]

/-- Only the first hop is denied, which denies that any row reached satisfies the leaf. -/
theorem eval_reachNone {leaf : Predicate} {target : String} {rels : List String} (hne : rels ≠ [])
    (h : js.walk table rels = .ok target) :
    (reachNone rels leaf).eval js tables table row = .ofBool
      (!(js.reached tables table row rels).any fun r =>
        (leaf.eval js tables target r).selects) := by
  cases rels with
  | nil => exact absurd rfl hne
  | cons name rest =>
    have hr : (reach (name :: rest) leaf).eval js tables table row = _ := eval_reach hne h
    obtain ⟨join, hj, -⟩ := Joins.walk_cons_eq_ok.1 h
    simp only [reach, eval, hj] at hr
    simp only [reachNone, eval, hj]
    rw [← Truth.not_ofBool, ← Truth.not_ofBool, hr]

end Laws

end Predicate

end RowSieve.Filter
