/-
What a filter across relations asks of the rows that are reached. A positive operator asks that
some row passes it for one of the values, `equals` with a list that each value is found in some
row, and a negative operator that no row passes its positive form. The answer is always known, and
where no row is reached it is that of a denial.
-/
import RowSieve.Proofs.Filter.Compiled
import RowSieve.Proofs.Sql.Clause

namespace RowSieve.Filter

open RowSieve.Sql

/-! ## Demands on rows -/

namespace Field

/-- Whether a row passes the positive form of an operator for one value. -/
def PassesFor (f : Field) (op : Operator) (row : Row) (d : Datum) : Prop :=
  let cell := f.comparedColumn.value row
  match op.positive with
  | .contains => likeCell cell (Like.pattern .anywhere d.plain) = .yes
  | .startsWith => likeCell cell (Like.pattern .start d.plain) = .yes
  | .endsWith => likeCell cell (Like.pattern .finish d.plain) = .yes
  | .below => compareCells .lt cell (.ofDatum d) = .yes
  | .atMost => compareCells .le cell (.ofDatum d) = .yes
  | .above => compareCells .gt cell (.ofDatum d) = .yes
  | .atLeast => compareCells .ge cell (.ofDatum d) = .yes
  | _ => compareCells .eq cell (.ofDatum d) = .yes

/-- Whether a row passes the positive form of an operator: for one of the values, or by a value of
its own where the operator takes none. -/
def Passes (f : Field) (op : Operator) (value : Operand) (row : Row) : Prop :=
  match op.family with
  | .nullability => f.plainColumn.value row ≠ .null ∧
      (f.kind = .datetime → f.plainColumn.value row ≠ .text Calendar.noInstant)
  | _ => ∃ d ∈ value.values, f.PassesFor op row d

/-- What a field's operator asks of the rows reached. -/
def Demands (f : Field) (op : Operator) (value : Operand) (rows : List Row) : Prop :=
  match op, value with
  | .equals, .many ds => ∀ d ∈ ds, ∃ r ∈ rows, f.PassesFor .equals r d
  | op, value => match op.polarity with
    | .positive => ∃ r ∈ rows, f.Passes op value r
    | .negative => ¬∃ r ∈ rows, f.Passes op value r

/-! ## Tests of single rows -/

/-- Instants are compared as they are stored, at whatever moment they are read. -/
theorem value_of_datetime {f : Field} (hk : f.kind = .datetime) (row : Row) :
    f.comparedColumn.value row = row f.path.column := by
  simp [comparedColumn, Column.value, hk]

theorem amongCells_eq_yes_iff {a : Cell} : ∀ {ds : List Datum},
    amongCells a (ds.map .ofDatum) = .yes ↔ ∃ d ∈ ds, compareCells .eq a (.ofDatum d) = .yes
  | [] => by simp [amongCells]
  | d :: ds => by
    rw [List.map_cons, amongCells, Truth.or_eq_yes_iff, amongCells_eq_yes_iff]
    simp only [List.mem_cons, exists_eq_or_imp]
    rfl

theorem compareCells_ne_text {s t : String} (h : s ≠ t) :
    compareCells .ne (.text s) (.text t) = .yes := by
  show Truth.ofBool (Comparison.ne.holds (Cell.compareTexts s t)) = .yes
  unfold Cell.compareTexts
  rw [if_neg h]
  split <;> rfl

/-- A value is present exactly when it is neither null nor the one that stands for null. -/
theorem presentCell_eq_yes_iff {f : Field} {a : Cell} :
    presentCell a (f.sentinel?.map .ofDatum) = .yes ↔
      a ≠ .null ∧ (f.kind = .datetime → a ≠ .text Calendar.noInstant) := by
  unfold Field.sentinel?
  cases hk : f.kind
  case datetime =>
    cases a with
    | text s =>
      by_cases h : s = Calendar.noInstant
      · simp [presentCell, compareCells, Cell.compare?, Cell.ofDatum, Cell.compareTexts, h,
          Comparison.holds, Truth.ofBool, Cell.isNull, Truth.and]
      · simp [presentCell, compareCells_ne_text h, Cell.ofDatum, Cell.isNull, Truth.ofBool, h,
          Truth.and]
    | _ => simp [presentCell, compareCells, Cell.compare?, Cell.ofDatum, Cell.isNull,
        Comparison.holds, Truth.ofBool, Truth.and]
  all_goals
    cases a <;> simp [presentCell, Cell.isNull, Truth.ofBool]

section Tests

variable {js : Joins} {tables : Tables} {table : String} {row : Row} (f : Field)

theorem eval_comparison (op : Comparison) (d : Datum) :
    (f.comparison op d).eval js tables table row =
      compareCells op (f.comparedColumn.value row) (.ofDatum d) := by
  rw [comparison, Predicate.eval]

theorem eval_comparisons_one (op : Comparison) (d : Datum) :
    (f.comparisons op (.one d)).eval js tables table row =
      compareCells op (f.comparedColumn.value row) (.ofDatum d) := eval_comparison f op d

theorem eval_likeness (anchor : Like.Anchor) (d : Datum) :
    (f.likeness anchor false d).eval js tables table row =
      likeCell (f.comparedColumn.value row) (Like.pattern anchor d.plain) := by
  rw [likeness, Predicate.eval]
  rfl

theorem eval_likenesses (anchor : Like.Anchor) (value : Operand) :
    (f.likenesses anchor value).eval js tables table row = .yes ↔
      ∃ d ∈ value.values,
        likeCell (f.comparedColumn.value row) (Like.pattern anchor d.plain) = .yes := by
  rw [likenesses, Predicate.eval_disj, Predicate.evalAny_eq_yes_iff]
  constructor
  · rintro ⟨p, hp, ht⟩
    obtain ⟨d, hd, rfl⟩ := List.mem_map.1 hp
    exact ⟨d, hd, by rwa [eval_likeness] at ht⟩
  · rintro ⟨d, hd, ht⟩
    exact ⟨_, List.mem_map_of_mem hd, by rwa [eval_likeness]⟩

theorem eval_among (ds : List Datum) :
    (Predicate.among f.comparedColumn ds false).eval js tables table row = .yes ↔
      ∃ d ∈ ds, compareCells .eq (f.comparedColumn.value row) (.ofDatum d) = .yes := by
  rw [Predicate.eval, ← amongCells_eq_yes_iff]
  rfl

theorem eval_isNotNull :
    (Predicate.isNull f.plainColumn true f.sentinel?).eval js tables table row = .yes ↔
      f.plainColumn.value row ≠ .null ∧
        (f.kind = .datetime → f.plainColumn.value row ≠ .text Calendar.noInstant) := by
  rw [Predicate.eval, presentCell_eq_yes_iff]

/-- The test of the positive form of an operator is true of the rows that pass it. -/
theorem eval_test_positive {op : Operator} {value : Operand} (hv : value.Suits op.arity) :
    (f.test op.positive value).eval js tables table row = .yes ↔ f.Passes op value row := by
  cases value with
  | none =>
    cases op <;> first | exact hv.elim | exact eval_isNotNull f
  | one d =>
    cases op
    case contains | notContains => exact eval_likenesses f .anywhere (.one d)
    case startsWith => exact eval_likenesses f .start (.one d)
    case endsWith => exact eval_likenesses f .finish (.one d)
    case equals | notEquals =>
      simp [Operator.positive, test, eval_comparisons_one, Passes, Operator.family, Operand.values,
        PassesFor]
    case below | atMost | above | atLeast =>
      simp [Operator.positive, test, eval_comparisons_one, Passes, Operator.family, Operand.values,
        PassesFor]
    all_goals exact hv.elim
  | many ds =>
    cases op
    case contains | notContains => exact eval_likenesses f .anywhere (.many ds)
    case startsWith => exact eval_likenesses f .start (.many ds)
    case endsWith => exact eval_likenesses f .finish (.many ds)
    case equals | notEquals | among | notAmong => exact eval_among f ds
    all_goals exact hv.elim

end Tests

/-! ## Across relations -/

section Placed

variable {js : Joins} {tables : Tables} {table target : String} {row : Row} {f : Field}
  {op : Operator} {value : Operand}

theorem reach_yes_iff {leaf : Predicate} {rels : List String} (hne : rels ≠ [])
    (hw : js.walk table rels = .ok target) :
    (Predicate.reach rels leaf).eval js tables table row = .yes ↔
      ∃ r ∈ js.reached tables table row rels, leaf.eval js tables target r = .yes := by
  rw [Predicate.eval_reach hne hw, Truth.ofBool_eq_yes_iff, List.any_eq_true]
  simp only [Truth.selects_eq_true_iff]

theorem reachNone_yes_iff {leaf : Predicate} {rels : List String} (hne : rels ≠ [])
    (hw : js.walk table rels = .ok target) :
    (Predicate.reachNone rels leaf).eval js tables table row = .yes ↔
      ¬∃ r ∈ js.reached tables table row rels, leaf.eval js tables target r = .yes := by
  rw [Predicate.eval_reachNone hne hw, Truth.ofBool_eq_yes_iff, Bool.not_eq_true', ←
    Bool.not_eq_true, List.any_eq_true]
  simp only [Truth.selects_eq_true_iff]

theorem evalAll_ne_unknown {ps : List Predicate}
    (h : ∀ p ∈ ps, p.eval js tables table row ≠ .unknown) :
    Predicate.evalAll js tables table row ps ≠ .unknown := by
  induction ps with
  | nil => simp [Predicate.evalAll]
  | cons p ps ih =>
    rw [Predicate.evalAll]
    have hp := h p (.head _)
    have hps := ih fun q hq => h q (.tail _ hq)
    revert hp hps
    cases p.eval js tables table row <;> cases Predicate.evalAll js tables table row ps <;>
      simp [Truth.and]

theorem placed_cases (f : Field) (op : Operator) (value : Operand)
    (hne : f.path.relations ≠ []) :
    (op.polarity = .negative ∧
      f.placed op value = .reachNone f.path.relations (f.test op.positive value) ∧
      ∀ rows, f.Demands op value rows ↔ ¬∃ r ∈ rows, f.Passes op value r) ∨
    (∃ ds, op = .equals ∧ value = .many ds ∧
      f.placed op value = .conj (ds.map fun d => .reach f.path.relations (f.comparison .eq d))) ∨
    (op.polarity = .positive ∧
      f.placed op value = .reach f.path.relations (f.test op.positive value) ∧
      ∀ rows, f.Demands op value rows ↔ ∃ r ∈ rows, f.Passes op value r) := by
  obtain ⟨name, rest, hrel⟩ := List.exists_cons_of_ne_nil hne
  unfold placed
  rw [hrel]
  cases op
  case equals =>
    cases value with
    | many ds => exact .inr (.inl ⟨ds, rfl, rfl, rfl⟩)
    | _ => exact .inr (.inr ⟨rfl, rfl, fun _ => .rfl⟩)
  case notEquals | notAmong | notContains | isNull => exact .inl ⟨rfl, rfl, fun _ => .rfl⟩
  all_goals exact .inr (.inr ⟨rfl, rfl, fun _ => .rfl⟩)

/-- Across relations a test is never unknown, and true when the rows reached meet its demands. -/
theorem eval_placed (hne : f.path.relations ≠ [])
    (hw : js.walk table f.path.relations = .ok target) (hv : value.Suits op.arity) :
    (f.placed op value).eval js tables table row ≠ .unknown ∧
      ((f.placed op value).eval js tables table row = .yes ↔
        f.Demands op value (js.reached tables table row f.path.relations)) := by
  have hleaf {r : Row} : (f.test op.positive value).eval js tables target r = .yes ↔
      f.Passes op value r := eval_test_positive f hv
  rcases f.placed_cases op value hne with ⟨-, hp, hd⟩ | ⟨ds, rfl, rfl, hp⟩ | ⟨-, hp, hd⟩
  · refine ⟨by rw [hp, Predicate.eval_reachNone hne hw]; exact Truth.ofBool_ne_unknown _, ?_⟩
    rw [hp, hd, reachNone_yes_iff hne hw]
    simp only [hleaf]
  · rw [hp, Predicate.eval_conj]
    constructor
    · refine evalAll_ne_unknown fun p hp => ?_
      obtain ⟨d, -, rfl⟩ := List.mem_map.1 hp
      rw [Predicate.eval_reach hne hw]
      exact Truth.ofBool_ne_unknown _
    · rw [Predicate.evalAll_eq_yes_iff]
      simp only [List.forall_mem_map, reach_yes_iff hne hw, eval_comparison]
      exact Iff.rfl
  · refine ⟨by rw [hp, Predicate.eval_reach hne hw]; exact Truth.ofBool_ne_unknown _, ?_⟩
    rw [hp, hd, reach_yes_iff hne hw]
    simp only [hleaf]

theorem demands_nil (hv : value.Suits op.arity) :
    f.Demands op value [] ↔ op.polarity = .negative := by
  cases op
  case equals =>
    cases value with
    | none => exact hv.elim
    | one d => simp [Demands, Operator.polarity]
    | many ds =>
      obtain ⟨d, ds, rfl⟩ := List.exists_cons_of_ne_nil hv
      constructor
      · intro h
        obtain ⟨r, hr, -⟩ := h d List.mem_cons_self
        cases hr
      · intro h; cases h
  all_goals simp [Demands, Operator.polarity]

end Placed

/-- What a filter across relations asks of a row. When the relations of its field join, a request
that is understood becomes a condition whose truth, as rows are selected by it and as its text is
read, is never unknown and is that of its operator's demands on the rows reached; where no row is
reached, just the negative operators are satisfied. -/
theorem truth_across_relations {f : Field} {r : Request} {p : Predicate} {js : Joins}
    {table target : String} (hne : f.path.relations ≠ [])
    (hw : js.walk table f.path.relations = .ok target) (hp : f.predicate r = .ok p) :
    ∃ op value q, f.operator r.operator = .ok op ∧ f.operand op r.value? = .ok value ∧
      (Query.start js table).add p = .ok q ∧ ∀ (tables : Tables) (row : Row),
        let t := p.eval js tables table row
        let reached := js.reached tables table row f.path.relations
        Condition.evalAll tables (fun _ => row) q.conditions = t ∧
        truthOfClause? q.whereClause q.params tables row = some t ∧ t ≠ .unknown ∧
        (t = .yes ↔ f.Demands op value reached) ∧
        (reached = [] → (t = .yes ↔ op.polarity = .negative)) := by
  obtain ⟨op, value, hop, hv, rfl⟩ := predicate_eq_ok.1 hp
  have hs := suits_of_operand hv
  obtain ⟨q, hq⟩ := Query.exists_add (q := Query.start js table) (covers_placed (f := f) hw)
  have hmeans := (Query.says_start js table).add hq
  refine ⟨op, value, q, hop, hv, hq, ?_⟩
  intro tables row t reached
  obtain ⟨hknown, hdemands⟩ : t ≠ .unknown ∧ (t = .yes ↔ f.Demands op value reached) :=
    eval_placed hne hw hs
  have hone : Predicate.evalAll js tables table row [f.placed op value] = t := by
    rw [Predicate.evalAll, Predicate.evalAll, Truth.and_yes]
  refine ⟨?_, ?_, hknown, hdemands, fun hnil => ?_⟩
  · rw [hmeans.evalAll, ← hone]; rfl
  · rw [hmeans.truthOfClause?, ← hone]; rfl
  · rw [hdemands, ← demands_nil (f := f) hs, ← hnil]

/-- Each name of a list has to be found, be it in different rows. -/
theorem truth_across_relations_equals_list :
    ∃ (f : Field) (r : Request) (p : Predicate) (js : Joins),
      f.columnPath = "items.name" ∧ r.operator = "equals" ∧
      r.value? = some (.list [.text "a", .text "b"]) ∧ f.predicate r = .ok p ∧
      ∀ tables row, p.eval js tables "orders" row = .yes ↔
        ∀ d ∈ [Datum.text "a", .text "b"], ∃ r ∈ js.reached tables "orders" row ["items"],
          compareCells .eq (r "name") (.ofDatum d) = .yes := by
  have hw : (Joins.empty.add "orders" "items" ⟨"items", "id", "order_id"⟩).walk "orders"
      (ofKind "items.name" .text).path.relations = .ok "items" := rfl
  have hp : (ofKind "items.name" .text).predicate
      ⟨"items.name", "equals", some (.list [.text "a", .text "b"])⟩ = .ok _ := rfl
  refine ⟨_, _, _, .add .empty "orders" "items" ⟨"items", "id", "order_id"⟩, rfl, rfl, rfl, hp, ?_⟩
  intro tables row
  obtain ⟨op, value, q, hop, hv, -, h⟩ := truth_across_relations (by decide) hw hp
  cases hop
  cases hv
  exact (h tables row).2.2.2.1

end Field

end RowSieve.Filter
