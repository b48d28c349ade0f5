/-
Operators and their denials on a column of the row itself. A denial is compiled to a condition of
another shape, yet its truth is always the denied truth: it is known just when the compared value
is not null, and then exactly one of the two conditions holds. Whether a value is missing is always
known.
-/
import RowSieve.Proofs.Filter.Published
import RowSieve.Proofs.Filter.Quantifier

namespace RowSieve.Sql

open RowSieve.Filter (Comparison)

/-! ## Known comparisons -/

theorem Cell.exists_compare? {a b : Cell} (ha : a ≠ .null) (hb : b ≠ .null) :
    ∃ o, a.compare? b = some o := by
  cases a with
  | null => exact absurd rfl ha
  | _ =>
    cases b with
    | null => exact absurd rfl hb
    | _ => exact ⟨_, rfl⟩

/-- A comparison with a value is unknown just of null. -/
theorem compareCells_eq_unknown_iff {op : Comparison} {a b : Cell} (hb : b ≠ .null) :
    compareCells op a b = .unknown ↔ a = .null := by
  constructor
  · intro h
    by_cases ha : a = .null
    · exact ha
    · obtain ⟨o, ho⟩ := Cell.exists_compare? ha hb
      rw [compareCells, ho] at h
      exact absurd h (Truth.ofBool_ne_unknown _)
  · rintro rfl
    rfl

theorem equal_eq_unknown_iff {a b : Cell} (hb : b ≠ .null) : a.equal b = .unknown ↔ a = .null :=
  @compareCells_eq_unknown_iff .eq a b hb

/-- A comparison for inequality denies the one for equality, also of null. -/
theorem compareCells_ne (a b : Cell) : compareCells .ne a b = (compareCells .eq a b).not := by
  unfold compareCells
  cases a.compare? b with
  | none => rfl
  | some o => exact (Truth.not_ofBool _).symm

/-- Being one of some values is unknown just of null. -/
theorem amongCells_eq_unknown_iff {a : Cell} : ∀ {bs : List Cell}, bs ≠ [] →
    (∀ b ∈ bs, b ≠ .null) → (amongCells a bs = .unknown ↔ a = .null)
  | [b], _, hbs => by
    rw [amongCells, amongCells, Truth.or_no]
    exact equal_eq_unknown_iff (hbs b (.head _))
  | b :: c :: bs, _, hbs => by
    rw [amongCells]
    exact Truth.or_eq_unknown_iff (equal_eq_unknown_iff (hbs b (.head _)))
      (amongCells_eq_unknown_iff (List.cons_ne_nil c bs) fun x hx => hbs x (.tail _ hx))

theorem likeCell_eq_unknown_iff {a : Cell} {pattern : String} :
    likeCell a pattern = .unknown ↔ a = .null := by
  cases a with
  | null => exact iff_of_true rfl rfl
  | _ => exact iff_of_false (Truth.ofBool_ne_unknown _) nofun

/-- A test for a value denies the one for its absence. -/
theorem presentCell_eq_not (a : Cell) (sentinel? : Option Cell) :
    presentCell a sentinel? = (nullCell a sentinel?).not := by
  cases sentinel? with
  | none => exact (Truth.not_ofBool _).symm
  | some sentinel =>
    rw [presentCell, nullCell, Truth.not_or, Truth.not_ofBool, compareCells_ne]
    rfl

/-- Whether a value is missing is known, even of null. -/
theorem nullCell_ne_unknown {a : Cell} {sentinel? : Option Datum}
    (h : ∀ d ∈ sentinel?, Cell.ofDatum d ≠ .null) :
    nullCell a (sentinel?.map .ofDatum) ≠ .unknown := by
  cases sentinel? with
  | none => exact Truth.ofBool_ne_unknown _
  | some d =>
    by_cases ha : a = .null
    · rw [ha]
      exact nofun
    · have hequal : a.equal (.ofDatum d) = .unknown ↔ False :=
        (equal_eq_unknown_iff (h d rfl)).trans (iff_false_intro ha)
      exact (Truth.or_eq_unknown_iff (iff_false_intro (Truth.ofBool_ne_unknown _)) hequal).1

end RowSieve.Sql

namespace RowSieve.Filter

open RowSieve.Sql

theorem Operator.token_inj {op op' : Operator} (h : op.token = op'.token) : op = op' :=
  Option.some.inj ((ofToken?_token op).symm.trans (h ▸ ofToken?_token op'))

theorem Operator.arity_positive (op : Operator) : op.positive.arity = op.arity := by
  cases op <;> rfl

/-! ## Values of requests -/

/-- A finite number is bound as itself. -/
theorem ofDatum_ne_null_of_finite {x? : Option Binary64} {d : Datum}
    (h : (x?.filter Binary64.isFinite).map Datum.real = some d) : Cell.ofDatum d ≠ .null := by
  obtain ⟨x, hx, rfl⟩ := Option.map_eq_some_iff.1 h
  have hfinite : x.magnitude < Binary64.infinityMagnitude :=
    of_decide_eq_true (Option.filter_eq_some_iff.1 hx).2
  have hnan : x.isNaN = false := decide_eq_false (Nat.lt_asymm hfinite)
  simp [Cell.ofDatum, hnan]

theorem Scalar.ofDatum_ne_null_of_toNumber? {s : Scalar} {d : Datum} (h : s.toNumber? = some d) :
    Cell.ofDatum d ≠ .null := by
  cases s with
  | bool b => cases h
  | number n =>
    rw [toNumber?] at h
    split at h
    · cases h
      exact nofun
    · exact ofDatum_ne_null_of_finite h
  | text s =>
    rw [toNumber?, numberOfText?] at h
    split at h
    · cases h
      exact nofun
    · exact ofDatum_ne_null_of_finite h

namespace Field

variable {f : Field}

/-- The value of a scalar is a text, a number or a truth value. -/
theorem datum_cases {s : Scalar} {d : Datum} (h : f.datum s = .ok d) :
    (∃ t, d = .text t) ∨ s.toNumber? = some d ∨ ∃ b, d = .bool b := by
  unfold datum at h
  cases hk : f.kind
  all_goals
    rw [hk] at h
    dsimp only at h
  case text =>
    cases h
    exact .inl ⟨_, rfl⟩
  case number =>
    split at h
    · cases h
      exact .inr (.inl ‹_›)
    · cases h
  case date =>
    split at h
    · rename_i hd
      cases h
      cases s with
      | text t =>
        obtain ⟨day, -, rfl⟩ := Option.map_eq_some_iff.1 hd
        exact .inl ⟨_, rfl⟩
      | _ => cases hd
    · cases h
  case datetime =>
    split at h
    · rename_i hd
      cases h
      cases s with
      | text t =>
        obtain ⟨instant, -, rfl⟩ := Option.map_eq_some_iff.1 hd
        exact .inl ⟨_, rfl⟩
      | _ => cases hd
    · cases h
  case boolean =>
    split at h
    · rename_i hd
      cases h
      obtain ⟨b, -, rfl⟩ := Option.map_eq_some_iff.1 hd
      exact .inr (.inr ⟨b, rfl⟩)
    · cases h
  case choice =>
    split at h
    · cases h
    · split at h
      · cases h
        exact .inl ⟨_, rfl⟩
      · cases h

/-- No value of a field's kind is bound as null. -/
theorem ofDatum_ne_null {s : Scalar} {d : Datum} (h : f.datum s = .ok d) :
    Cell.ofDatum d ≠ .null := by
  rcases datum_cases h with ⟨t, rfl⟩ | hnumber | ⟨b, rfl⟩
  · exact nofun
  · exact Scalar.ofDatum_ne_null_of_toNumber? hnumber
  · exact nofun

theorem ofDatum_ne_null_of_data : ∀ {ss : List Scalar} {ds : List Datum}, f.data ss = .ok ds →
    ∀ d ∈ ds, Cell.ofDatum d ≠ .null
  | [], _, h => by cases h; exact fun _ hd => nomatch hd
  | s :: ss, _, h => by
    obtain ⟨d, hd, h⟩ := bind_eq_ok.1 h
    obtain ⟨ds, hds, h⟩ := bind_eq_ok.1 h
    cases h
    exact List.forall_mem_cons.2 ⟨ofDatum_ne_null hd, ofDatum_ne_null_of_data hds⟩

theorem ofDatum_ne_null_of_operand {op : Operator} {value? : Option RequestValue} {value : Operand}
    (h : f.operand op value? = .ok value) : ∀ d ∈ value.values, Cell.ofDatum d ≠ .null := by
  rcases operand_cases h with ⟨-, -, rfl⟩ | ⟨s, d, -, -, hd, rfl⟩ | ⟨s, rest, ds, -, -, hds, rfl⟩
  · exact fun _ hd => nomatch hd
  · exact List.forall_mem_singleton.2 (ofDatum_ne_null hd)
  · exact ofDatum_ne_null_of_data hds

end Field

/-! ## Denials -/

namespace Predicate

variable {js : Joins} {tables : Tables} {table : String} {row : Row}

/-- To deny each of several tests is to deny that some of them holds. -/
theorem evalAll_denied {α : Type} {test denial : α → Predicate}
    (h : ∀ a, (denial a).eval js tables table row = ((test a).eval js tables table row).not) :
    ∀ as : List α, evalAll js tables table row (as.map denial) =
      (evalAny js tables table row (as.map test)).not
  | [] => by rw [List.map_nil, List.map_nil, evalAll, evalAny]; rfl
  | a :: as => by
    rw [List.map_cons, List.map_cons, evalAll, evalAny, Truth.not_or, h, evalAll_denied h as]

/-- Some of several tests is unknown on the condition on which each of them is. -/
theorem evalAny_eq_unknown_iff {P : Prop} : ∀ {ps : List Predicate}, ps ≠ [] →
    (∀ p ∈ ps, p.eval js tables table row = .unknown ↔ P) →
    (evalAny js tables table row ps = .unknown ↔ P)
  | [p], _, h => by
    rw [evalAny, evalAny, Truth.or_no]
    exact h p (.head _)
  | p :: q :: ps, _, h => by
    rw [evalAny]
    exact Truth.or_eq_unknown_iff (h p (.head _))
      (evalAny_eq_unknown_iff (List.cons_ne_nil q ps) fun x hx => h x (.tail _ hx))

end Predicate

namespace Field

section Tests

variable {f : Field} {op : Operator} {value : Operand} {js : Joins} {tables : Tables}
  {table : String} {row : Row}

theorem eval_likeness_denied (anchor : Like.Anchor) (d : Datum) :
    (f.likeness anchor true d).eval js tables table row =
      ((f.likeness anchor false d).eval js tables table row).not := by
  rw [likeness, likeness, Predicate.eval, Predicate.eval]
  rfl

theorem eval_among_denied (ds : List Datum) :
    (Predicate.among f.comparedColumn ds true).eval js tables table row =
      ((Predicate.among f.comparedColumn ds false).eval js tables table row).not := by
  rw [Predicate.eval, Predicate.eval]
  rfl

/-- A denial has the denied truth, whatever the shapes of the two conditions. -/
theorem eval_test_denied (hop : op.polarity = .negative) (hv : value.Suits op.arity) :
    (f.test op value).eval js tables table row =
      ((f.test op.positive value).eval js tables table row).not := by
  cases op
  -- a single value is compared, a list is denied as a whole, and its texts are denied one by one
  case notEquals =>
    cases value with
    | none => exact hv.elim
    | one d =>
      show (f.comparisons .ne (.one d)).eval js tables table row =
        ((f.comparisons .eq (.one d)).eval js tables table row).not
      rw [eval_comparisons_one, eval_comparisons_one, compareCells_ne]
    | many ds => exact eval_among_denied ds
  case notAmong => exact eval_among_denied value.values
  case notContains =>
    show (Predicate.conj (value.values.map (f.likeness .anywhere true))).eval js tables table row =
      ((f.likenesses .anywhere value).eval js tables table row).not
    rw [likenesses, Predicate.eval_conj, Predicate.eval_disj]
    exact Predicate.evalAll_denied (eval_likeness_denied .anywhere) value.values
  case isNull =>
    show (Predicate.isNull f.plainColumn false f.sentinel?).eval js tables table row =
      ((Predicate.isNull f.plainColumn true f.sentinel?).eval js tables table row).not
    rw [Predicate.eval, Predicate.eval, presentCell_eq_not, Truth.not_not]
  all_goals cases hop

/-- What is denied is known just when the compared value is not null. -/
theorem eval_test_eq_unknown_iff (hop : op.polarity = .negative) (hnull : op ≠ .isNull)
    (hv : value.Suits op.arity) (hvalues : ∀ d ∈ value.values, Cell.ofDatum d ≠ .null) :
    (f.test op.positive value).eval js tables table row = .unknown ↔
      f.comparedColumn.value row = .null := by
  have hamong {ds : List Datum} (hne : ds ≠ []) (hds : ∀ d ∈ ds, Cell.ofDatum d ≠ .null) :
      (Predicate.among f.comparedColumn ds false).eval js tables table row = .unknown ↔
        f.comparedColumn.value row = .null := by
    rw [Predicate.eval]
    exact amongCells_eq_unknown_iff (by simpa using hne) (by simpa using hds)
  have hlike : value.values ≠ [] →
      ((f.likenesses .anywhere value).eval js tables table row = .unknown ↔
        f.comparedColumn.value row = .null) := by
    intro hne
    rw [likenesses, Predicate.eval_disj]
    refine Predicate.evalAny_eq_unknown_iff (by simpa using hne) fun p hp => ?_
    obtain ⟨d, -, rfl⟩ := List.mem_map.1 hp
    rw [eval_likeness]
    exact likeCell_eq_unknown_iff
  cases op
  case notEquals =>
    cases value with
    | none => exact hv.elim
    | one d =>
      show (f.comparisons .eq (.one d)).eval js tables table row = .unknown ↔ _
      rw [eval_comparisons_one]
      exact compareCells_eq_unknown_iff (hvalues d (.head _))
    | many ds => exact hamong hv hvalues
  case notAmong =>
    cases value with
    | many ds => exact hamong hv hvalues
    | _ => exact hv.elim
  case notContains =>
    cases value with
    | none => exact hv.elim
    | one d => exact hlike (List.cons_ne_nil d [])
    | many ds => exact hlike hv
  case isNull => exact absurd rfl hnull
  all_goals cases hop

/-- What stands for null is a value itself. -/
theorem ofDatum_sentinel_ne_null : ∀ d ∈ f.sentinel?, Cell.ofDatum d ≠ .null := by
  intro d hd
  unfold sentinel? at hd
  split at hd
  · cases hd
    exact nofun
  · cases hd

/-- A value is missing or present; what is missing is null or stands for it. -/
theorem eval_isNull_cases :
    let t := (f.test .isNotNull value).eval js tables table row
    let u := (f.test .isNull value).eval js tables table row
    Truth.ExactlyOne t u ∧ (u = .yes ↔ row f.path.column = .null ∨
      f.kind = .datetime ∧ row f.path.column = .text Calendar.noInstant) := by
  intro t u
  have hu : u ≠ .unknown := by
    show (Predicate.isNull f.plainColumn false f.sentinel?).eval js tables table row ≠ .unknown
    rw [Predicate.eval]
    exact nullCell_ne_unknown ofDatum_sentinel_ne_null
  have ht : t = u.not := by
    show (Predicate.isNull f.plainColumn true f.sentinel?).eval js tables table row =
      ((Predicate.isNull f.plainColumn false f.sentinel?).eval js tables table row).not
    rw [Predicate.eval, Predicate.eval, presentCell_eq_not]
  have hone : Truth.ExactlyOne t u := ht ▸ (Truth.exactlyOne_not hu).symm
  have hpresent : t = .yes ↔ row f.path.column ≠ .null ∧
      (f.kind = .datetime → row f.path.column ≠ .text Calendar.noInstant) := eval_isNotNull f
  refine ⟨hone, ?_⟩
  rw [hone.eq_yes_iff, Ne, hpresent, Decidable.not_and_iff_not_or_not, Decidable.not_not,
    Decidable.not_imp_iff_and_not, Decidable.not_not]

end Tests

/-! ## Requests -/

section Requests

variable {f : Field} {op : Operator} {r s : Request} {p n : Predicate}

/-- What a request asks of a column of the row itself becomes a condition with its truth. -/
theorem exists_condition (hlocal : f.path.relations = []) (hp : f.predicate r = .ok p) (js : Joins)
    (table : String) : ∃ q, (Query.start js table).add p = .ok q ∧ ∀ tables row,
      Condition.evalAll tables (fun _ => row) q.conditions = p.eval js tables table row ∧
      truthOfClause? q.whereClause q.params tables row = some (p.eval js tables table row) := by
  obtain ⟨op, value, -, -, rfl⟩ := predicate_eq_ok.1 hp
  have hw : js.walk table f.path.relations = .ok table := by rw [hlocal, Joins.walk]
  obtain ⟨q, hq⟩ := Query.exists_add (q := Query.start js table) (covers_placed (f := f) hw)
  exact ⟨q, hq, Query.eval_of_start_add hq⟩

/-- Operators of one arity take the same operands. -/
theorem operand_of_arity {op op' : Operator} {value? : Option RequestValue} {value : Operand}
    (ha : op.arity = op'.arity) (h : f.operand op value? = .ok value) :
    f.operand op' value? = .ok value := by
  unfold operand at h ⊢
  rw [ha] at h
  generalize op'.arity = a at h ⊢
  rcases value? with _ | ((_ | ⟨s, rest⟩) | s) <;> cases a <;> first | exact h | cases h

/-- Requests for an operator and for its denial, with the same value, make tests of one operand. -/
theorem tests_of_denied (hlocal : f.path.relations = []) (hr : r.operator = op.positive.token)
    (hs : s.operator = op.token) (hv : r.value? = s.value?) (hp : f.predicate r = .ok p)
    (hn : f.predicate s = .ok n) :
    ∃ value, f.operand op s.value? = .ok value ∧ p = f.test op.positive value ∧
      n = f.test op value := by
  obtain ⟨op₁, value, hop₁, hvalue, rfl⟩ := predicate_eq_ok.1 hp
  obtain ⟨op₂, value₂, hop₂, hvalue₂, rfl⟩ := predicate_eq_ok.1 hn
  obtain rfl : op₁ = op.positive := Operator.token_inj ((operator_eq_ok.1 hop₁).1.trans hr)
  obtain rfl : op₂ = op := Operator.token_inj ((operator_eq_ok.1 hop₂).1.trans hs)
  rw [hv] at hvalue
  -- the value is read by the arity of the operator alone, which a denial shares
  have hsame := operand_of_arity (Operator.arity_positive op₂) hvalue
  obtain rfl : value₂ = value := Except.ok.inj (hvalue₂.symm.trans hsame)
  exact ⟨value₂, hvalue₂, placed_of_local hlocal, placed_of_local hlocal⟩

/-- Negation on a column of the row itself. When requests ask for an operator and for its denial
with the same value and both are understood, they become conditions whose truths, as rows are
selected by them and as their texts are read, deny each other: if the compared value is not null
exactly one of them holds, and if it is null neither does. Of `isNull` and `isNotNull` always
exactly one holds, `isNull` for null and, on an instant, for the text that marks none. -/
theorem denials_exclude (hlocal : f.path.relations = []) (hop : op.polarity = .negative)
    (hr : r.operator = op.positive.token) (hs : s.operator = op.token) (hv : r.value? = s.value?)
    (hp : f.predicate r = .ok p) (hn : f.predicate s = .ok n) (js : Joins) (table : String) :
    ∃ q q', (Query.start js table).add p = .ok q ∧ (Query.start js table).add n = .ok q' ∧
      ∀ (tables : Tables) (row : Row), ∃ t u : Truth,
        Condition.evalAll tables (fun _ => row) q.conditions = t ∧
        truthOfClause? q.whereClause q.params tables row = some t ∧
        Condition.evalAll tables (fun _ => row) q'.conditions = u ∧
        truthOfClause? q'.whereClause q'.params tables row = some u ∧
        (op ≠ .isNull →
          (f.comparedColumn.value row ≠ .null → t.ExactlyOne u) ∧
          (f.comparedColumn.value row = .null → t = .unknown ∧ u = .unknown)) ∧
        (op = .isNull → t.ExactlyOne u ∧ (u = .yes ↔ row f.path.column = .null ∨
          f.kind = .datetime ∧ row f.path.column = .text Calendar.noInstant)) := by
  obtain ⟨q, hq, htruth⟩ := exists_condition hlocal hp js table
  obtain ⟨q', hq', hdenied⟩ := exists_condition hlocal hn js table
  obtain ⟨value, hvalue, rfl, rfl⟩ := tests_of_denied hlocal hr hs hv hp hn
  refine ⟨q, q', hq, hq', fun tables row => ⟨_, _, (htruth tables row).1, (htruth tables row).2,
    (hdenied tables row).1, (hdenied tables row).2, fun hnull => ?_, ?_⟩⟩
  · have hsuits := suits_of_operand hvalue
    have hnot : (f.test op value).eval js tables table row =
        ((f.test op.positive value).eval js tables table row).not := eval_test_denied hop hsuits
    have hknown : (f.test op.positive value).eval js tables table row = .unknown ↔
        f.comparedColumn.value row = .null :=
      eval_test_eq_unknown_iff hop hnull hsuits (ofDatum_ne_null_of_operand hvalue)
    constructor
    · intro hx
      rw [hnot]
      exact Truth.exactlyOne_not (mt hknown.1 hx)
    · intro hx
      rw [hnot, hknown.2 hx]
      exact ⟨rfl, rfl⟩
  · rintro rfl
    exact eval_isNull_cases

/-- A list of texts, one of them with a mark and one of them empty. -/
theorem denials_exclude_contains_list : ∃ p n q q',
    (ofKind "number" .text).predicate
      ⟨"number", "contains", some (.list [.text "50%", .text ""])⟩ = .ok p ∧
    (ofKind "number" .text).predicate
      ⟨"number", "notContains", some (.list [.text "50%", .text ""])⟩ = .ok n ∧
    (Query.start .empty "invoices").add p = .ok q ∧
    (Query.start .empty "invoices").add n = .ok q' ∧
    ∀ (tables : Tables) (row : Row), row "number" ≠ .null →
      (Condition.evalAll tables (fun _ => row) q.conditions).ExactlyOne
        (Condition.evalAll tables (fun _ => row) q'.conditions) := by
  obtain ⟨p, hp⟩ : ∃ p, (ofKind "number" .text).predicate
      ⟨"number", "contains", some (.list [.text "50%", .text ""])⟩ = .ok p := ⟨_, rfl⟩
  obtain ⟨n, hn⟩ : ∃ n, (ofKind "number" .text).predicate
      ⟨"number", "notContains", some (.list [.text "50%", .text ""])⟩ = .ok n := ⟨_, rfl⟩
  obtain ⟨q, q', hq, hq', h⟩ :=
    @denials_exclude (ofKind "number" .text) .notContains ⟨"number", "contains", _⟩
      ⟨"number", "notContains", _⟩ p n rfl rfl rfl rfl rfl hp hn .empty "invoices"
  refine ⟨p, n, q, q', hp, hn, hq, hq', fun tables row hrow => ?_⟩
  obtain ⟨t, u, ht, -, hu, -, hpair, -⟩ := h tables row
  rw [ht, hu]
  exact (hpair nofun).1 hrow

end Requests

end Field

end RowSieve.Filter
