/-
The text that marks an instant which has not come, and null. Tests for null do not tell them apart,
and no other test is true of null; so most filters on instants select the same rows when marks are
replaced by null. A test that is true of the text itself does tell: it stands before the instants of
the years 0 to 9999 and behind all others, and differs from each of them.
-/
import RowSieve.Proofs.Filter.Acceptance
import RowSieve.Proofs.Filter.Chronology
import RowSieve.Proofs.Filter.Negation
import RowSieve.Proofs.Sql.Replacement

namespace RowSieve

open RowSieve.Calendar
open RowSieve.Number (padded padded_append_lt)
open RowSieve.Sql.Cell (compareTexts)

/-! ## The mark among stored instants -/

theorem toList_noInstant : noInstant.toList =
    yearText 0 ++ '-' :: (padded 2 0 ++ "-00 00:00:00".toList) := by decide +kernel

theorem toList_stored (t : Instant) : t.stored.toList =
    yearText t.day.year ++ '-' :: (padded 2 t.day.month ++ '-' :: (padded 2 t.day.day ++
      ' ' :: clockText t.clock)) := by
  rw [Instant.stored, String.toList_ofList, dayText_append]

/-- The mark names no month, so it comes before every instant whose year is written without a sign;
a sign comes before the mark. -/
theorem compareTexts_noInstant (t : Instant) :
    compareTexts noInstant t.stored = if t.day.Unsigned then .lt else .gt := by
  have htexts : compareTexts noInstant t.stored =
      compareTexts (String.ofList noInstant.toList) (String.ofList t.stored.toList) := by
    rw [String.ofList_toList, String.ofList_toList]
  rw [htexts, toList_noInstant, toList_stored]
  by_cases h : t.day.Unsigned
  · obtain ⟨hmonth, -⟩ := t.day.month_mem
    rw [if_pos h]
    refine (compareTexts_of_lt ?_).1
    -- In the year of the mark the month decides, in later ones the year.
    by_cases hy : t.day.year = 0
    · rw [hy]
      refine List.append_left_lt (List.cons_lt_cons_self.2 ?_)
      exact padded_append_lt (by decide) (month_lt t.day) (.inl (by omega))
    · obtain ⟨hlow, hhigh⟩ := h
      exact yearText_append_lt hhigh (.inl le_rfl) (by omega)
  · rw [if_neg h]
    refine (compareTexts_of_lt ?_).2
    unfold Day.Unsigned at h
    by_cases hy : t.day.year < 0
    · exact yearText_append_lt (by decide) (.inr le_rfl) hy
    · exact yearText_append_lt_of_plus (by decide) (by omega)

/-- The mark as a stored value. -/
def Sql.Cell.mark : Sql.Cell := .text noInstant

theorem Sql.Cell.mark_ne_null : mark ≠ null := by
  intro h
  cases h

namespace Filter

open RowSieve.Sql

/-- Whether the mark stands to an instant in the order that the operator asks for. -/
def Operator.AdmitsMark : Operator → Instant → Prop
  | .below, t | .atMost, t => t.day.Unsigned
  | .above, t | .atLeast, t => ¬ t.day.Unsigned
  | _, _ => False

/-- Whether a filter tells the mark from null: it asks of a column of the row itself that it differs
from something, or for an order to an instant that the mark has. -/
def Field.TellsApart (f : Field) (op : Operator) (value? : Option RequestValue) : Prop :=
  f.path.relations = [] ∧ (op = .notEquals ∨ op = .notAmong) ∨
    ∃ s t, value? = some (.scalar (.text s)) ∧ Instant.read? s = some t ∧ op.AdmitsMark t

namespace Field

/-! ## Operands of instants -/

section Operands

variable {f : Field} {op : Operator} {value? : Option RequestValue} {value : Operand} {now : Int}

theorem instant_of_datum (hk : f.kind = .datetime) {s : Scalar} {d : Datum}
    (h : f.datum s = .ok d) :
    ∃ text t, s = .text text ∧ Instant.read? text = some t ∧ d = .text t.stored := by
  cases datum_eq_ok.1 h with
  | datetime _ hread => exact ⟨_, _, rfl, hread, rfl⟩
  | text _ hk' | number hk' _ | date hk' _ | boolean hk' _ | choice hk' _ _ =>
    rw [hk] at hk'
    cases hk'

theorem instants_of_data (hk : f.kind = .datetime) : ∀ {ss : List Scalar} {ds : List Datum},
    f.data ss = .ok ds → ∀ d ∈ ds, ∃ t : Instant, d = .text t.stored
  | [], _, h, d, hd => by
    cases h
    exact absurd hd List.not_mem_nil
  | s :: ss, _, h, d, hd => by
    obtain ⟨d₀, hd₀, h⟩ := bind_eq_ok.1 h
    obtain ⟨ds, hds, h⟩ := bind_eq_ok.1 h
    cases h
    rcases List.mem_cons.1 hd with rfl | hd
    · obtain ⟨-, t, -, -, rfl⟩ := instant_of_datum hk hd₀
      exact ⟨t, rfl⟩
    · exact instants_of_data hk hds d hd

theorem passesFor_mark (hk : f.kind = .datetime) (hop : f.kind.supports op = true)
    (t : Instant) : f.PassesFor op ⟨fun _ => .mark, now⟩ (.text t.stored) ↔ op.AdmitsMark t := by
  have hvalue : f.comparedColumn.value ⟨fun _ => .mark, now⟩ = .text noInstant :=
    value_of_datetime hk _
  have horder (c : Comparison) : compareCells c (f.comparedColumn.value ⟨fun _ => .mark, now⟩)
      (.ofDatum (.text t.stored)) = .yes ↔
        c.holds (if t.day.Unsigned then .lt else .gt) = true := by
    rw [hvalue, compareCells_texts, compareTexts_noInstant]
  rw [hk] at hop
  cases op
  case contains | notContains | startsWith | endsWith => cases hop
  all_goals
    refine (horder _).trans ?_
    by_cases h : t.day.Unsigned <;> simp [h, Comparison.holds, Operator.AdmitsMark]

theorem not_passesFor_null (hk : f.kind = .datetime) (d : Datum) :
    ¬ f.PassesFor op ⟨fun _ => .null, now⟩ d := by
  have hvalue : f.comparedColumn.value ⟨fun _ => .null, now⟩ = .null := value_of_datetime hk _
  unfold PassesFor
  rw [hvalue]
  cases op
  all_goals
    intro h
    cases h

/-- Null passes nothing. -/
theorem not_passes_null (hk : f.kind = .datetime) : ¬ f.Passes op value ⟨fun _ => .null, now⟩ := by
  unfold Passes
  split
  · exact fun h => h.1 rfl
  · rintro ⟨d, -, h⟩
    exact not_passesFor_null hk d h

/-- The mark passes an order to an instant that it has, and nothing else. -/
theorem passes_mark_iff (hk : f.kind = .datetime) (hop : f.kind.supports op = true)
    (hv : f.operand op value? = .ok value) : f.Passes op value ⟨fun _ => .mark, now⟩ ↔
      ∃ s t, value? = some (.scalar (.text s)) ∧ Instant.read? s = some t ∧ op.AdmitsMark t := by
  have hfamily (ha : op.arity ≠ .none) : f.Passes op value ⟨fun _ => .mark, now⟩ ↔
      ∃ d ∈ value.values, f.PassesFor op ⟨fun _ => .mark, now⟩ d := by
    unfold Passes
    cases op <;> first | exact Iff.rfl | exact absurd rfl ha
  rcases operand_cases hv with ⟨ha, rfl, rfl⟩ | ⟨s, d, ha, rfl, hd, rfl⟩ |
    ⟨s, rest, ds, ha, rfl, hds, rfl⟩
  · constructor
    · intro h
      unfold Passes at h
      cases op <;> first | exact absurd rfl (h.2 hk) | cases ha
    · rintro ⟨s, t, h, -⟩
      cases h
  · obtain ⟨text, t, rfl, hread, rfl⟩ := instant_of_datum hk hd
    rw [hfamily (by rcases ha with ha | ha <;> rw [ha] <;> decide)]
    simp only [Operand.values, List.mem_singleton, exists_eq_left, passesFor_mark hk hop]
    constructor
    · intro h
      exact ⟨text, t, rfl, hread, h⟩
    · rintro ⟨text', t', hsame, hread', h⟩
      cases hsame
      cases hread.symm.trans hread'
      exact h
  · -- with a list no order is asked for
    have hlist (t : Instant) : ¬ op.AdmitsMark t := by
      cases op <;> first | exact id | simp [Operator.arity, Operator.family] at ha
    rw [hfamily (by rcases ha with ha | ha <;> rw [ha] <;> decide)]
    constructor
    · rintro ⟨d, hd, h⟩
      obtain ⟨t, rfl⟩ := instants_of_data hk hds d hd
      exact absurd ((passesFor_mark hk hop t).1 h) (hlist t)
    · rintro ⟨s', t, h, -⟩
      cases h

end Operands

/-! ## Rows with the mark and rows with null -/

section Rows

variable {f : Field} {op : Operator} {value? : Option RequestValue} {value : Operand} {js : Joins}
  {tables tables' : Tables} {table target : String} {row row' : Row}

theorem passesFor_iff_passesFor_cell (hk : f.kind = .datetime) (d : Datum) (now : Int) :
    f.PassesFor op row d ↔ f.PassesFor op ⟨fun _ => row f.path.column, now⟩ d := by
  unfold PassesFor
  rw [value_of_datetime hk, value_of_datetime hk]

/-- What passes is told by the column of the field alone, whenever it is read. -/
theorem passes_iff_passes_cell (hk : f.kind = .datetime) (now : Int) :
    f.Passes op value row ↔ f.Passes op value ⟨fun _ => row f.path.column, now⟩ := by
  have hfor (d : Datum) : f.PassesFor op row d ↔
      f.PassesFor op ⟨fun _ => row f.path.column, now⟩ d := passesFor_iff_passesFor_cell hk d now
  unfold Passes
  simp only [hfor]
  exact Iff.rfl

/-- On a column of the row itself a denial asks for a value besides, unless null is asked for. -/
theorem eval_test_eq_yes_iff (hv : f.operand op value? = .ok value) :
    (f.test op value).eval js tables table row = .yes ↔ match op.polarity with
      | .positive => f.Passes op value row
      | .negative => (op ≠ .isNull → f.comparedColumn.value row ≠ .null) ∧
          ¬ f.Passes op value row := by
  have hs : value.Suits op.arity := suits_of_operand hv
  have hpasses : (f.test op.positive value).eval js tables table row = .yes ↔
      f.Passes op value row := eval_test_positive f hs
  cases hop : op.polarity with
  | positive =>
    have hpositive : op.positive = op := by cases op <;> first | rfl | cases hop
    rwa [hpositive] at hpasses
  | negative =>
    have hnot : (f.test op value).eval js tables table row =
        ((f.test op.positive value).eval js tables table row).not := eval_test_denied hop hs
    by_cases hnull : op = .isNull
    · subst hnull
      obtain ⟨hone, -⟩ : Truth.ExactlyOne ((f.test .isNotNull value).eval js tables table row)
        ((f.test .isNull value).eval js tables table row) ∧ _ := eval_isNull_cases
      rw [hone.eq_yes_iff, ← hpasses]
      simp only [ne_eq, not_true_eq_false, false_imp_iff, true_and]
      exact Iff.rfl
    · have hknown : (f.test op.positive value).eval js tables table row = .unknown ↔
          f.comparedColumn.value row = .null :=
        eval_test_eq_unknown_iff hop hnull hs (ofDatum_ne_null_of_operand hv)
      simp only [hnot, ← hpasses, Ne, ← hknown]
      generalize (f.test op.positive value).eval js tables table row = t
      cases t <;> simp [Truth.not, hnull]

/-- The denials that instants support. -/
theorem negative_cases (hk : f.kind = .datetime) (hop : f.kind.supports op = true)
    (hp : op.polarity = .negative) : (op = .notEquals ∨ op = .notAmong) ∨ op = .isNull := by
  rw [hk] at hop
  cases op
  case notEquals => exact .inl (.inl rfl)
  case notAmong => exact .inl (.inr rfl)
  case isNull => exact .inr rfl
  case notContains => cases hop
  all_goals cases hp

/-- Rows among which the same values are passed meet the same demands. -/
theorem demands_congr {rows rows' : List Row} (hk : f.kind = .datetime)
    (hop : f.kind.supports op = true) (hv : f.operand op value? = .ok value)
    {now : Int} (hmark : ¬ f.Passes op value ⟨fun _ => .mark, now⟩)
    (h : ∀ P : Sql.Cell → Prop, ¬ P .mark → ¬ P .null →
      ((∃ x ∈ rows', P (x f.path.column)) ↔ ∃ x ∈ rows, P (x f.path.column))) :
    f.Demands op value rows' ↔ f.Demands op value rows := by
  have hpasses : (∃ x ∈ rows', f.Passes op value x) ↔ ∃ x ∈ rows, f.Passes op value x := by
    simp only [passes_iff_passes_cell hk now]
    exact h (fun c => f.Passes op value ⟨fun _ => c, now⟩) hmark (not_passes_null hk)
  cases op
  case equals =>
    cases value with
    | many ds =>
      -- each value of the list is looked for on its own
      refine forall₂_congr fun d hd => ?_
      have hnone : ¬ f.PassesFor .equals ⟨fun _ => .mark, now⟩ d := fun hpass => hmark ⟨d, hd, hpass⟩
      simp only [passesFor_iff_passesFor_cell hk d now]
      exact h (fun c => f.PassesFor .equals ⟨fun _ => c, now⟩ d) hnone (not_passesFor_null hk d)
    | _ => exact hpasses
  case notEquals | notAmong | notContains | isNull => exact not_congr hpasses
  all_goals exact hpasses

/-- A filter that does not tell the mark from null is as true of a row when marks are replaced. -/
theorem eval_placed_replaced (hk : f.kind = .datetime)
    (hw : js.walk table f.path.relations = .ok target)
    (hop : f.kind.supports op = true) (hv : f.operand op value? = .ok value)
    (htells : ¬ f.TellsApart op value?)
    (hspares : js.Spares target f.path.column table f.path.relations)
    (hall : ReplacesAll .mark .null target f.path.column tables tables')
    (hrow : Replaces .mark .null target f.path.column table row row') :
    (f.placed op value).eval js tables' table row' = .yes ↔
      (f.placed op value).eval js tables table row = .yes := by
  have hmark : ¬ f.Passes op value ⟨fun _ => .mark, row.now⟩ := fun h =>
    htells (.inr ((passes_mark_iff hk hop hv).1 h))
  by_cases hne : f.path.relations = []
  · have hlocal : f.placed op value = f.test op value := placed_of_local hne
    have hsame : f.Passes op value row' ↔ f.Passes op value row := by
      rcases hrow f.path.column with heq | ⟨-, ha, hb⟩
      · rw [passes_iff_passes_cell hk row.now, heq]
        exact Iff.rfl
      · have hleft : ¬ f.Passes op value row' := by
          rw [passes_iff_passes_cell hk row.now, hb]
          exact not_passes_null hk
        have hright : ¬ f.Passes op value row := by
          rw [passes_iff_passes_cell hk row.now, ha]
          exact hmark
        exact iff_of_false hleft hright
    rw [hlocal, eval_test_eq_yes_iff hv, eval_test_eq_yes_iff hv]
    cases hp : op.polarity with
    | positive => exact hsame
    | negative =>
      -- among the denials only the test for null leaves the two alike
      have hnull : op = .isNull := by
        rcases negative_cases hk hop hp with h | h
        · exact absurd (.inl ⟨hne, h⟩) htells
        · exact h
      simp only [hnull, ne_eq, not_true_eq_false, false_imp_iff, true_and]
      rw [hnull] at hsame
      exact not_congr hsame
  · have hs : value.Suits op.arity := suits_of_operand hv
    rw [(eval_placed hne hw hs).2, (eval_placed hne hw hs).2]
    exact demands_congr hk hop hv hmark fun P ha hb =>
      Replaces.exists_passes_iff hall hspares hrow ha hb

theorem family_of_admitsMark {t : Instant} (h : op.AdmitsMark t) : op.family = .ordering := by
  cases op <;> first | rfl | exact h.elim

/-- An order asks for some row that is reached and passes it. -/
theorem eval_placed_order (hw : js.walk table f.path.relations = .ok target)
    (hv : f.operand op value? = .ok value) (ho : op.family = .ordering) :
    (f.placed op value).eval js tables table row = .yes ↔
      ∃ x ∈ js.reached tables table row f.path.relations, f.Passes op value x := by
  by_cases hne : f.path.relations = []
  · have hlocal : f.placed op value = f.test op value := placed_of_local hne
    have hpositive : op.polarity = .positive := by cases op <;> first | rfl | cases ho
    rw [hlocal, eval_test_eq_yes_iff hv, hpositive, hne, Joins.reached]
    simp
  · rw [(eval_placed hne hw (suits_of_operand hv)).2]
    cases op <;> first | exact Iff.rfl | cases ho

/-- A filter that tells the mark from null selects by the mark and does not select by null. -/
theorem eval_placed_of_tellsApart (hk : f.kind = .datetime)
    (hw : js.walk table f.path.relations = .ok target)
    (hop : f.kind.supports op = true) (hv : f.operand op value? = .ok value)
    (htells : f.TellsApart op value?) :
    ((∃ x ∈ js.reached tables table row f.path.relations, x f.path.column = .mark) →
      (f.placed op value).eval js tables table row = .yes) ∧
    ((∀ x ∈ js.reached tables table row f.path.relations, x f.path.column = .null) →
      (f.placed op value).eval js tables table row ≠ .yes) := by
  rcases htells with ⟨hne, hdenial⟩ | ⟨s, t, hvalue, hread, hadmits⟩
  · have hlocal : f.placed op value = f.test op value := placed_of_local hne
    have hpolarity : op.polarity = .negative := by rcases hdenial with rfl | rfl <;> rfl
    have hnull : op ≠ .isNull := by rcases hdenial with rfl | rfl <;> decide
    rw [hlocal, Ne, eval_test_eq_yes_iff hv, hpolarity, hne, Joins.reached, value_of_datetime hk]
    simp only [List.mem_singleton, exists_eq_left, forall_eq]
    constructor
    · intro hrow
      have hmark : ¬ f.Passes op value row := by
        rw [passes_iff_passes_cell hk row.now, hrow, passes_mark_iff hk hop hv]
        rintro ⟨s, t, -, -, h⟩
        rcases hdenial with rfl | rfl <;> exact h
      exact ⟨fun _ => hrow ▸ Sql.Cell.mark_ne_null, hmark⟩
    · rintro hrow ⟨hvalue, -⟩
      exact hvalue hnull hrow
  · rw [Ne, eval_placed_order hw hv (family_of_admitsMark hadmits)]
    constructor
    · rintro ⟨x, hx, hmark⟩
      refine ⟨x, hx, ?_⟩
      rw [passes_iff_passes_cell hk x.now, hmark, passes_mark_iff hk hop hv]
      exact ⟨s, t, hvalue, hread, hadmits⟩
    · rintro hrows ⟨x, hx, hpass⟩
      rw [passes_iff_passes_cell hk x.now, hrows x hx] at hpass
      exact not_passes_null hk hpass

/-- A row that holds the mark itself is selected as one without a value, and by the filters that
tell the mark from null. -/
theorem eval_placed_of_mark (hk : f.kind = .datetime) (hlocal : f.path.relations = [])
    (hop : f.kind.supports op = true) (hv : f.operand op value? = .ok value)
    (hrow : row f.path.column = .mark) :
    (f.placed op value).eval js tables table row = .yes ↔
      op = .isNull ∨ f.TellsApart op value? := by
  have hplaced : f.placed op value = f.test op value := placed_of_local hlocal
  have hpasses : f.Passes op value row ↔
      ∃ s t, value? = some (.scalar (.text s)) ∧ Instant.read? s = some t ∧ op.AdmitsMark t := by
    rw [passes_iff_passes_cell hk row.now, hrow, passes_mark_iff hk hop hv]
  constructor
  · intro h
    rw [hplaced, eval_test_eq_yes_iff hv] at h
    cases hp : op.polarity with
    | positive =>
      rw [hp] at h
      exact .inr (.inr (hpasses.1 h))
    | negative =>
      rcases negative_cases hk hop hp with hdenial | hnull
      · exact .inr (.inl ⟨hlocal, hdenial⟩)
      · exact .inl hnull
  · rintro (rfl | htells)
    · rw [hplaced, eval_test_eq_yes_iff hv]
      refine ⟨fun h => absurd rfl h, fun h => ?_⟩
      obtain ⟨-, t, -, -, hadmits⟩ := hpasses.1 h
      exact hadmits.elim
    · have hw : js.walk table f.path.relations = .ok table := by rw [hlocal, Joins.walk]
      refine (eval_placed_of_tellsApart hk hw hop hv htells).1 ⟨row, ?_, hrow⟩
      rw [hlocal, Joins.reached]
      exact List.mem_singleton_self row

end Rows

end Field

end Filter

end RowSieve
