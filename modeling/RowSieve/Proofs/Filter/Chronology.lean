/-
Filters on days and instants select rows by the order of time. A comparison with a day or an
instant is one of stored texts, and these compare as the days and instants do while their years
are written without a sign.
-/
import RowSieve.Proofs.Filter.Quantifier
import RowSieve.Proofs.Sql.DayOf

namespace RowSieve.Filter

open RowSieve.Sql

/-- The comparison that an operator makes with a single value by its order. -/
def Operator.comparison? : Operator → Option Comparison
  | equals => some .eq
  | below => some .lt
  | atMost => some .le
  | above => some .gt
  | atLeast => some .ge
  | _ => none

namespace Field

/-! ## Comparisons with a single value -/

section Single

variable {f : Field} {op : Operator} {c : Comparison}

theorem placed_one (h : op.comparison? = some c) (d : Datum) :
    f.placed op (.one d) = .reach f.path.relations (f.comparisons c (.one d)) := by
  unfold placed
  cases f.path.relations with
  | nil => cases op <;> cases h <;> rfl
  | cons name rest => cases op <;> cases h <;> rfl

theorem operand_one {s : Scalar} {d : Datum} (h : op.comparison? = some c)
    (hd : f.datum s = .ok d) : f.operand op (some (.scalar s)) = .ok (.one d) := by
  cases op <;> cases h <;> simp [operand, Operator.arity, Operator.family, hd, Except.map]

/-- A request that compares with a value selects the rows from which one that stands in the
comparison is reached. -/
theorem selects_comparison {r : Request} {s : Scalar} {d : Datum} {js : Joins}
    {table target : String} (hop : f.operator r.operator = .ok op) (hc : op.comparison? = some c)
    (hv : r.value? = some (.scalar s)) (hd : f.datum s = .ok d)
    (hw : js.walk table f.path.relations = .ok target) :
    ∃ p q, f.predicate r = .ok p ∧ (Query.start js table).add p = .ok q ∧ ∀ tables row,
      (q.selects tables row = true ↔ ∃ x ∈ js.reached tables table row f.path.relations,
        compareCells c (f.comparedColumn.value x) (.ofDatum d) = .yes) := by
  have hcovers : js.Covers table (f.placed op (.one d)) := covers_placed hw
  obtain ⟨q, hq⟩ : ∃ q, (Query.start js table).add (f.placed op (.one d)) = .ok q :=
    Query.exists_add hcovers
  have hoperand : f.operand op r.value? = .ok (.one d) := by rw [hv, operand_one hc hd]
  refine ⟨_, q, predicate_eq_ok.2 ⟨op, _, hop, hoperand, rfl⟩, hq, fun tables row => ?_⟩
  rw [Query.selects_of_start_add hq, placed_one hc, ← Truth.selects_eq_true_iff,
    Predicate.selects_eval_reach hw, List.any_eq_true]
  simp only [Truth.selects_eq_true_iff, eval_comparisons_one]

end Single

/-! ## Stored days and instants -/

/-- The column of the field holds an instant in its stored form, which compares with `w`. -/
def StoresInstant (f : Field) (w : Instant) (row : Row) (t : Instant) : Prop :=
  t.day.Comparable w.day ∧ row f.path.column = .text t.stored

/-- The column of the field holds a day in its stored form, or an instant of the day, which
compares with `w`. -/
def StoresDay (f : Field) (w : Day) (row : Row) (d : Day) : Prop :=
  d.Comparable w ∧ d.Unsigned ∧ (row f.path.column = .text d.stored ∨
    ∃ t : Instant, t.day = d ∧ t.KeepsDay ∧ row f.path.column = .text t.stored)

theorem compareCells_texts {c : Comparison} {s t : String} :
    compareCells c (.text s) (.ofDatum (.text t)) = .yes ↔
      c.holds (Cell.compareTexts s t) = true :=
  Truth.ofBool_eq_yes_iff

theorem compareCells_eq_texts {a b : String} :
    compareCells .eq (.text a) (.ofDatum (.text b)) = .yes ↔ a = b := by
  rw [compareCells_texts, Cell.compareTexts]
  by_cases h : a = b
  · simp [h, Comparison.holds]
  · rw [if_neg h]
    split <;> simp [h, Comparison.holds]

section Stored

variable {f : Field} {row : Row} {c : Comparison}

theorem compares_instant {t w : Instant} (hk : f.kind = .datetime)
    (ht : f.StoresInstant w row t) :
    compareCells c (f.comparedColumn.value row) (.ofDatum (.text w.stored)) = .yes ↔
      c.holds (t.order w) = true := by
  rw [value_of_datetime hk, ht.2, compareCells_texts, Instant.compareTexts_stored ht.1]

theorem compares_day {d w : Day} (hk : f.kind = .date) (hd : f.StoresDay w row d) :
    compareCells c (f.comparedColumn.value row) (.ofDatum (.text w.stored)) = .yes ↔
      c.holds (d.order w) = true := by
  obtain ⟨hcomparable, hd, hcell⟩ := hd
  have hvalue : f.comparedColumn.value row = .text d.stored := by
    have hday : f.comparedColumn.value row = (row f.path.column).day row.now := by
      simp [comparedColumn, Column.value, hk]
    rw [hday]
    rcases hcell with hcell | ⟨t, rfl, hkeeps, hcell⟩
    · rw [hcell, Cell.day_stored hd]
    · rw [hcell, Cell.day_stored_instant hd hkeeps]
  rw [hvalue, compareCells_texts, Day.compareTexts_stored hcomparable]

end Stored

/-! ## Filters -/

/-- A request becomes a filter that selects just the rows from which a row is reached whose stored
value is one that the request holds of, where all rows that are reached store one. -/
def SelectsBy {α : Type} (f : Field) (r : Request) (js : Joins) (table : String)
    (stores : Row → α → Prop) (holds : α → Prop) : Prop :=
  ∃ p q, f.predicate r = .ok p ∧ (Query.start js table).add p = .ok q ∧
    ∀ (tables : Tables) (row : Row),
      (∀ x ∈ js.reached tables table row f.path.relations, ∃ a, stores x a) →
      (q.selects tables row = true ↔
        ∃ x ∈ js.reached tables table row f.path.relations, ∃ a, stores x a ∧ holds a)

section Filters

variable {f : Field} {r : Request} {op : Operator} {c : Comparison} {js : Joins}
  {table target text : String}

theorem selectsBy_of_datum {α : Type} {stores : Row → α → Prop} {holds : α → Prop} {d : Datum}
    (hop : f.operator r.operator = .ok op) (hc : op.comparison? = some c)
    (hv : r.value? = some (.scalar (.text text)))
    (hw : js.walk table f.path.relations = .ok target) (hd : f.datum (.text text) = .ok d)
    (hcompares : ∀ x a, stores x a →
      (compareCells c (f.comparedColumn.value x) (.ofDatum d) = .yes ↔ holds a)) :
    f.SelectsBy r js table stores holds := by
  obtain ⟨p, q, hp, hq, hselects⟩ := selects_comparison hop hc hv hd hw
  refine ⟨p, q, hp, hq, fun tables row hstored => (hselects tables row).trans ?_⟩
  refine exists_congr fun x => and_congr_right fun hx => ⟨fun h => ?_, ?_⟩
  · obtain ⟨a, ha⟩ := hstored x hx
    exact ⟨a, ha, (hcompares x a ha).1 h⟩
  · rintro ⟨a, ha, h⟩
    exact (hcompares x a ha).2 h

/-- When comparisons of days and instants are chronological. Their texts compare as they do unless
their signs clash, and then the other way; a stored instant of the years 0 to 9999 is found in its
day just when it shows in it; and a filter that compares a column with a day or an instant selects
by the order of the stored day or instant to the one that is asked for, where their texts compare
so. -/
theorem comparisons_chronological (a b : Day) (s t : Instant) :
    (a.Comparable b → Cell.compareTexts a.stored b.stored = a.order b) ∧
    (a.Clash b → Cell.compareTexts a.stored b.stored = (a.order b).swap) ∧
    (s.day.Comparable t.day → Cell.compareTexts s.stored t.stored = s.order t) ∧
    (s.day.Clash t.day → Cell.compareTexts s.stored t.stored = (s.order t).swap) ∧
    (t.day.Unsigned → ∀ now,
      ((Cell.text t.stored).day now = .text t.day.stored ↔ t.KeepsDay)) ∧
    ∀ {f : Field} {r : Request} {op : Operator} {c : Comparison} {js : Joins}
      {table target text : String}, f.operator r.operator = .ok op → op.comparison? = some c →
      r.value? = some (.scalar (.text text)) → js.walk table f.path.relations = .ok target →
      (∀ w : Instant, f.kind = .datetime → Instant.read? text = some w →
        f.SelectsBy r js table (f.StoresInstant w) fun t => c.holds (t.order w) = true) ∧
      (∀ w : Day, f.kind = .date → Day.read? text = some w →
        f.SelectsBy r js table (f.StoresDay w) fun d => c.holds (d.order w) = true) := by
  refine ⟨Day.compareTexts_stored, Day.compareTexts_stored_of_clash, Instant.compareTexts_stored,
    Instant.compareTexts_stored_of_clash, fun ht now => Cell.day_stored_instant_iff ht, ?_⟩
  intro f r op c js table target text hop hc hv hw
  constructor
  · intro w hk hread
    have hd : f.datum (.text text) = .ok (.text w.stored) := by
      simp [datum, hk, Scalar.toInstant?, hread]
    exact selectsBy_of_datum hop hc hv hw hd fun x t ht => compares_instant hk ht
  · intro w hk hread
    have hd : f.datum (.text text) = .ok (.text w.stored) := by
      simp [datum, hk, Scalar.toDay?, hread]
    exact selectsBy_of_datum hop hc hv hw hd fun x d hd => compares_day hk hd

/-- A leap second that is asked for in a zone an hour ahead comes behind the 59th second and its
fraction, and is not found in its day; the second before it is. -/
theorem comparisons_chronological_leap_second :
    ∃ t w : Instant, Instant.read? "2016-12-31 23:59:59.25" = some t ∧
      Instant.read? "2017-01-01T00:59:60+01:00" = some w ∧
      Cell.compareTexts t.day.stored w.day.stored = .eq ∧
      Cell.compareTexts t.stored w.stored = .lt ∧
      (∀ now, (Cell.text w.stored).day now ≠ .text w.day.stored) ∧
      (∃ p q, (ofKind "paid_at" .datetime).predicate ⟨"paid_at", "lessThan",
          some (.scalar (.text "2017-01-01T00:59:60+01:00"))⟩ = .ok p ∧
        (Query.start .empty "invoices").add p = .ok q ∧ ∀ tables (row : Row),
          row "paid_at" = .text t.stored → q.selects tables row = true) ∧
      ∃ p q, (ofKind "issued_at" .date).predicate ⟨"issued_at", "equals",
          some (.scalar (.text "2016-12-31"))⟩ = .ok p ∧
        (Query.start .empty "invoices").add p = .ok q ∧ ∀ tables (row : Row),
          row "issued_at" = .text t.stored → q.selects tables row = true := by
  obtain ⟨t, w, ht, hw, hdate, hcomparable, hkeeps, hleap, hsame, hbefore⟩ :
      ∃ t w : Instant, Instant.read? "2016-12-31 23:59:59.25" = some t ∧
        Instant.read? "2017-01-01T00:59:60+01:00" = some w ∧
        Day.read? "2016-12-31" = some t.day ∧ t.day.Comparable w.day ∧
        (t.day.Unsigned ∧ t.KeepsDay) ∧ ¬w.KeepsDay ∧ t.day = w.day ∧ t.order w = .lt :=
    ⟨_, _, rfl, rfl, rfl, by decide, by decide, by decide, by decide, by decide⟩
  obtain ⟨hdays, -, hinstants, -, hfound, hfilters⟩ := comparisons_chronological t.day w.day t w
  refine ⟨t, w, ht, hw, ?_, ?_, ?_, ?_, ?_⟩
  · rw [hdays hcomparable, hsame, Day.order_self]
  · rw [hinstants hcomparable, hbefore]
  · exact fun now hday => hleap ((hfound (hsame ▸ hkeeps.1) now).1 hday)
  · obtain ⟨p, q, hp, hq, h⟩ := (@hfilters (ofKind "paid_at" .datetime) ⟨"paid_at", "lessThan",
      some (.scalar (.text "2017-01-01T00:59:60+01:00"))⟩ .below .lt .empty "invoices" "invoices" _
      rfl rfl rfl rfl).1 w rfl hw
    refine ⟨p, q, hp, hq, fun tables row hrow => ?_⟩
    have hstores : (ofKind "paid_at" .datetime).StoresInstant w row t := ⟨hcomparable, hrow⟩
    exact (h tables row fun x hx => ⟨t, List.mem_singleton.1 hx ▸ hstores⟩).2
      ⟨row, List.mem_singleton_self row, t, hstores, congrArg Comparison.lt.holds hbefore⟩
  · obtain ⟨p, q, hp, hq, h⟩ := (@hfilters (ofKind "issued_at" .date) ⟨"issued_at", "equals",
      some (.scalar (.text "2016-12-31"))⟩ .equals .eq .empty "invoices" "invoices" _
      rfl rfl rfl rfl).2 t.day rfl hdate
    refine ⟨p, q, hp, hq, fun tables row hrow => ?_⟩
    have hstores : (ofKind "issued_at" .date).StoresDay t.day row t.day :=
      ⟨.inl rfl, hkeeps.1, .inr ⟨t, rfl, hkeeps.2, hrow⟩⟩
    exact (h tables row fun x hx => ⟨t.day, List.mem_singleton.1 hx ▸ hstores⟩).2
      ⟨row, List.mem_singleton_self row, t.day, hstores,
        congrArg Comparison.eq.holds (Day.order_self t.day)⟩

/-- A year past 9999 is written with a sign, which comes before all digits: an instant of the year
2025 is not found before one of the year 10000. -/
theorem five_digit_year_compares_first :
    ∃ t w : Instant, Instant.read? "2025-01-15 10:00:00" = some t ∧
      Instant.read? "+10000-01-01" = some w ∧ t.before w ∧
      Cell.compareTexts t.day.stored w.day.stored = .gt ∧
      Cell.compareTexts t.stored w.stored = .gt ∧
      ∃ p q, (ofKind "paid_at" .datetime).predicate ⟨"paid_at", "lessThan",
          some (.scalar (.text "+10000-01-01"))⟩ = .ok p ∧
        (Query.start .empty "invoices").add p = .ok q ∧ ∀ tables (row : Row),
          row "paid_at" = .text t.stored → q.selects tables row = false := by
  obtain ⟨t, w, ht, hw, hbefore, hdays, hinstants⟩ :
      ∃ t w : Instant, Instant.read? "2025-01-15 10:00:00" = some t ∧
        Instant.read? "+10000-01-01" = some w ∧ t.before w ∧
        Cell.compareTexts t.day.stored w.day.stored = .gt ∧
        Cell.compareTexts t.stored w.stored = .gt :=
    ⟨_, _, rfl, rfl, by decide, by decide +kernel, by decide +kernel⟩
  have hd : (ofKind "paid_at" .datetime).datum (.text "+10000-01-01") = .ok (.text w.stored) := by
    simp [datum, ofKind, Scalar.toInstant?, hw]
  obtain ⟨p, q, hp, hq, h⟩ := @selects_comparison (ofKind "paid_at" .datetime) .below .lt
    ⟨"paid_at", "lessThan", some (.scalar (.text "+10000-01-01"))⟩ (.text "+10000-01-01")
    (.text w.stored) .empty "invoices" "invoices" rfl rfl rfl hd rfl
  refine ⟨t, w, ht, hw, hbefore, hdays, hinstants, p, q, hp, hq, fun tables row hrow => ?_⟩
  rw [Bool.eq_false_iff, Ne, h]
  rintro ⟨x, hx, hlt⟩
  obtain rfl := List.mem_singleton.1 hx
  have hvalue : (ofKind "paid_at" .datetime).comparedColumn.value x = .text t.stored := hrow
  rw [hvalue, compareCells_texts, hinstants] at hlt
  cases hlt

end Filters

end Field

end RowSieve.Filter
