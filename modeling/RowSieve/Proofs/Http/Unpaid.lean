/-
Invoices that are not paid. In the store they hold a text that marks no instant, and they are shown
without one. The tests for null take the mark for null; every other filter on instants compares the
text, so that `notEquals`, `notIn` and an order that the text stands in select invoices that are
shown as not paid. No other filter tells the mark from null, also not across relations, unless rows
are joined by the marked column.
-/
import RowSieve.Proofs.Filter.Absence
import RowSieve.Proofs.Http.Shown

namespace RowSieve.Http

open RowSieve.Filter (Catalog Field Operand Operator Predicate Request)
open RowSieve.Invoice (Search)
open RowSieve.Sql
open RowSieve.Store (Database Handle NewInvoice)

/-- An invoice that is sent and not paid. -/
def unpaid : NewInvoice := ⟨7, "A-7", none, "S", .zero, "2025-01-31 10:00:00", none, false⟩

/-- Of an invoice that is shown without an instant of payment the mark is stored. -/
theorem paidAt_of_shown {db : Database} {i : Store.Invoice}
    (h : shown db i "paid_at" = some .null) : i.cell "paid_at" = .mark := by
  rw [shown_paidAt] at h
  by_cases hi : i.paidAt = Calendar.noInstant
  · show Cell.text i.paidAt = .text Calendar.noInstant
    rw [hi]
  · rw [if_neg hi] at h
    cases h

/-- What an accepted request for the instant of payment selects of the invoices that are shown
without one. -/
theorem mem_selection_of_shown {s : Search} {db : Database} {now : Int} {f : Field} {r : Request}
    {op : Operator} {value : Operand} {rows : List Store.Invoice} {i : Store.Invoice}
    (hk : f.kind = .datetime) (hpath : f.path = ⟨[], "paid_at"⟩)
    (hf : s.catalog.resolve r.key = .ok f) (hop : f.operator r.operator = .ok op)
    (hv : f.operand op r.value? = .ok value) (hrows : s.selection db now r = .ok rows)
    (hi : i ∈ db.invoices) (hshown : shown db i "paid_at" = some .null) :
    i ∈ rows ↔ op = .isNull ∨ f.TellsApart op r.value? := by
  have hp : s.catalog.predicate r = .ok (f.placed op value) :=
    (Catalog.predicate_of_resolve hf).trans (Field.predicate_eq_ok.2 ⟨op, value, hop, hv, rfl⟩)
  obtain ⟨rows', hrows', hmem⟩ := Search.selection_of_predicate db now hp
  obtain rfl : rows = rows' := Except.ok.inj (hrows.symm.trans hrows')
  have hrow : i.row now f.path.column = .mark := by
    rw [hpath]
    exact paidAt_of_shown hshown
  rw [hmem, and_iff_right hi]
  exact Field.eval_placed_of_mark hk (by rw [hpath]) (Field.operator_eq_ok.1 hop).2.2 hv hrow

/-- What takes the mark for null. For an accepted request on instants, when marks are replaced by
null the rows that are selected stay the same, if the filter does not tell the mark from null and no
rows are joined by its column but those that the last join leads to. If the filter does tell, the
mark in a row that is reached is selected by, and null in all of them is not. An invoice that is
shown without an instant of payment is selected by `isNull` and by just the filters on it that tell
the mark from null. -/
theorem mark_is_null_unless_told {f : Field} {r : Request} {p : Predicate} {js : Joins}
    {table target : String} (hk : f.kind = .datetime)
    (hw : js.walk table f.path.relations = .ok target) (hp : f.predicate r = .ok p) :
    ∃ op q, op.token = r.operator ∧ (Query.start js table).add p = .ok q ∧
      (¬ f.TellsApart op r.value? → js.Spares target f.path.column table f.path.relations →
        ∀ {tables tables' : Tables} {row row' : Row},
          ReplacesAll .mark .null target f.path.column tables tables' →
          Replaces .mark .null target f.path.column table row row' →
          q.selects tables' row' = q.selects tables row) ∧
      (f.TellsApart op r.value? → ∀ (tables : Tables) (row : Row),
        ((∃ x ∈ js.reached tables table row f.path.relations, x f.path.column = .mark) →
          q.selects tables row = true) ∧
        ((∀ x ∈ js.reached tables table row f.path.relations, x f.path.column = .null) →
          q.selects tables row = false)) ∧
      ∀ {s : Search} {db : Database} {now : Int} {rows : List Store.Invoice} {i : Store.Invoice},
        s.catalog.resolve r.key = .ok f → f.path = ⟨[], "paid_at"⟩ →
        s.selection db now r = .ok rows → i ∈ db.invoices → shown db i "paid_at" = some .null →
        (i ∈ rows ↔ op = .isNull ∨ f.TellsApart op r.value?) := by
  obtain ⟨op, value, hop, hv, rfl⟩ := Field.predicate_eq_ok.1 hp
  obtain ⟨htoken, -, hsupports⟩ := Field.operator_eq_ok.1 hop
  obtain ⟨q, hq⟩ := Query.exists_add (q := Query.start js table) (Field.covers_placed (f := f) hw)
  have hselects := Query.selects_of_start_add hq
  refine ⟨op, q, htoken, hq, ?_, ?_, ?_⟩
  · intro htells hspares tables tables' row row' hall hrow
    rw [Bool.eq_iff_iff, hselects, hselects]
    exact Field.eval_placed_replaced hk hw hsupports hv htells hspares hall hrow
  · intro htells tables row
    rw [Bool.eq_false_iff, Ne, hselects]
    exact Field.eval_placed_of_tellsApart hk hw hsupports hv htells
  · intro s db now rows i hf hpath hrows hi hshown
    exact mem_selection_of_shown hk hpath hf hop hv hrows hi hshown

/-- An invoice shown without an instant of payment is found before the middle of January. -/
theorem mark_is_null_unless_told_below : ∃ (db : Database) (i : Store.Invoice),
    (Handle.opened .empty).after [.add (.invoice unpaid)] = .opened db ∧ i ∈ db.invoices ∧
    shown db i "paid_at" = some .null ∧ ∀ now, ∃ rows,
      Search.served.selection db now
        ⟨"paid_at", "lessThan", some (.scalar (.text "2025-01-15"))⟩ = .ok rows ∧ i ∈ rows := by
  let stored : Database := ⟨[], [], [unpaid.invoice], []⟩
  obtain ⟨t, ht, hyear⟩ : ∃ t, Instant.read? "2025-01-15" = some t ∧ t.day.Unsigned :=
    ⟨_, rfl, by decide⟩
  let r : Request := ⟨"paid_at", "lessThan", some (.scalar (.text "2025-01-15"))⟩
  have hf : Search.served.catalog.resolve r.key = .ok (.ofKind "paid_at" .datetime) :=
    resolve_standard rfl rfl
  obtain ⟨p, hp⟩ : ∃ p, (Field.ofKind "paid_at" .datetime).predicate r = .ok p := ⟨_, rfl⟩
  have hw : Joins.empty.walk "invoices" (Field.ofKind "paid_at" .datetime).path.relations =
    .ok "invoices" := rfl
  obtain ⟨op, q, htoken, -, -, -, hselects⟩ := mark_is_null_unless_told rfl hw hp
  obtain rfl : op = .below := Operator.token_inj htoken
  refine ⟨stored, unpaid.invoice, rfl, List.mem_singleton_self _, rfl, fun now => ?_⟩
  obtain ⟨rows, hrows, -⟩ := Search.selection_of_predicate stored now
    ((Catalog.predicate_of_resolve hf).trans hp)
  exact ⟨rows, hrows, (hselects hf rfl hrows (List.mem_singleton_self _) rfl).2
    (.inr (.inr ⟨_, t, rfl, ht, hyear⟩))⟩

/-! ## Marks that are told from null -/

/-- A step that the row before it leads to when both hold the mark. -/
theorem joined_by_mark : ∃ (js : Joins) (p : Predicate) (q : Query) (tables tables' : Tables)
    (row row' : Row), js.walk "steps" ["next"] = .ok "steps" ∧
    (Field.ofKind "next.at" .datetime).predicate ⟨"next.at", "isNotNull", none⟩ = .ok p ∧
    (Query.start js "steps").add p = .ok q ∧
    ReplacesAll .mark .null "steps" "at" tables tables' ∧
    Replaces .mark .null "steps" "at" "steps" row row' ∧
    q.selects tables row = true ∧ q.selects tables' row' = false := by
  let js : Joins := .add .empty "steps" "next" ⟨"steps", "at", "previous"⟩
  let first (c : Cell) : Row := ⟨fun name => if name = "at" then c else .null, 0⟩
  let second : Row :=
    ⟨fun name => if name = "at" then .text "2025-01-15 10:00:00" else .mark, 0⟩
  let tables (c : Cell) : Tables := fun table => if table = "steps" then [first c, second] else []
  have hfirst : Replaces .mark .null "steps" "at" "steps" (first .mark) (first .null) := by
    intro c
    by_cases hc : c = "at"
    · subst hc
      exact .inr ⟨⟨rfl, rfl⟩, rfl, rfl⟩
    · exact .inl (by simp [first, hc])
  have hall : ReplacesAll .mark .null "steps" "at" (tables .mark) (tables .null) := by
    intro table
    by_cases htable : table = "steps"
    · subst htable
      exact .cons hfirst (.cons (fun c => .inl rfl) .nil)
    · simp [tables, htable]
  have hp : (Field.ofKind "next.at" .datetime).predicate ⟨"next.at", "isNotNull", none⟩ =
    .ok (.having "next" (.isNull ⟨"at", false⟩ true (some (.text Calendar.noInstant)))) := rfl
  exact ⟨js, _, _, tables .mark, tables .null, first .mark, first .null, rfl, hp, rfl, hall, hfirst,
    by decide +kernel, by decide +kernel⟩

/-- The mark is told from null. An invoice that is shown without an instant of payment is found by
comparisons with one, and where rows are joined by a column that holds the mark they are not joined
by null. -/
theorem mark_is_told_from_null :
    (∃ (db : Database) (i : Store.Invoice),
      (Handle.opened .empty).after [.add (.invoice unpaid)] = .opened db ∧ i ∈ db.invoices ∧
      shown db i "paid_at" = some .null ∧
      ∀ r ∈ [⟨"paid_at", "lessThan", some (.scalar (.text "2025-01-15"))⟩,
          ⟨"paid_at", "greaterThan", some (.scalar (.text "+10000-01-01"))⟩,
          ⟨"paid_at", "notEquals", some (.scalar (.text "2025-01-15"))⟩,
          (⟨"paid_at", "notIn", some (.list [.text "2025-01-15"])⟩ : Request)],
        ∀ now, ∃ rows, Search.served.selection db now r = .ok rows ∧ i ∈ rows) ∧
    ∃ (js : Joins) (p : Predicate) (q : Query) (tables tables' : Tables) (row row' : Row),
      js.walk "steps" ["next"] = .ok "steps" ∧
      (Field.ofKind "next.at" .datetime).predicate ⟨"next.at", "isNotNull", none⟩ = .ok p ∧
      (Query.start js "steps").add p = .ok q ∧
      ReplacesAll .mark .null "steps" "at" tables tables' ∧
      Replaces .mark .null "steps" "at" "steps" row row' ∧
      q.selects tables row = true ∧ q.selects tables' row' = false := by
  refine ⟨?_, joined_by_mark⟩
  let stored : Database := ⟨[], [], [unpaid.invoice], []⟩
  have hpath : (Field.ofKind "paid_at" .datetime).path = ⟨[], "paid_at"⟩ := rfl
  have hlocal : (Field.ofKind "paid_at" .datetime).path.relations = [] := by rw [hpath]
  refine ⟨stored, unpaid.invoice, rfl, List.mem_singleton_self _, rfl, ?_⟩
  have hfound (r : Request) (op : Operator) (value : Operand) (hkey : r.key = "paid_at")
      (hop : (Field.ofKind "paid_at" .datetime).operator r.operator = .ok op)
      (hv : (Field.ofKind "paid_at" .datetime).operand op r.value? = .ok value)
      (htells : (Field.ofKind "paid_at" .datetime).TellsApart op r.value?) :
      ∀ now, ∃ rows, Search.served.selection stored now r = .ok rows ∧ unpaid.invoice ∈ rows := by
    intro now
    have hf : Search.served.catalog.resolve r.key = .ok (.ofKind "paid_at" .datetime) := by
      rw [hkey]
      exact resolve_standard rfl rfl
    obtain ⟨rows, hrows, -⟩ := Search.selection_of_predicate stored now
      ((Catalog.predicate_of_resolve hf).trans (Field.predicate_eq_ok.2 ⟨op, value, hop, hv, rfl⟩))
    exact ⟨rows, hrows, (mem_selection_of_shown rfl hpath hf hop hv hrows
      (List.mem_singleton_self _) rfl).2 (.inr htells)⟩
  obtain ⟨t, ht, hyear⟩ : ∃ t, Instant.read? "2025-01-15" = some t ∧ t.day.Unsigned :=
    ⟨_, rfl, by decide⟩
  obtain ⟨w, hw, hyear'⟩ : ∃ w, Instant.read? "+10000-01-01" = some w ∧
      ¬ w.day.Unsigned := ⟨_, rfl, by decide⟩
  intro r hr
  simp only [List.mem_cons, List.not_mem_nil, or_false] at hr
  rcases hr with rfl | rfl | rfl | rfl
  · exact hfound _ .below _ rfl rfl rfl (.inr ⟨_, t, rfl, ht, hyear⟩)
  · exact hfound _ .above _ rfl rfl rfl (.inr ⟨_, w, rfl, hw, hyear'⟩)
  · exact hfound _ .notEquals _ rfl rfl rfl (.inl ⟨hlocal, .inl rfl⟩)
  · exact hfound _ .notAmong _ rfl rfl rfl (.inl ⟨hlocal, .inr rfl⟩)

end RowSieve.Http
