/-
What clients see of invoices is what they can find them by. The status, the number and the mark of
recurrence of an invoice, given back as the value of an `equals` filter, select the invoices that
show the same; and an instant of payment is shown exactly for the invoices that `isNotNull` selects.
-/
import RowSieve.Http.Router
import RowSieve.Proofs.Filter.Chronology
import RowSieve.Proofs.Filter.Published
import RowSieve.Proofs.Invoice.Binding
import RowSieve.Proofs.Invoice.Intersection
import RowSieve.Proofs.Store.Calls

namespace RowSieve.Invoice

open RowSieve.Filter (Catalog Field Predicate Request Scalar)
open RowSieve.Sql

namespace Search

/-- The invoices that one filter selects at a moment. -/
def selection (s : Search) (db : Store.Database) (now : Int) (r : Request) :
    Except Filter.Error (List Store.Invoice) := (s.query [r]).map (db.selected now)

section Selection

variable {s : Search} {r : Request}

theorem selection_of_predicate (db : Store.Database) (now : Int) {p : Predicate}
    (h : s.catalog.predicate r = .ok p) :
    ∃ rows, s.selection db now r = .ok rows ∧ ∀ j, j ∈ rows ↔
      j ∈ db.invoices ∧ p.eval s.joins (db.tables now) tableName (j.row now) = .yes := by
  obtain ⟨q, hq⟩ := query_singleton_ok_iff.2 ⟨p, h⟩
  have hsays := says_of_query hq (Catalog.predicates_singleton_eq_ok.2 ⟨p, h, rfl⟩)
  refine ⟨db.selected now q, by rw [selection, hq]; rfl, fun j => ?_⟩
  rw [mem_selected, selects_iff hsays, List.forall_mem_singleton]

/-- A scalar given to `equals` on a column of the row itself is looked for in that column. -/
theorem selection_equals (db : Store.Database) (now : Int) {f : Field} {x : Scalar} {d : Datum}
    (hf : s.catalog.resolve r.key = .ok f) (hlocal : f.path.relations = [])
    (hop : f.operator r.operator = .ok .equals) (hv : r.value? = some (.scalar x))
    (hd : f.datum x = .ok d) :
    ∃ rows, s.selection db now r = .ok rows ∧
      ∀ j, j ∈ rows ↔ j ∈ db.invoices ∧
        compareCells .eq (f.comparedColumn.value (j.row now)) (.ofDatum d) = .yes := by
  have hoperand : f.operand .equals r.value? = .ok (.one d) := by
    rw [hv, Field.operand_one rfl hd]
  have hp : s.catalog.predicate r = .ok (f.comparisons .eq (.one d)) := by
    rw [Catalog.predicate_of_resolve hf, Field.predicate_eq_ok]
    refine ⟨_, _, hop, hoperand, ?_⟩
    rw [Field.placed_one rfl, hlocal, Predicate.reach]
  obtain ⟨rows, hrows, hmem⟩ := selection_of_predicate db now hp
  refine ⟨rows, hrows, fun j => ?_⟩
  rw [hmem, Field.eval_comparisons_one]

theorem selection_sublist {db : Store.Database} {now : Int} {rows : List Store.Invoice}
    (h : s.selection db now r = .ok rows) : rows.Sublist db.invoices := by
  obtain ⟨q, -, rfl⟩ := Filter.map_eq_ok.1 h
  exact List.filter_sublist

end Selection

end Search

end RowSieve.Invoice

namespace RowSieve.Http

open RowSieve.Filter (Catalog Field Request Scalar)
open RowSieve.Invoice (Search)
open RowSieve.Sql
open RowSieve.Store (Call Database Handle NewInvoice)

/-- What a listing shows of an invoice under a name. -/
def shown (db : Database) (i : Store.Invoice) (name : String) : Option Json :=
  (invoiceJson (db.invoiceRow i)).member? name

section Shown

variable {db : Database} {i : Store.Invoice}

theorem shown_number : shown db i "number" = some (.text i.number) := rfl

theorem shown_status : shown db i "status" = some (.text (Invoice.statusLabel i.status)) := rfl

theorem shown_isRecurring : shown db i "is_recurring" = some (.bool i.isRecurring) := rfl

theorem shown_paidAt : shown db i "paid_at" =
    some (if i.paidAt = Calendar.noInstant then .null else .text i.paidAt) := rfl

/-- The labels of stored codes are told apart, and stand for their codes. -/
theorem statusLabel_facts : ∀ a ∈ ["D", "S", "P", "V"],
    Invoice.statusLabels.code? (Invoice.statusLabel a) = some a ∧
      ∀ b ∈ ["D", "S", "P", "V"], Invoice.statusLabel b = Invoice.statusLabel a → b = a := by
  decide

end Shown

section Selection

variable {s : Search} {db : Database} {now : Int}

theorem resolve_standard (hs : s.catalog.fields = Invoice.fields) {key : String} {f : Field}
    (hf : Invoice.fields.find? (·.key == key) = some f) : s.catalog.resolve key = .ok f := by
  unfold Catalog.resolve Catalog.find?
  rw [hs, hf]

/-- What is shown of an invoice under a key, given back to `equals` as it is or as its text, selects
the invoices for which the same is shown. -/
def FindsShown (s : Search) (db : Database) (now : Int) (i : Store.Invoice) (key : String) : Prop :=
  ∃ v x, shown db i key = some v ∧ Scalar.ofJson? v = some x ∧
    ∀ given ∈ [x, .text x.asText], ∃ rows,
      s.selection db now ⟨key, "equals", some (.scalar given)⟩ = .ok rows ∧
      ∀ j, j ∈ rows ↔ j ∈ db.invoices ∧ shown db j key = some v

theorem findsShown_of_field {i : Store.Invoice} {f : Field} {key : String} {v : Json} {x : Scalar}
    {d : Datum} (hf : s.catalog.resolve key = .ok f) (hlocal : f.path.relations = [])
    (hop : f.operator "equals" = .ok .equals) (hv : shown db i key = some v)
    (hx : Scalar.ofJson? v = some x) (hd : f.datum x = .ok d)
    (htext : f.datum (.text x.asText) = .ok d)
    (hcell : ∀ j ∈ db.invoices,
      compareCells .eq (f.comparedColumn.value (j.row now)) (.ofDatum d) = .yes ↔
        shown db j key = some v) : FindsShown s db now i key := by
  refine ⟨v, x, hv, hx, fun given hgiven => ?_⟩
  have hgiven : f.datum given = .ok d := by
    rcases List.mem_pair.1 hgiven with rfl | rfl
    · exact hd
    · exact htext
  obtain ⟨rows, hrows, hmem⟩ := Search.selection_equals db now
    (r := ⟨key, "equals", some (.scalar given)⟩) hf hlocal hop rfl hgiven
  exact ⟨rows, hrows, fun j => (hmem j).trans (and_congr_right fun hj => hcell j hj)⟩

theorem findsShown_number (db : Database) (now : Int) (hs : s.catalog.fields = Invoice.fields)
    (i : Store.Invoice) : FindsShown s db now i "number" := by
  refine findsShown_of_field (resolve_standard hs rfl) rfl rfl shown_number rfl rfl rfl
    fun j _ => ?_
  show compareCells .eq (.text j.number) (.ofDatum (.text i.number)) = .yes ↔ _
  rw [Field.compareCells_eq_texts, shown_number]
  simp

theorem findsShown_status (hs : s.catalog.fields = Invoice.fields) (h : db.Sound)
    {i : Store.Invoice} (hi : i ∈ db.invoices) : FindsShown s db now i "status" := by
  obtain ⟨hcode, hinj⟩ := statusLabel_facts i.status (h.invoices i hi).status
  have hd : ((Field.ofKind "status" .choice).labelled Invoice.statusLabels).datum
      (.text (Invoice.statusLabel i.status)) = .ok (.text i.status) :=
    Field.datum_of_code rfl rfl hcode
  refine findsShown_of_field (resolve_standard hs rfl) rfl rfl shown_status rfl hd hd fun j hj => ?_
  show compareCells .eq (.text j.status) (.ofDatum (.text i.status)) = .yes ↔ _
  rw [Field.compareCells_eq_texts, shown_status]
  constructor
  · rintro hstatus
    rw [hstatus]
  · -- Two codes of one label would be found as one, so the codes of sound rows matter here.
    intro hlabel
    exact hinj j.status (h.invoices j hj).status (by simpa using hlabel)

theorem findsShown_isRecurring (hs : s.catalog.fields = Invoice.fields) (i : Store.Invoice) :
    FindsShown s db now i "is_recurring" := by
  have htext : (Field.ofKind "is_recurring" .boolean).datum
      (.text (Scalar.bool i.isRecurring).asText) = .ok (.bool i.isRecurring) := by
    cases i.isRecurring <;> rfl
  refine findsShown_of_field (resolve_standard hs rfl) rfl rfl shown_isRecurring rfl rfl htext
    fun j _ => ?_
  show compareCells .eq (.integer (if j.isRecurring then 1 else 0))
    (.ofDatum (.bool i.isRecurring)) = .yes ↔ _
  rw [shown_isRecurring]
  cases i.isRecurring <;> cases j.isRecurring <;> simp <;> decide

/-- An instant of payment is shown for the invoices that have one. -/
theorem selection_paidAt (hs : s.catalog.fields = Invoice.fields) : ∃ unpaid paid,
    s.selection db now ⟨"paid_at", "isNull", none⟩ = .ok unpaid ∧
    s.selection db now ⟨"paid_at", "isNotNull", none⟩ = .ok paid ∧
    ∀ i ∈ db.invoices, (i ∈ unpaid ↔ shown db i "paid_at" = some .null) ∧
      (i ∈ paid ↔ shown db i "paid_at" ≠ some .null) := by
  have hf : s.catalog.resolve "paid_at" = .ok (.ofKind "paid_at" .datetime) :=
    resolve_standard hs rfl
  have hpredicate : ∀ negated : Bool,
      s.catalog.predicate ⟨"paid_at", if negated then "isNotNull" else "isNull", none⟩ =
        .ok (.isNull ⟨"paid_at", false⟩ negated (some (.text Calendar.noInstant))) := by
    intro negated
    cases negated <;> exact (Catalog.predicate_of_resolve hf).trans rfl
  obtain ⟨unpaid, hunpaid, hmem⟩ := Search.selection_of_predicate db now (hpredicate false)
  obtain ⟨paid, hpaid, hmem'⟩ := Search.selection_of_predicate db now (hpredicate true)
  refine ⟨unpaid, paid, hunpaid, hpaid, fun i hi => ?_⟩
  -- The column is never null: the text that marks no instant stands for it in both tests.
  have hnull : nullCell (.text i.paidAt) (some (.ofDatum (.text Calendar.noInstant))) = .yes ↔
      i.paidAt = Calendar.noInstant := by
    rw [nullCell, Truth.or_eq_yes_iff, ← Field.compareCells_eq_texts]
    exact or_iff_right (fun h => by cases h)
  have hpresent : presentCell (.text i.paidAt) (some (.ofDatum (.text Calendar.noInstant))) =
      .yes ↔ i.paidAt ≠ Calendar.noInstant := by
    rw [show some (Cell.ofDatum (.text Calendar.noInstant)) =
      (Field.ofKind "paid_at" .datetime).sentinel?.map .ofDatum from rfl,
      Field.presentCell_eq_yes_iff]
    simp [Field.ofKind]
  rw [hmem, hmem', and_iff_right hi, and_iff_right hi, shown_paidAt]
  refine ⟨hnull.trans ?_, hpresent.trans ?_⟩ <;> by_cases h : i.paidAt = Calendar.noInstant <;>
    simp [h]

/-- No other invoice has the number of one. -/
theorem selection_number (hs : s.catalog.fields = Invoice.fields) (h : db.Sound)
    {i : Store.Invoice} (hi : i ∈ db.invoices) :
    s.selection db now ⟨"number", "equals", some (.scalar (.text i.number))⟩ = .ok [i] := by
  obtain ⟨v, x, hv, hx, hfinds⟩ := findsShown_number db now hs i
  obtain rfl := Option.some.inj (hv.symm.trans shown_number)
  obtain rfl := Option.some.inj hx
  obtain ⟨rows, hrows, hmem⟩ := hfinds _ List.mem_cons_self
  have honly : ∀ j, j ∈ rows ↔ j ∈ [i] := by
    intro j
    rw [hmem, List.mem_singleton, shown_number]
    constructor
    · rintro ⟨hj, hnumber⟩
      exact List.inj_on_of_nodup_map h.numbers hj hi (by simpa using hnumber)
    · rintro rfl
      exact ⟨hi, rfl⟩
  have hnodup : rows.Nodup := (h.numbers.of_map _).sublist (Search.selection_sublist hrows)
  rw [hrows, List.perm_singleton.1 ((List.perm_ext_iff_of_nodup hnodup
    (List.nodup_singleton i)).2 honly)]

/-- What a client sees is what it can filter by. In every store that calls lead to, an instant of
payment is shown for just the invoices that `isNotNull` selects and none for those that `isNull`
selects; the status, number and mark of recurrence that are shown of an invoice select it, and of
others those that show the same; and the number selects it alone; all this at any moment. -/
theorem shown_values_select (calls : List Call) (now : Int) : ∃ (db : Database) (s : Search),
    (Handle.opened .empty).after calls = .opened db ∧ Search.standard = .ok s ∧
    (∃ unpaid paid,
      s.selection db now ⟨"paid_at", "isNull", none⟩ = .ok unpaid ∧
      s.selection db now ⟨"paid_at", "isNotNull", none⟩ = .ok paid ∧
      ∀ i ∈ db.invoices, (i ∈ unpaid ↔ shown db i "paid_at" = some .null) ∧
        (i ∈ paid ↔ shown db i "paid_at" ≠ some .null)) ∧
    ∀ i ∈ db.invoices,
      (∀ key ∈ ["number", "status", "is_recurring"], FindsShown s db now i key) ∧
      ∃ number, shown db i "number" = some (.text number) ∧
        s.selection db now ⟨"number", "equals", some (.scalar (.text number))⟩ = .ok [i] := by
  obtain ⟨db, hafter, hdb⟩ := Handle.reachable_after .empty calls
  have hfields : Search.served.catalog.fields = Invoice.fields := rfl
  refine ⟨db, .served, hafter, Search.standard_eq_served, selection_paidAt hfields,
    fun i hi => ⟨fun key hkey => ?_, ?_⟩⟩
  · simp only [List.mem_cons, List.not_mem_nil, or_false] at hkey
    rcases hkey with rfl | rfl | rfl
    · exact findsShown_number db now hfields i
    · exact findsShown_status hfields hdb.sound hi
    · exact findsShown_isRecurring hfields i
  · exact ⟨i.number, shown_number, selection_number hfields hdb.sound hi⟩

/-- Of two invoices with one number only the first is stored, and by its number and the label of
its status it is found. -/
theorem shown_values_select_stored : ∃ (db : Database) (s : Search) (i : Store.Invoice),
    (Handle.opened .empty).after
      [.add (.invoice ⟨7, "A-7", none, "P", .zero, "2025-01-15 09:00:00", none, true⟩),
        .add (.invoice ⟨8, "A-7", none, "V", .zero, "2025-01-16 09:00:00", none, false⟩)] =
      .opened db ∧
    db.invoices = [i] ∧ shown db i "status" = some (.text "paid") ∧ ∀ now,
      FindsShown s db now i "status" ∧
      s.selection db now ⟨"number", "equals", some (.scalar (.text "A-7"))⟩ = .ok [i] := by
  let first : NewInvoice := ⟨7, "A-7", none, "P", .zero, "2025-01-15 09:00:00", none, true⟩
  let second : NewInvoice := ⟨8, "A-7", none, "V", .zero, "2025-01-16 09:00:00", none, false⟩
  let stored : Database := ⟨[], [], [first.invoice], []⟩
  have hstored : (Handle.opened .empty).after [.add (.invoice first), .add (.invoice second)] =
      .opened stored := rfl
  refine ⟨stored, .served, first.invoice, hstored, rfl, rfl, fun now => ?_⟩
  obtain ⟨db, s, hafter, hs, -, hfinds⟩ :=
    shown_values_select [.add (.invoice first), .add (.invoice second)] now
  cases hafter.symm.trans hstored
  cases hs.symm.trans Search.standard_eq_served
  obtain ⟨hshown, number, hnumber, hselects⟩ := hfinds first.invoice List.mem_cons_self
  cases hnumber.symm.trans shown_number
  exact ⟨hshown "status" (by decide), hselects⟩

end Selection

end RowSieve.Http
