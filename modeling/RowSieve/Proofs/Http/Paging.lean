/-
Paging through a listing. A page shows its stretch of all that the query lists, pages one behind
another show a front part of it, and the number of pages is the quotient rounded up; so no row is
lost and none is shown twice.
-/
import Mathlib.Algebra.Order.Floor.Div
import RowSieve.Http.Router
import RowSieve.Proofs.Invoice.Outline
import RowSieve.Proofs.Store.Listing

namespace RowSieve.Http

open RowSieve.Filter (Request)
open RowSieve.Invoice (Search)
open RowSieve.Sql (Query)
open RowSieve.Store (Database Engine Handle InvoiceRow)

/-! ## Stretches of a list -/

namespace Page

variable {α : Type}

/-- The stretch of a list that a page shows. -/
def stretch (p : Page) (rows : List α) : List α :=
  (rows.drop ((p.number - 1) * p.limit)).take p.limit

/-- The first pages one behind another. -/
def upTo (pages limit : Nat) (rows : List α) : List α :=
  (List.range pages).flatMap fun k => stretch ⟨k + 1, limit⟩ rows

theorem count_eq_ceilDiv {p : Page} (h : 1 ≤ p.limit) (items : Nat) :
    p.count items = items ⌈/⌉ p.limit := by
  rw [count, Nat.max_eq_left h, Nat.ceilDiv_eq_add_pred_div]

theorem upTo_eq_take (pages limit : Nat) (rows : List α) :
    upTo pages limit rows = rows.take (pages * limit) := by
  induction pages with
  | zero => simp [upTo]
  | succ n ih =>
    have hsucc : upTo (n + 1) limit rows = upTo n limit rows ++ stretch ⟨n + 1, limit⟩ rows := by
      simp [upTo, List.range_succ]
    rw [hsucc, ih, Nat.succ_mul, List.take_add]
    rfl

theorem length_le_ceilDiv_mul {limit : Nat} (h : 1 ≤ limit) (rows : List α) :
    rows.length ≤ (rows.length ⌈/⌉ limit) * limit := by
  rw [Nat.mul_comm]
  exact le_smul_ceilDiv (Nat.pos_of_ne_zero (by omega))

theorem stretch_eq_nil {limit p : Nat} (h : 1 ≤ limit) {rows : List α}
    (hp : rows.length ⌈/⌉ limit < p) : stretch ⟨p, limit⟩ rows = [] := by
  have hlen := length_le_ceilDiv_mul h rows
  have hmul : (rows.length ⌈/⌉ limit) * limit ≤ (p - 1) * limit :=
    Nat.mul_le_mul_right _ (by omega)
  rw [stretch, List.drop_eq_nil_of_le (by simpa using hlen.trans hmul), List.take_nil]

end Page

/-! ## Orders of listings -/

theorem column_mem_of_readOrder {orderBy? : Option String} {o : Order}
    (h : readOrder orderBy? = .ok o) : o.column ∈ Invoice.orderColumns := by
  cases orderBy? with
  | none => cases h; decide
  | some text => exact Order.column_mem_of_read h

/-! ## Pages of a listing -/

section Listing

variable {db : Database} {engine : Engine} {s : Search} {rs : List Request} {q : Query} {o : Order}

section Requests

variable {server : Server} {pairs : List (String × String)} {params : ListParams}

/-- The answer to a request for a page is made of the page and of the number of all rows, if both
statements are carried out. -/
theorem listInvoices_eq (hstore : server.store = .opened db)
    (hparams : readListParams pairs = .ok params)
    (hintake : Filter.intake server.limits pairs = .ok rs)
    (ho : readOrder params.orderBy? = .ok o) (hq : server.search.query rs = .ok q) :
    listInvoices server pairs =
      match db.count server.engine q,
        db.list server.engine q o params.page.limit params.page.offset with
      | .ok total, .ok rows => .ok (pageJson rows params.page total)
      | _, _ => .error (.internal "Database operation failed") := by
  unfold listInvoices
  rw [hparams, hintake]
  simp only [bind, Except.bind, Except.mapError, ho, hq, hstore, Handle.ask]
  cases db.count server.engine q with
  | error _ => rfl
  | ok _ => cases db.list server.engine q o params.page.limit params.page.offset <;> rfl

/-- The page is a stretch of all that the query lists, unless the store refuses a statement. -/
theorem listInvoices_eq_stretch (hstore : server.store = .opened db)
    (hparams : readListParams pairs = .ok params)
    (hintake : Filter.intake server.limits pairs = .ok rs)
    (ho : readOrder params.orderBy? = .ok o) (hq : server.search.query rs = .ok q) :
    let rows := db.listing server.engine.now q o
    listInvoices server pairs =
      match db.refuse server.engine (.count q),
        db.refuse server.engine (.list q o params.page.limit params.page.offset) with
      | .ok _, .ok _ => .ok (pageJson (params.page.stretch rows) params.page rows.length)
      | _, _ => .error (.internal "Database operation failed") := by
  rw [listInvoices_eq hstore hparams hintake ho hq]
  cases hcount : db.refuse server.engine (.count q) with
  | error fault => rw [Database.count_of_refuse hcount]
  | ok _ =>
    rw [Database.count_eq hcount]
    cases hlist : db.refuse server.engine (.list q o params.page.limit params.page.offset) with
    | error fault => rw [Database.list_of_refuse hlist]
    | ok _ =>
      rw [Database.list_eq hlist]
      rfl

end Requests

/-- Paging neither loses nor repeats a row. For a store that insertions lead to there is one
listing. It is what is counted, and each page shows its stretch of it, whenever the statements are
carried out; pages beyond the last show nothing. The pages that can be asked for, one behind
another, show a front part without repetition, and all of it when there are no more pages. An
answer to a request is such a page, or tells that the store has failed when a statement is
refused. -/
theorem pages_partition_listing (engine : Engine) (hdb : db.Reachable) (hq : s.query rs = .ok q)
    {orderBy? : Option String} (ho : readOrder orderBy? = .ok o) {limit : Nat}
    (hl : 1 ≤ limit ∧ limit ≤ maxLimit) :
    (∃! rows, db.IsListing engine.now q o rows) ∧ ∀ rows, db.IsListing engine.now q o rows →
      let pages := rows.length ⌈/⌉ limit
      let shown := Page.upTo (min maxPage pages) limit rows
      (db.refuse engine (.count q) = .ok () → db.count engine q = .ok rows.length) ∧
      (∀ p, (Page.mk p limit).count rows.length = pages) ∧
      (∀ p, 1 ≤ p → p ≤ maxPage →
        db.refuse engine (.list q o limit (Page.mk p limit).offset) = .ok () →
        db.list engine q o limit (Page.mk p limit).offset = .ok (Page.stretch ⟨p, limit⟩ rows)) ∧
      (∀ p, pages < p → Page.stretch ⟨p, limit⟩ rows = []) ∧
      shown <+: rows ∧ (shown.map (·.invoice.id)).Nodup ∧ (pages ≤ maxPage → shown = rows) ∧
      ∀ (server : Server) pairs params, server.store = .opened db → server.search = s →
        server.engine = engine → readListParams pairs = .ok params →
        Filter.intake server.limits pairs = .ok rs → params.orderBy? = orderBy? →
        params.page.limit = limit →
        listInvoices server pairs =
          match db.refuse engine (.count q),
            db.refuse engine (.list q o limit params.page.offset) with
          | .ok _, .ok _ => .ok (pageJson (params.page.stretch rows) params.page rows.length)
          | _, _ => .error (.internal "Database operation failed") := by
  have hcolumn := column_mem_of_readOrder ho
  have hlisting : db.IsListing engine.now q o (db.listing engine.now q o) :=
    Database.isListing_listing hdb.keyed hcolumn hq
  refine ⟨⟨_, hlisting, fun rows h => h.unique hcolumn hlisting⟩, fun rows h => ?_⟩
  obtain rfl := h.unique hcolumn hlisting
  have hfront : Page.upTo (min maxPage ((db.listing engine.now q o).length ⌈/⌉ limit)) limit
      (db.listing engine.now q o) <+: db.listing engine.now q o := by
    rw [Page.upTo_eq_take]
    exact List.take_prefix _ _
  refine ⟨Database.count_eq, fun p => Page.count_eq_ceilDiv hl.1 _, fun p _ _ => Database.list_eq,
    fun p => Page.stretch_eq_nil hl.1, hfront, ?_, fun hpages => ?_, ?_⟩
  · exact (Database.nodup_listing hdb.keyed).sublist (hfront.sublist.map _)
  · rw [Page.upTo_eq_take, Nat.min_eq_right hpages]
    exact List.take_of_length_le (Page.length_le_ceilDiv_mul hl.1 _)
  · rintro server pairs params hstore rfl rfl hparams hintake rfl rfl
    exact listInvoices_eq_stretch hstore hparams hintake ho hq

/-- An invoice over nothing. -/
def tiedInvoice (id : Int) (number status : String) : Store.Invoice :=
  ⟨id, number, none, status, .zero, "2025-01-15 09:00:00", Calendar.noInstant, false⟩

/-- Three invoices with one total, the first two in the wrong order. -/
def tiedStore : Database :=
  ⟨[], [], [tiedInvoice 2 "B" "S", tiedInvoice 1 "A" "D", tiedInvoice 3 "C" "V"], []⟩

theorem reachable_tiedStore : tiedStore.Reachable :=
  ((Database.Reachable.empty.insert (.invoice (tiedInvoice 2 "B" "S")) rfl).insert
    (.invoice (tiedInvoice 1 "A" "D")) rfl).insert (.invoice (tiedInvoice 3 "C" "V")) rfl

/-- Rows with one total are listed by number, and two pages of one row show both that are not
void, if nothing keeps the statements from being carried out. -/
theorem pages_partition_listing_ties : ∃ (s : Search) (q : Query) (rows : List InvoiceRow),
    tiedStore.Reachable ∧
    s.query [⟨"status", "notEquals", some (.scalar (.text "void"))⟩] = .ok q ∧
    tiedStore.IsListing 0 q ⟨"total_amount", .falling⟩ rows ∧ rows.map (·.invoice.id) = [1, 2] ∧
    tiedStore.count (.untroubled 0) q = .ok 2 ∧
    tiedStore.list (.untroubled 0) q ⟨"total_amount", .falling⟩ 1 1 = .ok (rows.drop 1) ∧
    Page.upTo (min maxPage 2) 1 rows = rows := by
  have ho : readOrder (some "total_amount") = .ok ⟨"total_amount", .falling⟩ := rfl
  obtain ⟨s, q, hq, hcount, hlist, hrows⟩ : ∃ (s : Search) (q : Query),
      s.query [⟨"status", "notEquals", some (.scalar (.text "void"))⟩] = .ok q ∧
      q.refuse false = .ok () ∧ q.refuse true = .ok () ∧
      (tiedStore.joined.filter fun r => Sql.truthOfClause? q.whereClause q.params
        (tiedStore.tables 0) (r.1.row 0) = some .yes) =
          [(tiedInvoice 2 "B" "S", none), (tiedInvoice 1 "A" "D", none)] :=
    ⟨⟨⟨[(Filter.Field.ofKind "status" .choice).labelled Invoice.statusLabels], rfl⟩,
      Invoice.joins, rfl⟩, _, rfl, by decide +kernel, by decide +kernel, by decide +kernel⟩
  have hprecedes : Store.Precedes ⟨"total_amount", .falling⟩ (tiedInvoice 1 "A" "D")
      (tiedInvoice 2 "B" "S") := ⟨.eq, by decide +kernel, .inr ⟨rfl, by decide⟩⟩
  have hlisting : tiedStore.IsListing 0 q ⟨"total_amount", .falling⟩
      [⟨tiedInvoice 1 "A" "D", none, 0⟩, ⟨tiedInvoice 2 "B" "S", none, 0⟩] :=
    ⟨by rw [hrows]; exact .swap _ _ [], List.pairwise_pair.2 hprecedes⟩
  obtain ⟨htotal, -, hpages, -, -, -, hall, -⟩ :=
    (pages_partition_listing (.untroubled 0) reachable_tiedStore hq ho
      ⟨le_rfl, by decide⟩).2 _ hlisting
  refine ⟨s, q, _, reachable_tiedStore, hq, hlisting, rfl, htotal ?_, ?_, hall (by decide)⟩
  · exact (Database.refuse_untroubled _).trans hcount
  · exact hpages 2 (by decide) (by decide) ((Database.refuse_untroubled _).trans hlist)

/-- A filter that is accepted can ask for more than a statement can hold. One thousand and one
patterns that every number matches are neither counted nor listed, by whatever engine. -/
theorem listing_refused_beyond_limits : ∃ (s : Search) (q : Query),
    s.query [⟨"number", "contains", some (.list (List.replicate 1001 (.text "")))⟩] = .ok q ∧
    tiedStore.Reachable ∧ ∀ engine : Engine,
      tiedStore.IsListing engine.now q ⟨"id", .rising⟩
        (tiedStore.listing engine.now q ⟨"id", .rising⟩) ∧
      tiedStore.count engine q = .error .tooDeep ∧
      ∀ limit offset, tiedStore.list engine q ⟨"id", .rising⟩ limit offset = .error .tooDeep := by
  let s : Search := ⟨⟨[.ofKind "number" .text], rfl⟩, Invoice.joins, rfl⟩
  have hrefuse : ((s.query [⟨"number", "contains",
      some (.list (List.replicate 1001 (.text "")))⟩]).toOption.map
        fun q => (q.refuse true, q.refuse false)) =
      some (.error .tooDeep, .error .tooDeep) := by decide +kernel
  cases hq : s.query [⟨"number", "contains", some (.list (List.replicate 1001 (.text "")))⟩] with
  | error e => rw [hq] at hrefuse; cases hrefuse
  | ok q =>
    rw [hq] at hrefuse
    obtain ⟨hlist, hcount⟩ := Prod.mk.inj (Option.some.inj hrefuse)
    refine ⟨s, q, hq, reachable_tiedStore, fun engine => ⟨?_, ?_, fun limit offset => ?_⟩⟩
    · exact Database.isListing_listing reachable_tiedStore.keyed (by decide) hq
    · exact Database.count_of_refuse (Database.refuse_of_unfit hcount)
    · exact Database.list_of_refuse (Database.refuse_of_unfit hlist)

end Listing

end RowSieve.Http
