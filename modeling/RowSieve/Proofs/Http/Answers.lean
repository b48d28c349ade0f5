/-
The answers to requests for a listing. A listing goes through its stages in order, and the first
that fails decides the answer, which puts the client at fault. When all have passed, only the
statements are left, and no page that has passed takes the number of rows before it beyond a word.
-/
import RowSieve.Proofs.Http.Paging
import RowSieve.Proofs.Invoice.Binding

namespace RowSieve.Http

open RowSieve.Filter (Catalog Request)
open RowSieve.Invoice (Search)
open RowSieve.Sql (Query)
open RowSieve.Store (Database)

/-! ## Stages -/

/-- A stage of a listing. The last one takes the filters one by one. -/
inductive Stage where
  | paging
  | filters
  | order
  | filter (r : Request)

section Stages

variable {s : Server} {pairs : List (String × String)} {params : ListParams} {rs : List Request}
variable {o : Order} {q : Query} {stage : Stage} {e : Error}

/-- The stage at which a listing fails, all earlier ones having passed, and the error there. -/
inductive FailsAt (s : Server) (pairs : List (String × String)) : Stage → Error → Prop where
  | paging {e : Error} (h : readListParams pairs = .error e) : FailsAt s pairs .paging e
  | filters {params : ListParams} {e : Filter.IntakeError}
      (hparams : readListParams pairs = .ok params)
      (h : Filter.intake s.limits pairs = .error e) : FailsAt s pairs .filters (.ofIntake e)
  | order {params : ListParams} {rs : List Request} {e : Error}
      (hparams : readListParams pairs = .ok params) (hrs : Filter.intake s.limits pairs = .ok rs)
      (h : readOrder params.orderBy? = .error e) : FailsAt s pairs .order e
  | filter {params : ListParams} {before : List Request} {r : Request} {after : List Request}
      {o : Order} {e : Filter.Error} (hparams : readListParams pairs = .ok params)
      (hrs : Filter.intake s.limits pairs = .ok (before ++ r :: after))
      (ho : readOrder params.orderBy? = .ok o)
      (hbefore : ∀ b ∈ before, ∃ p, s.search.catalog.predicate b = .ok p)
      (h : s.search.catalog.predicate r = .error e) : FailsAt s pairs (.filter r) (.ofFilter e)

/-- All stages of a listing pass, and this is what they give. -/
structure Passes (s : Server) (pairs : List (String × String)) (params : ListParams)
    (rs : List Request) (o : Order) (q : Query) : Prop where
  paging : readListParams pairs = .ok params
  filters : Filter.intake s.limits pairs = .ok rs
  order : readOrder params.orderBy? = .ok o
  query : s.search.query rs = .ok q

theorem passes_or_failsAt (s : Server) (pairs : List (String × String)) :
    (∃ params rs o q, Passes s pairs params rs o q) ∨ ∃ stage e, FailsAt s pairs stage e := by
  cases hparams : readListParams pairs with
  | error e => exact .inr ⟨_, _, .paging hparams⟩
  | ok params =>
    cases hrs : Filter.intake s.limits pairs with
    | error e => exact .inr ⟨_, _, .filters hparams hrs⟩
    | ok rs =>
      cases ho : readOrder params.orderBy? with
      | error e => exact .inr ⟨_, _, .order hparams hrs ho⟩
      | ok o =>
        cases hq : s.search.query rs with
        | ok q => exact .inl ⟨params, rs, o, q, hparams, hrs, ho, hq⟩
        | error e =>
          obtain ⟨before, r, after, rfl, hbefore, hr⟩ := Search.query_error_iff.1 hq
          exact .inr ⟨_, _, .filter hparams hrs ho hbefore hr⟩

theorem Passes.not_failsAt (h : Passes s pairs params rs o q) : ¬FailsAt s pairs stage e := by
  intro hfails
  cases hfails with
  | paging he => cases h.paging.symm.trans he
  | filters hparams he => cases h.filters.symm.trans he
  | order hparams hrs he =>
    cases h.paging.symm.trans hparams
    cases h.order.symm.trans he
  | filter hparams hrs ho hbefore he =>
    cases h.filters.symm.trans hrs
    cases h.query.symm.trans (Search.query_error_iff.2 ⟨_, _, _, rfl, hbefore, he⟩)

theorem listInvoices_of_failsAt (h : FailsAt s pairs stage e) :
    listInvoices s pairs = .error e := by
  unfold listInvoices
  cases h with
  | paging h => rw [h]; rfl
  | filters hparams h => rw [hparams, h]; rfl
  | order hparams hrs h =>
    rw [hparams, hrs]
    simp only [bind, Except.bind, Except.mapError, h]
  | @filter params before r after o e hparams hrs ho hbefore h =>
    have hq : s.search.query (before ++ r :: after) = .error e :=
      Search.query_error_iff.2 ⟨before, r, after, rfl, hbefore, h⟩
    rw [hparams, hrs]
    simp only [bind, Except.bind, Except.mapError, ho, hq]

/-! ## How failures are reported -/

/-- A failure is reported as a bad request, except that an operator or a value that a known field
refuses is reported under the key of the field. -/
def Stage.Reports (c : Catalog) (e : Error) : Stage → Prop
  | .filter r => (c.find? r.key = none ∧ e.status = 400) ∨
      ∃ f, c.find? r.key = some f ∧ e.status = 422 ∧ e.field? = some r.key
  | _ => e.status = 400

theorem status_of_readListParams (h : readListParams pairs = .error e) : e.status = 400 := by
  unfold readListParams at h
  split at h
  · cases h; rfl
  · split at h
    · cases h
    · cases h; rfl

theorem Order.status_of_read {text : String} {columns : List String}
    (h : Order.read text columns = .error e) : e.status = 400 := by
  unfold Order.read at h
  split at h
  case h_4 => cases h; rfl
  all_goals
    simp only [bind, Except.bind] at h
    split at h
    · cases h
    · cases h; rfl

theorem status_of_readOrder {orderBy? : Option String} (h : readOrder orderBy? = .error e) :
    e.status = 400 := by
  cases orderBy? with
  | none => cases h
  | some text => exact Order.status_of_read h

theorem reports_ofFilter {c : Catalog} {r : Request} {e : Filter.Error}
    (h : c.predicate r = .error e) : (Stage.filter r).Reports c (.ofFilter e) := by
  rcases Catalog.refusal_cases h with ⟨hfind, rfl⟩ | ⟨f, hfind, hrejects⟩
  · exact .inl ⟨hfind, rfl⟩
  · cases hrejects <;> exact .inr ⟨f, hfind, rfl, rfl⟩

theorem FailsAt.reports (h : FailsAt s pairs stage e) : stage.Reports s.search.catalog e := by
  cases h with
  | paging h => exact status_of_readListParams h
  | filters hparams h => rfl
  | order hparams hrs h => exact status_of_readOrder h
  | filter hparams hrs ho hbefore h => exact reports_ofFilter h

theorem Stage.Reports.status {c : Catalog} (h : stage.Reports c e) :
    e.status = 400 ∨ e.status = 422 := by
  cases stage with
  | filter r =>
    rcases h with ⟨-, h⟩ | ⟨-, -, h, -⟩
    · exact .inl h
    · exact .inr h
  | _ => exact .inl h

/-! ## Pages that pass -/

theorem Page.bounds_of_errors {p : Page} (h : p.errors = []) :
    (1 ≤ p.number ∧ p.number ≤ maxPage) ∧ 1 ≤ p.limit ∧ p.limit ≤ maxLimit := by
  obtain ⟨hnumber, hlimit⟩ := List.append_eq_nil_iff.1 h
  rw [Option.toList_eq_nil_iff] at hnumber hlimit
  unfold numberError? at hnumber
  unfold limitError? at hlimit
  split at hnumber <;> try cases hnumber
  split at hnumber <;> try cases hnumber
  split at hlimit <;> try cases hlimit
  omega

theorem page_of_readListParams (h : readListParams pairs = .ok params) :
    params.page.errors = [] := by
  unfold readListParams at h
  split at h
  · cases h
  · split at h
    · cases h; assumption
    · cases h

theorem Page.offset_lt {p : Page} (h : p.errors = []) : p.offset < 2 ^ 32 := by
  obtain ⟨⟨-, hnumber⟩, -, hlimit⟩ := Page.bounds_of_errors h
  calc p.offset ≤ maxPage * maxLimit := Nat.mul_le_mul (by omega) hlimit
    _ < 2 ^ 32 := by decide

end Stages

/-! ## Answers -/

/-- The statements of a listing are carried out, if it comes to them. -/
def CarriesOut (db : Database) (s : Server) (pairs : List (String × String)) : Prop :=
  ∀ params rs o q, Passes s pairs params rs o q →
    (∃ total, db.count s.engine q = .ok total) ∧
      ∃ rows, db.list s.engine q o params.page.limit params.page.offset = .ok rows

section Answers

variable {s : Server} {db : Database} {query : String}

theorem answer_of_failsAt {stage : Stage} {e : Error} (h : FailsAt s (decodeQuery query) stage e) :
    answer s query .invoices = e.response := by
  rw [answer, listInvoices_of_failsAt h]

theorem status_of_passes (hstore : s.store = .opened db)
    (hstatements : CarriesOut db s (decodeQuery query)) {params : ListParams} {rs : List Request}
    {o : Order} {q : Query} (h : Passes s (decodeQuery query) params rs o q) :
    (answer s query .invoices).status = 200 := by
  obtain ⟨⟨total, hcount⟩, rows, hlist⟩ := hstatements params rs o q h
  rw [answer, listInvoices_eq hstore h.paging h.filters h.order h.query, hcount, hlist]
  rfl

theorem respond_of_splitAddress {address : String}
    (h : splitAddress address = ("/api/v1/invoices", query)) :
    respond s "GET" address = answer s query .invoices := by
  simp [respond, h, Route.ofPath?]

/-- The first failure decides the answer, and none is the server's. For every query string, if the
statements that a listing comes to are carried out, its answer is the error of the first stage that
fails, a bad request or a report on the first filter that is refused; it is a page just when no
stage fails; and the number of rows before a page that passes neither falls below zero nor leaves
the words of 32 bits. -/
theorem first_failure_answers (hstore : s.store = .opened db) (query : String)
    (hstatements : CarriesOut db s (decodeQuery query)) :
    (∀ address, splitAddress address = ("/api/v1/invoices", query) →
      respond s "GET" address = answer s query .invoices) ∧
    (∀ stage e, FailsAt s (decodeQuery query) stage e →
      answer s query .invoices = e.response ∧ stage.Reports s.search.catalog e) ∧
    ((answer s query .invoices).status = 200 ↔
      ∀ stage e, ¬FailsAt s (decodeQuery query) stage e) ∧
    (answer s query .invoices).status ≠ 500 ∧
    ∀ params, readListParams (decodeQuery query) = .ok params →
      1 ≤ params.page.number ∧ params.page.offset < 2 ^ 32 := by
  -- A stage that fails and one that passes are told apart by their statuses alone.
  have hfails : ∀ stage e, FailsAt s (decodeQuery query) stage e →
      (answer s query .invoices).status = 400 ∨ (answer s query .invoices).status = 422 := by
    intro stage e h
    rw [answer_of_failsAt h]
    exact h.reports.status
  have hpasses : (∀ stage e, ¬FailsAt s (decodeQuery query) stage e) →
      (answer s query .invoices).status = 200 := by
    intro hnone
    rcases passes_or_failsAt s (decodeQuery query) with ⟨params, rs, o, q, h⟩ | ⟨stage, e, h⟩
    · exact status_of_passes hstore hstatements h
    · exact absurd h (hnone stage e)
  refine ⟨fun address => respond_of_splitAddress,
    fun stage e h => ⟨answer_of_failsAt h, h.reports⟩, ⟨fun hstatus stage e h => ?_, hpasses⟩, ?_,
    fun params h => ?_⟩
  · rcases hfails stage e h with h | h <;> omega
  · by_cases hnone : ∃ stage e, FailsAt s (decodeQuery query) stage e
    · obtain ⟨stage, e, h⟩ := hnone
      rcases hfails stage e h with h | h <;> omega
    · have hstatus := hpasses fun stage e h => hnone ⟨stage, e, h⟩
      omega
  · have herrors := page_of_readListParams h
    exact ⟨(Page.bounds_of_errors herrors).1.1, Page.offset_lt herrors⟩

/-- A filter that two of three invoices pass is answered by a page; of an order and a filter that
both name what there is not, the order is reported. -/
theorem first_failure_answers_order : ∃ s : Server,
    Search.standard = .ok s.search ∧ s.store = .opened tiedStore ∧
    (answer s "filter[status][notEquals]=void&limit=1" .invoices).status = 200 ∧
    answer s "order_by=rank&filter[rank]=1" .invoices =
      (Error.badRequest "INVALID_ORDER_COLUMN" "Cannot order by: rank").response := by
  let s : Server := ⟨.opened tiedStore, .served, .standard, .untroubled 0⟩
  let rs : List Request := [⟨"status", "notEquals", some (.scalar (.text "void"))⟩]
  have hpage : decodeQuery "filter[status][notEquals]=void&limit=1" =
      [("filter[status][notEquals]", "void"), ("limit", "1")] := by decide +kernel
  have horder : decodeQuery "order_by=rank&filter[rank]=1" =
      [("order_by", "rank"), ("filter[rank]", "1")] := by decide +kernel
  obtain ⟨q, hq, hcount, hlist⟩ : ∃ q, s.search.query rs = .ok q ∧ q.refuse false = .ok () ∧
      q.refuse true = .ok () := ⟨_, rfl, by decide +kernel, by decide +kernel⟩
  have hpasses : Passes s (decodeQuery "filter[status][notEquals]=void&limit=1")
      ⟨none, some 1, none⟩ rs ⟨"issued_at", .falling⟩ q := by
    rw [hpage]
    exact ⟨rfl, rfl, rfl, hq⟩
  have hfails : FailsAt s (decodeQuery "order_by=rank&filter[rank]=1") .order
      (.badRequest "INVALID_ORDER_COLUMN" "Cannot order by: rank") := by
    rw [horder]
    exact @FailsAt.order s _ ⟨none, none, some "rank"⟩ _ _ rfl rfl rfl
  have hcarried : CarriesOut tiedStore s
      (decodeQuery "filter[status][notEquals]=void&limit=1") := by
    intro params rs' o q' h
    cases hpasses.filters.symm.trans h.filters
    cases hpasses.query.symm.trans h.query
    constructor
    · exact ⟨_, @Database.count_eq _ _ _ o ((Database.refuse_untroubled _).trans hcount)⟩
    · exact ⟨_, Database.list_eq ((Database.refuse_untroubled _).trans hlist)⟩
  refine ⟨s, Search.standard_eq_served, rfl, ?_, ?_⟩
  · exact (first_failure_answers rfl _ hcarried).2.2.1.2 fun stage e => hpasses.not_failsAt
  · have hnone : CarriesOut tiedStore s (decodeQuery "order_by=rank&filter[rank]=1") :=
      fun params rs o q h => absurd hfails h.not_failsAt
    exact ((first_failure_answers rfl _ hnone).2.1 _ _ hfails).1

end Answers

end RowSieve.Http
