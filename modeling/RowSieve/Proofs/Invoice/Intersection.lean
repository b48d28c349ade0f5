/-
A list of filters means the intersection of its filters. A list is accepted when each of its
requests is, and otherwise refused as the first request that is refused by itself; what an accepted
list selects is what all its requests select, each by itself. The order of the requests and
repetitions do not count, and a further request never adds to what is selected.
-/
import RowSieve.Proofs.Invoice.Search
import RowSieve.Store.Listing

namespace RowSieve.Invoice

open RowSieve.Filter (Catalog Error Predicate Request)
open RowSieve.Sql

namespace Search

variable {s : Search} {rs : List Request}

/-! ## What is accepted -/

theorem query_singleton_ok_iff {r : Request} :
    (∃ q, s.query [r] = .ok q) ↔ ∃ p, s.catalog.predicate r = .ok p := by
  rw [query_ok_iff_predicates, Catalog.predicates_ok_iff, List.forall_mem_singleton]

theorem query_singleton_error_iff {r : Request} {e : Error} :
    s.query [r] = .error e ↔ s.catalog.predicate r = .error e := by
  rw [query_error_iff_predicates, Catalog.predicates]
  cases s.catalog.predicate r <;> simp [bind, Except.bind, Catalog.predicates, pure, Except.pure]

/-! ## What is selected -/

theorem selects_iff {q : Query} {ps : List Predicate} (h : q.Says s.joins tableName ps)
    (tables : Tables) (row : Row) :
    q.selects tables row = true ↔
      ∀ p ∈ ps, p.eval s.joins tables tableName row = .yes := by
  rw [Query.selects, h.evalAll, Truth.selects_eq_true_iff, Predicate.evalAll_eq_yes_iff]

/-- A list selects a row when each of its requests does, by itself. -/
theorem selects_iff_forall {q : Query} (h : s.query rs = .ok q) (tables : Tables) (row : Row) :
    q.selects tables row = true ↔
      ∀ r ∈ rs, ∃ one, s.query [r] = .ok one ∧ one.selects tables row = true := by
  obtain ⟨ps, hp⟩ := query_ok_iff_predicates.1 ⟨q, h⟩
  rw [selects_iff (says_of_query h hp)]
  constructor
  · intro hall r hr
    obtain ⟨p, hrp⟩ := Catalog.predicates_ok_iff.1 ⟨ps, hp⟩ r hr
    have hsingle := Catalog.predicates_singleton_eq_ok.2 ⟨p, hrp, rfl⟩
    obtain ⟨one, ho⟩ := query_ok_iff_predicates.2 ⟨_, hsingle⟩
    refine ⟨one, ho, (selects_iff (says_of_query ho hsingle) tables row).2 fun p' hp' => ?_⟩
    rw [List.mem_singleton.1 hp']
    exact hall p ((Catalog.mem_predicates hp).2 ⟨r, hr, hrp⟩)
  · intro hall p hpp
    obtain ⟨r, hr, hrp⟩ := (Catalog.mem_predicates hp).1 hpp
    obtain ⟨one, ho, hsel⟩ := hall r hr
    have hsingle := Catalog.predicates_singleton_eq_ok.2 ⟨p, hrp, rfl⟩
    exact (selects_iff (says_of_query ho hsingle) tables row).1 hsel p List.mem_cons_self

theorem clause_iff_selects {q : Query} (h : s.query rs = .ok q) (tables : Tables) (row : Row) :
    truthOfClause? q.whereClause q.params tables row = some .yes ↔ q.selects tables row = true := by
  obtain ⟨ps, hp⟩ := query_ok_iff_predicates.1 ⟨q, h⟩
  have hs := says_of_query h hp
  rw [hs.truthOfClause?, Query.selects, hs.evalAll, Truth.selects_eq_true_iff, Option.some.injEq]

theorem mem_selected {db : Store.Database} {now : Int} {q : Query} {i : Store.Invoice} :
    i ∈ db.selected now q ↔
      i ∈ db.invoices ∧ q.selects (db.tables now) (i.row now) = true := by
  rw [Store.Database.selected, List.mem_filter]

/-- What is selected depends on which requests there are and on nothing else of the list, and a
further request only takes away from it. -/
theorem selects_of_subset {rs' : List Request} {q q' : Query} (h : s.query rs = .ok q)
    (h' : s.query rs' = .ok q') (hsub : rs ⊆ rs') {tables : Tables} {row : Row}
    (hsel : q'.selects tables row = true) : q.selects tables row = true := by
  rw [selects_iff_forall h]
  exact fun r hr => (selects_iff_forall h' tables row).1 hsel r (hsub hr)

/-- A list of filters means the intersection of its filters: it is accepted when each of them is,
refused as the first of them that is refused, and selects what each of them selects. Order and
repetition do not count, and a list with more requests never selects more. -/
theorem query_is_intersection (s : Search) (rs : List Request) :
    ((∃ q, s.query rs = .ok q) ↔ ∀ r ∈ rs, ∃ q, s.query [r] = .ok q) ∧
    (∀ e, s.query rs = .error e ↔ ∃ before r after, rs = before ++ r :: after ∧
      (∀ b ∈ before, ∃ q, s.query [b] = .ok q) ∧ s.query [r] = .error e) ∧
    ∀ q, s.query rs = .ok q →
      (∀ tables row, truthOfClause? q.whereClause q.params tables row = some .yes ↔
        ∀ r ∈ rs, ∃ one, s.query [r] = .ok one ∧
          truthOfClause? one.whereClause one.params tables row = some .yes) ∧
      (∀ (db : Store.Database) now i, i ∈ db.selected now q ↔ i ∈ db.invoices ∧
        ∀ r ∈ rs, ∃ one, s.query [r] = .ok one ∧ i ∈ db.selected now one) ∧
      ∀ rs' q', s.query rs' = .ok q' → rs ⊆ rs' → ∀ (db : Store.Database) now,
        (∀ i ∈ db.selected now q', i ∈ db.selected now q) ∧
        (rs' ⊆ rs → db.selected now q' = db.selected now q) := by
  refine ⟨?_, fun e => ?_, fun q h => ⟨fun tables row => ?_, fun db now i => ?_, ?_⟩⟩
  · rw [query_ok_iff_predicates, Catalog.predicates_ok_iff]
    simp only [query_singleton_ok_iff]
  · rw [query_error_iff_predicates, Catalog.predicates_error_iff]
    simp only [query_singleton_ok_iff, query_singleton_error_iff]
  · rw [clause_iff_selects h, selects_iff_forall h]
    exact forall_congr' fun r => forall_congr' fun _ => exists_congr fun one =>
      and_congr_right fun ho => (clause_iff_selects ho tables row).symm
  · rw [mem_selected, selects_iff_forall h]
    refine and_congr_right fun hi => forall_congr' fun r => forall_congr' fun _ => ?_
    refine exists_congr fun one => and_congr_right fun _ => ?_
    rw [mem_selected, and_iff_right hi]
  · intro rs' q' h' hsub db now
    refine ⟨fun i hi => ?_, fun hsub' => ?_⟩
    · rw [mem_selected] at hi ⊢
      exact ⟨hi.1, selects_of_subset h h' hsub hi.2⟩
    · rw [Store.Database.selected, Store.Database.selected]
      congr 1
      funext i
      rw [Bool.eq_iff_iff]
      exact ⟨selects_of_subset h h' hsub, selects_of_subset h' h hsub'⟩

end Search

end RowSieve.Invoice
