/-
Queries that a search builds. The relations of every field of a search join, so a query comes of
every list of requests that is understood: the one that the predicates of the requests have been
added to, one after another.
-/
import RowSieve.Invoice.Search
import RowSieve.Proofs.Filter.Catalog
import RowSieve.Proofs.Filter.Compiled
import RowSieve.Proofs.Filter.Steps
import RowSieve.Proofs.Sql.Clause

namespace RowSieve.Invoice

open RowSieve.Filter (Catalog Error Field Predicate Request)
open RowSieve.Sql

/-! ## Queries that a search builds -/

theorem checkJoins_eq_ok {js : Joins} : ∀ {fields : List Field}, checkJoins js fields = .ok () →
    ∀ f ∈ fields, ∃ target, js.walk tableName f.path.relations = .ok target
  | f :: fields, h, g, hg => by
    unfold checkJoins at h
    cases hw : js.walk tableName f.path.relations with
    | error relation => rw [hw] at h; cases h
    | ok target =>
      rw [hw] at h
      rcases List.mem_cons.1 hg with rfl | hg
      · exact ⟨target, hw⟩
      · exact checkJoins_eq_ok h g hg

namespace Search

variable {s : Search} {rs : List Request}

/-- The relations of every predicate that a search understands join. -/
theorem covers_predicate {r : Request} {p : Predicate} (h : s.catalog.predicate r = .ok p) :
    s.joins.Covers tableName p := by
  obtain ⟨f, hf, hp⟩ := bind_eq_ok.1 h
  obtain ⟨target, hw⟩ := checkJoins_eq_ok s.joined f (Catalog.mem_of_resolve hf)
  obtain ⟨op, value, -, -, rfl⟩ := Field.predicate_eq_ok.1 hp
  exact Field.covers_placed hw

theorem exists_addAll {ps : List Predicate} (h : s.catalog.predicates rs = .ok ps) :
    ∃ q, Filter.Target.addAll (Query.start s.joins tableName) ps = (.ok (), q) ∧
      ps.foldlM Query.add (Query.start s.joins tableName) = .ok q := by
  have hcov : ∀ p ∈ ps, s.joins.Covers tableName p := fun p hp => by
    obtain ⟨r, -, hr⟩ := (Catalog.mem_predicates h).1 hp
    exact covers_predicate hr
  obtain ⟨q, hf⟩ := Query.exists_foldlM (q := Query.start s.joins tableName) hcov
  exact ⟨q, Filter.Target.addAll_of_foldlM hf, hf⟩

/-- The query of a list is the one that the predicates of its requests have been added to. -/
theorem query_eq_ok {q : Query} : s.query rs = .ok q ↔
    ∃ ps, s.catalog.predicates rs = .ok ps ∧
      ps.foldlM Query.add (Query.start s.joins tableName) = .ok q := by
  rw [query, Filter.Target.addRequests]
  cases hp : s.catalog.predicates rs with
  | error e => simp
  | ok ps =>
    obtain ⟨q', ha, hf⟩ := exists_addAll hp
    simp [ha, hf]

theorem query_error_iff_predicates {e : Error} :
    s.query rs = .error e ↔ s.catalog.predicates rs = .error e := by
  rw [query, Filter.Target.addRequests]
  cases hp : s.catalog.predicates rs with
  | error e' => simp
  | ok ps =>
    obtain ⟨q', ha, -⟩ := exists_addAll hp
    simp [ha]

/-- A list is refused as the first of its requests that is. -/
theorem query_error_iff {e : Error} : s.query rs = .error e ↔
    ∃ before r after, rs = before ++ r :: after ∧
      (∀ b ∈ before, ∃ p, s.catalog.predicate b = .ok p) ∧ s.catalog.predicate r = .error e := by
  rw [query_error_iff_predicates, Catalog.predicates_error_iff]

/-- A query comes of every list that is understood: nothing is refused later on. -/
theorem query_ok_iff_predicates :
    (∃ q, s.query rs = .ok q) ↔ ∃ ps, s.catalog.predicates rs = .ok ps := by
  constructor
  · rintro ⟨q, h⟩
    obtain ⟨ps, hp, -⟩ := query_eq_ok.1 h
    exact ⟨ps, hp⟩
  · rintro ⟨ps, hp⟩
    obtain ⟨q, -, hf⟩ := exists_addAll hp
    exact ⟨q, query_eq_ok.2 ⟨ps, hp, hf⟩⟩

theorem says_of_query {q : Query} {ps : List Predicate} (h : s.query rs = .ok q)
    (hp : s.catalog.predicates rs = .ok ps) : q.Says s.joins tableName ps := by
  obtain ⟨ps', hp', hf⟩ := query_eq_ok.1 h
  rw [hp] at hp'
  cases hp'
  exact Query.says_of_foldlM hf

end Search

end RowSieve.Invoice
