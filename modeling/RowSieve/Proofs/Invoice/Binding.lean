/-
Binding a catalog to joins. A catalog can be bound exactly when the relations of all its fields
join, and otherwise the first field that does not is named with its first missing relation. What is
checked then, by walking, is what resolving a scope over the chain comes upon later: both stop at
the same relation. So no query of a bound catalog comes upon a missing relation.
-/
import RowSieve.Proofs.Filter.Refusal
import RowSieve.Proofs.Invoice.Search
import RowSieve.Proofs.Sql.Chain

namespace RowSieve.Invoice

open RowSieve.Filter (Catalog CatalogError Error Field Predicate Request Target)
open RowSieve.Sql

/-! ## Checking the joins of fields -/

section Check

variable {js : Joins} {fields : List Field}

theorem checkJoins_ok_iff : checkJoins js fields = .ok () ↔
    ∀ f ∈ fields, ∃ target, js.walk tableName f.path.relations = .ok target := by
  refine ⟨checkJoins_eq_ok, fun h => ?_⟩
  induction fields with
  | nil => rfl
  | cons f fields ih =>
    obtain ⟨⟨target, hw⟩, hrest⟩ := List.forall_mem_cons.1 h
    rw [checkJoins, hw]
    exact ih hrest

theorem checkJoins_error_iff {e : CatalogError} : checkJoins js fields = .error e ↔
    ∃ before f after relation, fields = before ++ f :: after ∧
      (∀ g ∈ before, ∃ target, js.walk tableName g.path.relations = .ok target) ∧
      js.walk tableName f.path.relations = .error relation ∧
      e = .unknownRelation f.key relation := by
  induction fields with
  | nil => simp [checkJoins]
  | cons f fields ih =>
    rw [checkJoins]
    cases hw : js.walk tableName f.path.relations with
    | error relation =>
      simp only [Except.error.injEq]
      constructor
      · rintro rfl
        exact ⟨[], f, fields, relation, rfl, by simp, hw, rfl⟩
      · rintro ⟨before, g, after, relation', h, hb, hg, rfl⟩
        cases before with
        | nil => cases h; rw [hw] at hg; cases hg; rfl
        | cons b before =>
          cases h
          obtain ⟨target, hb⟩ := hb f List.mem_cons_self
          rw [hw] at hb
          cases hb
    | ok target =>
      simp only [ih]
      constructor
      · rintro ⟨before, g, after, relation, rfl, hb, hg, rfl⟩
        exact ⟨f :: before, g, after, relation, rfl, List.forall_mem_cons.2 ⟨⟨target, hw⟩, hb⟩,
          hg, rfl⟩
      · rintro ⟨before, g, after, relation, h, hb, hg, rfl⟩
        cases before with
        | nil => cases h; rw [hw] at hg; cases hg
        | cons b before =>
          cases h
          exact ⟨before, g, after, relation, rfl, (List.forall_mem_cons.1 hb).2, hg, rfl⟩

end Check

namespace Search

variable {catalog : Catalog} {js : Joins} {s : Search} {rs : List Request}

/-! ## Bound catalogs -/

theorem ofParts_eq_ok :
    ofParts catalog js = .ok s ↔ s.catalog = catalog ∧ s.joins = js := by
  unfold ofParts
  constructor
  · intro h
    split at h
    · cases h; exact ⟨rfl, rfl⟩
    · cases h
  · rintro ⟨rfl, rfl⟩
    split
    · rfl
    · rename_i e he
      rw [s.joined] at he
      cases he

theorem ofParts_ok_iff : (∃ s, ofParts catalog js = .ok s) ↔
    checkJoins js catalog.fields = .ok () := by
  constructor
  · rintro ⟨s, h⟩
    obtain ⟨rfl, rfl⟩ := ofParts_eq_ok.1 h
    exact s.joined
  · intro h
    exact ⟨⟨catalog, js, h⟩, ofParts_eq_ok.2 ⟨rfl, rfl⟩⟩

theorem ofParts_error_iff {e : CatalogError} :
    ofParts catalog js = .error e ↔ checkJoins js catalog.fields = .error e := by
  unfold ofParts
  constructor
  · intro h
    split at h
    · cases h
    · rename_i e' he
      cases h
      exact he
  · intro h
    split
    · rename_i hok
      rw [h] at hok
      cases hok
    · rename_i e' he
      rw [h] at he
      cases he
      rfl

theorem checkFields_fields : Filter.checkFields [] fields = .ok () := rfl

theorem checkJoins_fields : checkJoins Invoice.joins fields = .ok () := rfl

/-- The fields and joins of invoices, which are sound. -/
def served : Search := ⟨⟨fields, checkFields_fields⟩, Invoice.joins, checkJoins_fields⟩

theorem standard_eq_served : standard = .ok served :=
  bind_eq_ok.2 ⟨_, Catalog.ofFields_eq_ok.2 rfl, ofParts_eq_ok.2 ⟨rfl, rfl⟩⟩

/-- A list of requests is refused by the key of one of its requests, and the client is at fault. -/
theorem blames_of_query {e : Error} (h : s.query rs = .error e) : ∃ r ∈ rs, e.Blames r.key := by
  obtain ⟨before, r, after, rfl, -, hr⟩ := query_error_iff.1 h
  exact ⟨r, by simp, Catalog.blames_of_predicate hr⟩

/-! ## Walking and resolving agree -/

/-- A bound catalog never meets a missing relation. Walking a chain and resolving a scope over it,
denied or not, succeed on the same chains, and stop at the same relation of the same table, the one
that the longest part of the chain that joins leads to. A catalog is bound just when all its chains
join, and otherwise the first field whose chain does not is named, with the relation at which the
walk stops; and of a bound one no list of requests is refused for a missing relation. -/
theorem binding_decides_relations :
    (∀ (q : Query) (rels : List String) (leaf : Predicate), leaf.isPlain = true →
      ((∃ target, q.joins.walk q.table rels = .ok target) ↔
        (Target.addReach q rels leaf).1 = .ok ()) ∧
      ((∃ target, q.joins.walk q.table rels = .ok target) ↔
        (Target.addReachNone q rels leaf).1 = .ok ()) ∧
      ∀ name, q.joins.walk q.table rels = .error name → ∃ before last,
        before ++ [name] <+: rels ∧ q.joins.walk q.table before = .ok last ∧
        (∀ front target, front <+: rels → q.joins.walk q.table front = .ok target →
          front <+: before) ∧
        Target.addReach q rels leaf = (.error (.unknownRelation name last), q) ∧
        Target.addReachNone q rels leaf = (.error (.unknownRelation name last), q)) ∧
    ∀ (catalog : Catalog) (js : Joins),
      ((∃ s, ofParts catalog js = .ok s) ↔
        ∀ f ∈ catalog.fields, ∃ target, js.walk tableName f.path.relations = .ok target) ∧
      (∀ e, ofParts catalog js = .error e ↔ ∃ before f after relation,
        catalog.fields = before ++ f :: after ∧
        (∀ g ∈ before, ∃ target, js.walk tableName g.path.relations = .ok target) ∧
        js.walk tableName f.path.relations = .error relation ∧
        e = .unknownRelation f.key relation) ∧
      ∀ s, ofParts catalog js = .ok s → ∀ rs relation table,
        s.query rs ≠ .error (.unknownRelation relation table) := by
  refine ⟨fun q rels leaf hl => ⟨?_, ?_, fun name h => ?_⟩, fun catalog js => ⟨?_, fun e => ?_, ?_⟩⟩
  · exact (Query.addReach_ok_iff hl).symm
  · exact (Query.addReachNone_ok_iff hl).symm
  · obtain ⟨before, last, hs⟩ := Joins.exists_stopsAt h
    exact ⟨before, last, hs.chain, hs.reached, fun _ _ => hs.longest,
      Query.addReach_of_stopsAt hs, Query.addReachNone_of_stopsAt hs⟩
  · rw [ofParts_ok_iff, checkJoins_ok_iff]
  · rw [ofParts_error_iff, checkJoins_error_iff]
  · intro s _ rs relation table h
    obtain ⟨r, -, hb⟩ := blames_of_query h
    exact hb.ne_unknownRelation relation table rfl

/-- A chain around a relation of a table to itself stops at the owner that invoices do not have,
and the joins around invoices can be bound to a field two relations away. -/
theorem binding_decides_relations_cyclic : ∃ (q : Query) (leaf : Predicate),
    q.joins.walk q.table ["parent", "parent", "owner", "name"] = .error "owner" ∧
    leaf.isPlain = true ∧
    Target.addReachNone q ["parent", "parent", "owner", "name"] leaf =
      (.error (.unknownRelation "owner" "invoices"), q) ∧
    ∃ catalog s, ofParts catalog Invoice.joins = .ok s ∧
      s.query [⟨"lineItems.product.category", "notIn", none⟩] ≠
        .error (.unknownRelation "product" "line_items") := by
  let q := Query.start (.add .empty "invoices" "parent" ⟨"invoices", "parent_id", "id"⟩) "invoices"
  let leaf := Predicate.isNull ⟨"id", false⟩ false none
  let catalog : Catalog := ⟨[.ofKind "lineItems.product.category" .text], rfl⟩
  let s : Search := ⟨catalog, Invoice.joins, rfl⟩
  refine ⟨q, leaf, rfl, rfl, ?_, catalog, s, rfl, ?_⟩
  · obtain ⟨before, last, -, -, -, -, hn⟩ := (binding_decides_relations.1 q
      ["parent", "parent", "owner", "name"] leaf rfl).2.2 "owner" rfl
    have hlast : ((.error (.unknownRelation "owner" "invoices"), q) : Except Error Unit × Query) =
        (.error (.unknownRelation "owner" last), q) := hn
    rw [hn, ← hlast]
  · exact (binding_decides_relations.2 catalog Invoice.joins).2.2 s rfl _ _ _

end Search

end RowSieve.Invoice
