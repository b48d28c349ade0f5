/-
Catalogs and the predicates of lists of requests: those of its requests, in their order, if each
request is understood; otherwise the error of the first that is not.
-/
import RowSieve.Filter.Catalog
import RowSieve.Proofs.Sql.Resolution

namespace RowSieve.Filter

namespace Catalog

variable {c : Catalog} {rs : List Request} {ps : List Predicate}

/-- A catalog comes of its fields and of no others. -/
theorem ofFields_eq_ok {fields : List Field} : ofFields fields = .ok c ↔ c.fields = fields := by
  unfold ofFields
  constructor
  · intro h
    split at h
    · cases h; rfl
    · cases h
  · rintro rfl
    split
    · rfl
    · rename_i e he
      rw [c.checked] at he
      cases he

theorem resolve_eq_ok {key : String} {f : Field} :
    c.resolve key = .ok f ↔ c.find? key = some f := by
  unfold resolve
  cases c.find? key <;> simp

theorem mem_of_resolve {key : String} {f : Field} (h : c.resolve key = .ok f) : f ∈ c.fields :=
  List.mem_of_find?_eq_some (resolve_eq_ok.1 h)

theorem key_of_resolve {key : String} {f : Field} (h : c.resolve key = .ok f) : f.key = key := by
  simpa using List.find?_some (resolve_eq_ok.1 h)

/-! ## Predicates of requests -/

theorem predicate_of_resolve {r : Request} {f : Field} (h : c.resolve r.key = .ok f) :
    c.predicate r = f.predicate r := by
  rw [predicate, h]
  rfl

theorem predicates_cons_eq_ok {r : Request} :
    c.predicates (r :: rs) = .ok ps ↔
      ∃ p rest, c.predicate r = .ok p ∧ c.predicates rs = .ok rest ∧ ps = p :: rest := by
  rw [predicates, Sql.bind_eq_ok]
  constructor
  · rintro ⟨p, hp, h⟩
    obtain ⟨rest, hr, h⟩ := Sql.bind_eq_ok.1 h
    cases h
    exact ⟨p, rest, hp, hr, rfl⟩
  · rintro ⟨p, rest, hp, hr, rfl⟩
    exact ⟨p, hp, Sql.bind_eq_ok.2 ⟨rest, hr, rfl⟩⟩

theorem predicates_singleton_eq_ok {r : Request} :
    c.predicates [r] = .ok ps ↔ ∃ p, c.predicate r = .ok p ∧ ps = [p] := by
  rw [predicates_cons_eq_ok]
  constructor
  · rintro ⟨p, rest, hp, hr, rfl⟩
    cases hr
    exact ⟨p, hp, rfl⟩
  · rintro ⟨p, hp, rfl⟩
    exact ⟨p, [], hp, rfl, rfl⟩

/-- The predicates of a list are those of its requests. -/
theorem mem_predicates : ∀ {rs : List Request} {ps : List Predicate}, c.predicates rs = .ok ps →
    ∀ {p : Predicate}, p ∈ ps ↔ ∃ r ∈ rs, c.predicate r = .ok p
  | [], _, h, p => by cases h; simp
  | r :: rs, ps, h, p => by
    obtain ⟨q, rest, hq, hr, rfl⟩ := predicates_cons_eq_ok.1 h
    rw [List.mem_cons, mem_predicates hr]
    simp [hq, eq_comm]

/-- A list is understood when each of its requests is. -/
theorem predicates_ok_iff : ∀ {rs : List Request},
    (∃ ps, c.predicates rs = .ok ps) ↔ ∀ r ∈ rs, ∃ p, c.predicate r = .ok p
  | [] => ⟨fun _ _ h => (by cases h), fun _ => ⟨[], rfl⟩⟩
  | r :: rs => by
    rw [List.forall_mem_cons, ← predicates_ok_iff]
    constructor
    · rintro ⟨ps, h⟩
      obtain ⟨p, rest, hp, hr, -⟩ := predicates_cons_eq_ok.1 h
      exact ⟨⟨p, hp⟩, rest, hr⟩
    · rintro ⟨⟨p, hp⟩, rest, hr⟩
      exact ⟨_, predicates_cons_eq_ok.2 ⟨p, rest, hp, hr, rfl⟩⟩

/-- A list that is not understood is refused as the first request that is not. -/
theorem predicates_error_iff {e : Error} : ∀ {rs : List Request},
    c.predicates rs = .error e ↔ ∃ before r after, rs = before ++ r :: after ∧
      (∀ b ∈ before, ∃ p, c.predicate b = .ok p) ∧ c.predicate r = .error e
  | [] => by simp [predicates]
  | r :: rs => by
    cases hr : c.predicate r with
    | error e' =>
      have he : c.predicates (r :: rs) = .error e' := by rw [predicates, hr]; rfl
      rw [he]
      constructor
      · intro h
        cases h
        exact ⟨[], r, rs, rfl, by simp, hr⟩
      · rintro ⟨before, r', after, h, hb, hr'⟩
        cases before with
        | nil => cases h; cases hr.symm.trans hr'; rfl
        | cons b before =>
          cases h
          obtain ⟨p, hp⟩ := hb r List.mem_cons_self
          rw [hr] at hp
          cases hp
    | ok p =>
      have he : c.predicates (r :: rs) = .error e ↔ c.predicates rs = .error e := by
        rw [predicates, hr]
        cases c.predicates rs <;> simp [bind, Except.bind, pure, Except.pure]
      rw [he, predicates_error_iff]
      constructor
      · rintro ⟨before, r', after, rfl, hb, hr'⟩
        exact ⟨r :: before, r', after, rfl, List.forall_mem_cons.2 ⟨⟨p, hr⟩, hb⟩, hr'⟩
      · rintro ⟨before, r', after, h, hb, hr'⟩
        cases before with
        | nil => cases h; rw [hr] at hr'; cases hr'
        | cons b before =>
          cases h
          exact ⟨before, r', after, rfl, (List.forall_mem_cons.1 hb).2, hr'⟩

end Catalog

end RowSieve.Filter
