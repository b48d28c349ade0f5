/-
Chains of relations that cannot be walked to their end. The walk stops at the first relation
without a join, at the table to which the relations before it lead. A scope over the chain cannot
be resolved then: whatever stands inside it and whichever aliases are taken, the refusal names that
relation and that table.
-/
import RowSieve.Proofs.Filter.Steps
import RowSieve.Proofs.Sql.Clause

namespace RowSieve.Filter

open RowSieve.Sql

mutual

/-- Whether a predicate is about columns only and asks for no relation. -/
def Predicate.isPlain : Predicate → Bool
  | .all items | .any items => Predicate.arePlain items
  | .having .. | .lacking .. => false
  | _ => true

def Predicate.arePlain : List Predicate → Bool
  | [] => true
  | p :: rest => p.isPlain && Predicate.arePlain rest

end

mutual

theorem Predicate.covers_of_isPlain {js : Joins} {table : String} :
    ∀ p : Predicate, p.isPlain = true → js.Covers table p
  | .compare .., _ | .among .., _ | .like .., _ | .isNull .., _ => trivial
  | .all ps, h | .any ps, h => Predicate.coversAll_of_arePlain ps h
  | .having .., h | .lacking .., h => by cases h

theorem Predicate.coversAll_of_arePlain {js : Joins} {table : String} :
    ∀ ps : List Predicate, arePlain ps = true → js.CoversAll table ps
  | [], _ => trivial
  | p :: ps, h => by
    rw [arePlain, Bool.and_eq_true] at h
    exact ⟨Predicate.covers_of_isPlain p h.1, Predicate.coversAll_of_arePlain ps h.2⟩

end

end RowSieve.Filter

namespace RowSieve.Sql

open RowSieve.Filter (Predicate Target)

/-! ## Where a walk stops -/

/-- The walk along a chain stops at `name`: the relations before it lead to `last`, where it has no
join. -/
structure Joins.StopsAt (js : Joins) (table : String) (rels before : List String)
    (name last : String) : Prop where
  chain : before ++ [name] <+: rels
  reached : js.walk table before = .ok last
  missing : js.find? last name = none

namespace Joins

variable {js : Joins} {table last name : String} {rels before : List String}

theorem walk_append (front rest : List String) :
    js.walk table (front ++ rest) = js.walk table front >>= fun t => js.walk t rest := by
  induction front generalizing table with
  | nil => rfl
  | cons r front ih =>
    rw [List.cons_append, walk, walk]
    cases js.find? table r with
    | none => rfl
    | some join => exact ih

/-- A walk stops at most once, and ends in an error where it does. -/
theorem StopsAt.walk_eq (h : js.StopsAt table rels before name last) :
    js.walk table rels = .error name := by
  obtain ⟨after, rfl⟩ := h.chain
  rw [List.append_assoc, walk_append, h.reached]
  show js.walk last (name :: after) = _
  rw [walk, h.missing]

theorem exists_stopsAt (h : js.walk table rels = .error name) :
    ∃ before last, js.StopsAt table rels before name last := by
  induction rels generalizing table with
  | nil => cases h
  | cons r rest ih =>
    rw [walk] at h
    cases hj : js.find? table r with
    | none =>
      rw [hj] at h
      cases h
      exact ⟨[], table, ⟨rest, rfl⟩, rfl, hj⟩
    | some join =>
      rw [hj] at h
      obtain ⟨before, last, hc, hr, hm⟩ := ih h
      refine ⟨r :: before, last, List.prefix_cons_inj r |>.2 hc, ?_, hm⟩
      rw [walk, hj]
      exact hr

/-- No longer part of the chain can be walked than the one before the relation it stops at. -/
theorem StopsAt.longest (h : js.StopsAt table rels before name last) {front : List String}
    {target : String} (hf : front <+: rels) (hw : js.walk table front = .ok target) :
    front <+: before := by
  rcases List.prefix_or_prefix_of_prefix hf h.chain with hle | hle
  · rcases List.prefix_concat_iff.1 hle with rfl | hle
    · rw [StopsAt.walk_eq ⟨List.prefix_refl _, h.reached, h.missing⟩] at hw
      cases hw
    · exact hle
  · rw [StopsAt.walk_eq ⟨hle, h.reached, h.missing⟩] at hw
    cases hw

end Joins

/-! ## Scopes over the chain -/

namespace Condition

variable {js : Joins} {table last name : String} {rels before : List String}

/-- A scope over a chain is refused where the walk along the chain stops. -/
theorem ofPredicate_reach_of_stopsAt {leaf : Predicate} {scope free : Alias}
    (h : js.StopsAt table rels before name last) :
    ofPredicate js table scope free (.reach rels leaf) = .error (.unknownRelation name last) := by
  induction before generalizing table rels scope free with
  | nil =>
    obtain ⟨after, rfl⟩ := h.chain
    cases h.reached
    exact (ofPredicate_related_eq_error (n := false)).2 (.inl ⟨h.missing, rfl⟩)
  | cons r before ih =>
    obtain ⟨after, rfl⟩ := h.chain
    obtain ⟨join, hj, hw⟩ := Joins.walk_cons_eq_ok.1 h.reached
    exact (ofPredicate_related_eq_error (n := false)).2
      (.inr ⟨join, hj, ih ⟨⟨after, rfl⟩, hw, h.missing⟩⟩)

/-- So is the denial of one, of which only the first hop is denied. -/
theorem ofPredicate_reachNone_of_stopsAt {leaf : Predicate} {scope free : Alias}
    (h : js.StopsAt table rels before name last) :
    ofPredicate js table scope free (.reachNone rels leaf) =
      .error (.unknownRelation name last) := by
  obtain ⟨after, rfl⟩ := h.chain
  cases before with
  | nil =>
    cases h.reached
    exact (ofPredicate_related_eq_error (n := true)).2 (.inl ⟨h.missing, rfl⟩)
  | cons r before =>
    obtain ⟨join, hj, hw⟩ := Joins.walk_cons_eq_ok.1 h.reached
    exact (ofPredicate_related_eq_error (n := true)).2
      (.inr ⟨join, hj, ofPredicate_reach_of_stopsAt ⟨⟨after, rfl⟩, hw, h.missing⟩⟩)

end Condition

namespace Query

variable {q : Query} {last name : String} {rels before : List String} {leaf : Predicate}

/-- A step that adds a predicate succeeds exactly when its relations join. -/
theorem step_ok_iff {p : Predicate} :
    (Target.step q (.ok p)).1 = .ok () ↔ q.joins.Covers q.table p := by
  constructor
  · intro h
    cases ha : q.add p with
    | error e => rw [Target.step_of_refused ha] at h; cases h
    | ok q' =>
      obtain ⟨c, next, hc, -⟩ := add_eq_ok.1 ha
      exact Condition.covers_of_ofPredicate hc
  · intro h
    obtain ⟨q', ha⟩ := exists_add h
    rw [Target.step_of_add ha]

theorem addReach_ok_iff (hl : leaf.isPlain = true) :
    (Target.addReach q rels leaf).1 = .ok () ↔
      ∃ target, q.joins.walk q.table rels = .ok target := by
  rw [Target.addReach, step_ok_iff, Joins.covers_reach]
  exact exists_congr fun _ => and_iff_left (leaf.covers_of_isPlain hl)

theorem addReachNone_ok_iff (hl : leaf.isPlain = true) :
    (Target.addReachNone q rels leaf).1 = .ok () ↔
      ∃ target, q.joins.walk q.table rels = .ok target := by
  rw [Target.addReachNone, step_ok_iff, Joins.covers_reachNone]
  exact exists_congr fun _ => and_iff_left (leaf.covers_of_isPlain hl)

theorem addReach_of_stopsAt (h : q.joins.StopsAt q.table rels before name last) :
    Target.addReach q rels leaf = (.error (.unknownRelation name last), q) :=
  Target.step_of_refused (add_eq_error.2 (Condition.ofPredicate_reach_of_stopsAt h))

theorem addReachNone_of_stopsAt (h : q.joins.StopsAt q.table rels before name last) :
    Target.addReachNone q rels leaf = (.error (.unknownRelation name last), q) :=
  Target.step_of_refused (add_eq_error.2 (Condition.ofPredicate_reachNone_of_stopsAt h))

end Query

end RowSieve.Sql
