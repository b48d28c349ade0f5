/-
Steps on a query that fail. An addition is made whole or not at all, also when the writer of its
text has already taken aliases and set values aside; so a run goes the same way without the
additions that fail. A batch is refused whole when one of its requests is not understood. When each
of them is understood but a relation of one has no join, the requests before that one stay.
-/
import Mathlib.Data.List.Forall2
import RowSieve.Proofs.Filter.Catalog
import RowSieve.Proofs.Sql.Clause
import RowSieve.Proofs.Sql.Draft

namespace RowSieve.Filter.Catalog

variable {c : Catalog}

/-- The predicates of a list are those of its requests, in their order. -/
theorem predicates_eq_ok_iff : ∀ {rs : List Request} {ps : List Predicate},
    c.predicates rs = .ok ps ↔ List.Forall₂ (fun r p => c.predicate r = .ok p) rs ps
  | [], ps => by
    rw [List.forall₂_nil_left_iff, predicates]
    exact ⟨fun h => by cases h; rfl, fun h => by rw [h]⟩
  | r :: rs, ps => by
    rw [predicates_cons_eq_ok, List.forall₂_cons_left_iff]
    simp only [predicates_eq_ok_iff]

end RowSieve.Filter.Catalog

namespace RowSieve.Sql

open RowSieve.Filter (Addition Catalog Field Predicate Request Step Target)

namespace Query

/-! ## Additions -/

/-- An addition that is refused is not understood, or fails while it is written; what its writer
had by then is nowhere in the query. -/
theorem extend_refused {q : Query} {a : Addition} {e : Filter.Error}
    (h : Target.extend q a = (.error e, q)) :
    a.predicate? = .error e ∨ ∃ p s, a.predicate? = .ok p ∧
      Writing.predicate q.joins q.table rootAlias p ⟨[], q.nextAlias⟩ = (.error e, s) := by
  rw [Target.extend_eq_step] at h
  cases hp : a.predicate? with
  | error e' =>
    rw [hp] at h
    cases h
    exact .inl rfl
  | ok p =>
    rw [hp] at h
    cases ha : q.add p with
    | ok q' =>
      rw [Target.step_of_add ha] at h
      cases h
    | error e' =>
      rw [Target.step_of_refused ha] at h
      cases h
      obtain ⟨s, hs⟩ := Writing.predicate_of_error p (s := ⟨[], q.nextAlias⟩) (add_eq_error.1 ha)
      exact .inr ⟨p, s, rfl, hs⟩

/-- Additions that fail leave no trace. Each addition is made, or answers an error and leaves the
query as it was, whatever the writer of its text had taken and set aside; without those that fail, a
run answers no error and ends in the same query; and a draft, whose texts and values are written in
one pass, goes through all of it as the query does. -/
theorem failures_leave_no_trace (q : Query) :
    (∀ a : Addition, (∃ q', Target.extend q a = (.ok (), q')) ∨
      ∃ e, Target.extend q a = (.error e, q) ∧
        (a.predicate? = .error e ∨ ∃ p s, a.predicate? = .ok p ∧
          Writing.predicate q.joins q.table rootAlias p ⟨[], q.nextAlias⟩ = (.error e, s))) ∧
    ∀ as : List Addition,
      let steps := as.map Step.add
      let kept := Target.kept steps (Target.run q steps).1
      Target.run q kept = (kept.map fun _ => .ok .added, (Target.run q steps).2) ∧
      Target.run q.draft steps = ((Target.run q steps).1, (Target.run q steps).2.draft) := by
  refine ⟨fun a => ?_, fun as => ⟨Target.run_kept q as, run_draft q _⟩⟩
  rcases Target.extend_cases q a with ⟨p, q', -, -, h⟩ | ⟨e, h⟩
  · exact .inl ⟨q', h⟩
  · exact .inr ⟨e, h, extend_refused h⟩

-- A value and an alias have been taken when the inner hop of the second item fails.
example : Writing.predicate (Joins.empty.add "a" "r" ⟨"b", "id", "a_id"⟩) "a" rootAlias
    (.all [.compare ⟨"x", false⟩ .eq (.integer 1), .reach ["r", "s"] (.all [])]) ⟨[], 1⟩ =
      (.error (.unknownRelation "s" "b"), ⟨[.integer 1], 2⟩) := rfl

/-! ## Batches -/

/-- Conditions that predicates become on a query, whichever aliases are free by then. -/
def Becomes (q : Query) (p : Predicate) (c : Condition) : Prop :=
  ∃ free next, Condition.ofPredicate q.joins q.table rootAlias free p = .ok (c, next)

/-- One condition is appended for each predicate, in their order. -/
theorem conditions_of_foldlM {ps : List Predicate} {q q' : Query}
    (h : ps.foldlM Query.add q = .ok q') : q'.joins = q.joins ∧ q'.table = q.table ∧
      ∃ cs, q'.conditions = q.conditions ++ cs ∧ List.Forall₂ q.Becomes ps cs := by
  refine foldlM_induct (P := fun ps q' => q'.joins = q.joins ∧ q'.table = q.table ∧
      ∃ cs, q'.conditions = q.conditions ++ cs ∧ List.Forall₂ q.Becomes ps cs)
    ⟨rfl, rfl, [], (List.append_nil _).symm, .nil⟩ ?_ h
  rintro ps mid p _ ⟨hj, ht, cs, hcs, hb⟩ ha
  obtain ⟨c, next, hc, rfl⟩ := add_eq_ok.1 ha
  rw [hj, ht] at hc
  refine ⟨hj, ht, cs ++ [c], ?_, List.rel_append hb (.cons ⟨_, _, hc⟩ .nil)⟩
  rw [hcs, List.append_assoc]

theorem forall₂_comp {α β γ : Type} {R : α → β → Prop} {S : β → γ → Prop} :
    ∀ {as : List α} {bs : List β} {cs : List γ}, List.Forall₂ R as bs → List.Forall₂ S bs cs →
      List.Forall₂ (fun a c => ∃ b, R a b ∧ S b c) as cs
  | _, _, _, .nil, .nil => .nil
  | _, _, _, .cons h hs, .cons h' hs' => .cons ⟨_, h, h'⟩ (forall₂_comp hs hs')

/-- What a query refuses after predicates have been added to it does not join. -/
theorem refused_of_foldlM {q mid : Query} {ps : List Predicate} {p : Predicate} {e : Filter.Error}
    (hf : ps.foldlM Query.add q = .ok mid) (h : mid.add p = .error e) :
    ¬q.joins.Covers q.table p ∧ ∃ relation last, e = .unknownRelation relation last ∧
      q.joins.find? last relation = none := by
  obtain ⟨hj, ht, -⟩ := conditions_of_foldlM hf
  rw [← hj, ← ht]
  refine ⟨fun hcov => ?_, ?_⟩
  · obtain ⟨q', h'⟩ := exists_add hcov
    cases h.symm.trans h'
  · exact Condition.ofPredicate_error p (add_eq_error.1 h)

theorem addRequests_of_error {q : Query} {c : Catalog} {rs : List Request} {e : Filter.Error}
    (h : c.predicates rs = .error e) : Target.addRequests q c rs = (.error e, q) := by
  simp only [Target.addRequests, h]

theorem addRequests_of_ok {q q' : Query} {c : Catalog} {rs : List Request} {ps : List Predicate}
    (h : c.predicates rs = .ok ps) (hf : ps.foldlM Query.add q = .ok q') :
    Target.addRequests q c rs = (.ok ps.length, q') := by
  have hall := Target.addAll_of_foldlM (t := q) hf
  simp only [Target.addRequests, h, hall]

/-- A batch either adds one condition for each request, in their order, or fails. It is refused
whole as the first request that is not understood. When all are understood, the first whose
relations do not all join is refused, and the query is the one that the requests before it lead to;
so of a batch that fails later the earlier conditions stay. -/
theorem batch_stops_at_missing_join (q : Query) (c : Catalog) (rs : List Request) :
    match Target.addRequests q c rs with
    | (.ok n, q') => n = rs.length ∧ ∃ cs, q'.conditions = q.conditions ++ cs ∧
      List.Forall₂ (fun r c' => ∃ p, c.predicate r = .ok p ∧ q.Becomes p c') rs cs
    | (.error e, q') => (c.predicates rs = .error e ∧ q' = q) ∨
      ∃ before r after p relation last, rs = before ++ r :: after ∧
        (∃ ps, c.predicates rs = .ok ps) ∧ c.predicate r = .ok p ∧
        ¬q.joins.Covers q.table p ∧ q.joins.find? last relation = none ∧
        e = .unknownRelation relation last ∧
        Target.addRequests q c before = (.ok before.length, q') := by
  cases hp : c.predicates rs with
  | error e =>
    rw [addRequests_of_error hp]
    exact .inl ⟨rfl, rfl⟩
  | ok ps =>
    have hrs := Catalog.predicates_eq_ok_iff.1 hp
    rcases Target.addAll_cases q ps with ⟨q', -, hf⟩ | ⟨front, p, back, mid, e, rfl, hf, hadd, hall⟩
    · rw [addRequests_of_ok hp hf]
      obtain ⟨-, -, cs, hcs, hb⟩ := conditions_of_foldlM hf
      exact ⟨hrs.length_eq.symm, cs, hcs, forall₂_comp hrs hb⟩
    · -- the request of the refused predicate, and those before it
      have hfront := List.forall₂_take_append rs front (p :: back) hrs
      obtain ⟨r, after, hr, -, hdrop⟩ := List.forall₂_cons_right_iff.1
        (List.forall₂_drop_append rs front (p :: back) hrs)
      obtain ⟨hcov, relation, last, he, hm⟩ := refused_of_foldlM hf hadd
      have hbatch : Target.addRequests q c rs = (.error e, mid) := by
        simp only [Target.addRequests, hp, hall]
      rw [hbatch]
      refine .inr ⟨rs.take front.length, r, after, p, relation, last, ?_, ⟨_, rfl⟩, hr, hcov, hm,
        he, ?_⟩
      · rw [← hdrop, List.take_append_drop]
      · rw [addRequests_of_ok (Catalog.predicates_eq_ok_iff.2 hfront) hf, hfront.length_eq]

/-- A batch that is refused can leave conditions behind: without any joins, the first of two
requests stays when the relation of the second is missing. -/
theorem batch_stops_half_way :
    ¬∀ (js : Joins) (table : String) (steps : List Step) (c : Catalog) (rs : List Request)
      (e : Filter.Error) (q' : Query),
      Target.addRequests (Target.run (start js table) steps).2 c rs = (.error e, q') →
      q'.conditionTexts = (Target.run (start js table) steps).2.conditionTexts := by
  intro hall
  have hsame := hall .empty "invoices" []
    ⟨[.ofKind "number" .text, .ofKind "customer.email" .text], rfl⟩
    [⟨"number", "equals", some (.scalar (.text "INV-1"))⟩,
      ⟨"customer.email", "equals", some (.scalar (.text "a@example.com"))⟩] _ _ rfl
  exact absurd (congrArg List.length hsame) (by decide)

end Query

end RowSieve.Sql
