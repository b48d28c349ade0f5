/-
Predicates kept for later. A collector keeps what it is given, where a query writes each predicate
at once, with the next aliases and the values of its places. Steps that ask only for relations that
join go the same way on both; and the one predicate that the collector then gives becomes one
condition, which says what all conditions of the query say, in the same words: within a list each
item takes up the aliases where the item before it has stopped, as one predicate after another does
on a query.
-/
import RowSieve.Proofs.Sql.Clause
import RowSieve.Proofs.Sql.Draft

namespace RowSieve.Filter.Collector

/-- A collector refuses nothing, and keeps the order. -/
theorem foldlM_add (c : Collector) (ps : List Predicate) :
    ps.foldlM Target.add c = .ok ⟨c.predicates ++ ps⟩ := by
  induction ps generalizing c with
  | nil => rw [List.append_nil]; rfl
  | cons p ps ih =>
    rw [List.foldlM_cons, List.append_cons]
    exact ih ⟨c.predicates ++ [p]⟩

theorem run_empty (steps : List Step) : Target.run empty steps =
    (steps.map Step.answer, ⟨steps.flatMap Step.predicates⟩) :=
  Target.run_of_foldlM (foldlM_add empty _)

theorem predicate?_eq_none_iff {ps : List Predicate} : predicate? ⟨ps⟩ = none ↔ ps = [] := by
  cases ps <;> simp [predicate?]

theorem predicate?_eq_some_iff {ps : List Predicate} {p : Predicate} :
    predicate? ⟨ps⟩ = some p ↔ ps ≠ [] ∧ p = .conj ps := by
  cases ps <;> simp [predicate?, eq_comm]

end RowSieve.Filter.Collector

namespace RowSieve.Sql

open RowSieve.Filter (Collector Predicate Step Target)

/-- Texts with `AND` between them, in parentheses when there are at least two. -/
def joined (texts : List String) : String :=
  if 2 ≤ texts.length then "(" ++ " AND ".intercalate texts ++ ")" else " AND ".intercalate texts

/-! ## Conditions together -/

namespace Condition

variable {js : Joins} {table : String} {scope free next : Alias} {cs : List Condition}

/-- All of the conditions; a single one stands for itself. -/
def conj : List Condition → Condition
  | [c] => c
  | cs => all cs

theorem text_conj (h : cs ≠ []) : (conj cs).text = joined (cs.map text) := by
  match cs with
  | [] => exact absurd rfl h
  | [c] => rfl
  | c :: d :: cs =>
    rw [conj, text, texts_eq_map, joined, if_pos (by simp)]
    · rfl
    · simp

theorem params_conj (cs : List Condition) : (conj cs).params = cs.flatMap params := by
  match cs with
  | [] => rfl
  | [c] => rw [conj, List.flatMap_singleton]
  | c :: d :: cs =>
    rw [conj, params, paramsOfAll_eq_flatMap]
    simp

theorem length_of_ofPredicates {ps : List Predicate}
    (h : ofPredicates js table scope free ps = .ok (cs, next)) : cs.length = ps.length := by
  induction ps generalizing free cs with
  | nil => cases h; rfl
  | cons p ps ih =>
    obtain ⟨c, mid, rest, -, hr, rfl⟩ := ofPredicates_cons_eq_ok.1 h
    rw [List.length_cons, List.length_cons, ih hr]

/-- Predicates together become their conditions together. -/
theorem ofPredicate_conj {ps : List Predicate}
    (h : ofPredicates js table scope free ps = .ok (cs, next)) :
    ofPredicate js table scope free (.conj ps) = .ok (conj cs, next) := by
  match ps with
  | [] =>
    cases h
    rfl
  | [p] =>
    obtain ⟨c, mid, rest, hc, hr, rfl⟩ := ofPredicates_cons_eq_ok.1 h
    cases hr
    exact hc
  | p :: p' :: ps =>
    obtain ⟨c, mid, rest, hc, hr, rfl⟩ := ofPredicates_cons_eq_ok.1 h
    obtain ⟨d, mid', rest', -, -, rfl⟩ := ofPredicates_cons_eq_ok.1 hr
    exact ofPredicate_all_eq_ok.2 ⟨_, h, rfl⟩

end Condition

namespace Query

variable {js : Joins} {table : String} {q q' : Query} {ps : List Predicate}

/-- Predicates that are added one after another become the conditions of the list: the alias that
one leaves to the next is carried by the query here and by the list there. -/
theorem foldlM_eq_ok : ps.foldlM Query.add q = .ok q' ↔ ∃ cs next,
    Condition.ofPredicates q.joins q.table rootAlias q.nextAlias ps = .ok (cs, next) ∧
      q' = { q with conditions := q.conditions ++ cs, nextAlias := next } := by
  induction ps generalizing q with
  | nil =>
    constructor
    · rintro h
      cases h
      exact ⟨[], _, rfl, by rw [List.append_nil]⟩
    · rintro ⟨cs, next, h, rfl⟩
      cases h
      rw [List.append_nil]
      rfl
  | cons p ps ih =>
    rw [List.foldlM_cons, bind_eq_ok]
    simp only [add_eq_ok, ih, Condition.ofPredicates_cons_eq_ok]
    constructor
    · rintro ⟨_, ⟨c, mid, hc, rfl⟩, cs, next, hs, rfl⟩
      exact ⟨c :: cs, next, ⟨c, mid, cs, hc, hs, rfl⟩, by simp⟩
    · rintro ⟨_, next, ⟨c, mid, cs, hc, hs, rfl⟩, rfl⟩
      exact ⟨_, ⟨c, mid, hc, rfl⟩, cs, next, hs, by simp⟩

/-- Nothing is left out of the conditions. -/
theorem conditions_eq_nil_iff (h : ps.foldlM Query.add (start js table) = .ok q) :
    q.conditions = [] ↔ ps = [] := by
  obtain ⟨cs, next, hs, rfl⟩ := foldlM_eq_ok.1 h
  show [] ++ cs = [] ↔ ps = []
  rw [List.nil_append, ← List.length_eq_zero_iff, ← List.length_eq_zero_iff,
    Condition.length_of_ofPredicates hs]

/-- Predicates added together leave one condition where predicates added one after another leave
several, with the same values and the same next alias. -/
theorem add_conj (hne : ps ≠ []) (h : ps.foldlM Query.add (start js table) = .ok q) :
    ∃ q', (start js table).add (.conj ps) = .ok q' ∧
      q'.conditionTexts = [joined q.conditionTexts] ∧ q'.params = q.params ∧
      q'.nextAlias = q.nextAlias := by
  have hq : q.conditions ≠ [] := mt (conditions_eq_nil_iff h).1 hne
  obtain ⟨cs, next, hs, rfl⟩ := foldlM_eq_ok.1 h
  refine ⟨_, add_eq_ok.2 ⟨_, _, Condition.ofPredicate_conj hs, rfl⟩, ?_, ?_, rfl⟩
  · exact congrArg ([·]) (Condition.text_conj hq)
  · show [Condition.conj cs].flatMap Condition.params = cs.flatMap Condition.params
    rw [List.flatMap_singleton, Condition.params_conj]

theorem whereClause_eq_empty_iff : q.whereClause = "" ↔ q.conditions = [] := by
  rw [whereClause, ← List.isEmpty_iff]
  split
  · simp_all
  · simp_all [← String.toList_inj]

theorem run_start {steps : List Step}
    (h : ∀ p ∈ steps.flatMap Step.predicates, js.Covers table p) :
    ∃ q, Target.run (start js table) steps = (steps.map Step.answer, q) ∧
      (steps.flatMap Step.predicates).foldlM Query.add (start js table) = .ok q := by
  obtain ⟨q, hf⟩ := exists_foldlM (q := start js table) h
  exact ⟨q, Target.run_of_foldlM hf, hf⟩

/-- A collector and a query agree. On a query with a join for every relation that steps ask for,
they answer what they answer on a collector. The collector gives no predicate exactly when the query
has no clause; and the predicate that it gives otherwise makes another query of one condition: the
texts of the first query with `AND` between them, with the same values in the same order and the
same next alias. Drafts, which are written in one pass, go the same way as both queries. -/
theorem targets_agree {steps : List Step}
    (hj : ∀ p ∈ steps.flatMap Step.predicates, js.Covers table p) :
    let collected := Target.run Collector.empty steps
    let queried := Target.run (start js table) steps
    collected.1 = queried.1 ∧
    (collected.2.predicate? = none ↔ queried.2.whereClause = "") ∧
    (∀ p, collected.2.predicate? = some p → ∃ q, (start js table).add p = .ok q ∧
      q.conditionTexts = [joined queried.2.conditionTexts] ∧ q.params = queried.2.params ∧
      q.nextAlias = queried.2.nextAlias ∧ (Draft.start js table).add p = .ok q.draft) ∧
    Target.run (Draft.start js table) steps = (queried.1, queried.2.draft) := by
  obtain ⟨q, hrun, hf⟩ := run_start hj
  have hdraft := run_draft (start js table) steps
  rw [hrun] at hdraft ⊢
  rw [Collector.run_empty]
  refine ⟨rfl, ?_, fun p hp => ?_, hdraft⟩
  · rw [Collector.predicate?_eq_none_iff, whereClause_eq_empty_iff, conditions_eq_nil_iff hf]
  · obtain ⟨hne, rfl⟩ := Collector.predicate?_eq_some_iff.1 hp
    obtain ⟨q', hadd, htexts, hparams, hnext⟩ := add_conj hne hf
    have hd : (Draft.start js table).add (.conj (steps.flatMap Step.predicates)) =
        ((start js table).add (.conj (steps.flatMap Step.predicates))).map draft :=
      add_draft (start js table) _
    exact ⟨q', hadd, htexts, hparams, hnext, by rw [hd, hadd]; rfl⟩

/-- A request that is not understood, between a comparison and a denied subquery. -/
theorem targets_agree_around_refusal : ∃ (js : Joins) (steps : List Step) (p : Predicate)
    (q : Query), (∀ p ∈ steps.flatMap Step.predicates, js.Covers "a" p) ∧
    (Target.run (start js "a") steps).1 = [.ok .added, .error (.unknownKey "z"), .ok .added] ∧
    (Target.run Collector.empty steps).1 = (Target.run (start js "a") steps).1 ∧
    (Target.run Collector.empty steps).2.predicate? = some p ∧ (start js "a").add p = .ok q ∧
    q.conditionTexts = ["(t0.\"x\" = ? AND NOT EXISTS (SELECT 1 FROM \"b\" AS r1 " ++
      "WHERE r1.\"a_id\" = t0.\"id\" AND r1.\"y\" <> ?))"] ∧
    q.params = [.integer 1, .integer 2] ∧ q.nextAlias = 2 := by
  let js := Joins.empty.add "a" "r" ⟨"b", "id", "a_id"⟩
  let steps : List Step := [.add (.predicate (.compare ⟨"x", false⟩ .eq (.integer 1))),
    .batch ⟨[], rfl⟩ [⟨"z", "equals", none⟩],
    .add (.reachNone ["r"] (.compare ⟨"y", false⟩ .ne (.integer 2)))]
  have hj : ∀ p ∈ steps.flatMap Step.predicates, js.Covers "a" p := by
    show ∀ p ∈ [_, _], js.Covers "a" p
    simp only [List.forall_mem_cons]
    exact ⟨trivial, ⟨_, rfl, trivial⟩, fun _ h => absurd h List.not_mem_nil⟩
  obtain ⟨hsame, -, hone, -⟩ := targets_agree hj
  obtain ⟨q, hq, htexts, hparams, hnext, -⟩ := hone _ rfl
  exact ⟨js, steps, _, q, hj, rfl, hsame, rfl, hq, htexts.trans (by decide +kernel), hparams,
    hnext⟩

end Query

end RowSieve.Sql
