/-
The texts of a query show nothing of its values. The outline of a condition is the condition with a
blank for every value; its text is the same, and it has as many parameters. The condition of a
predicate's outline is the outline of its condition, aliases included, so that predicates of one
outline become conditions of one text.
-/
import RowSieve.Proofs.Filter.Outline
import RowSieve.Proofs.Sql.Clause

namespace RowSieve.Sql

open RowSieve.Filter (Predicate blank)

namespace Condition

/-! ## Outlines of conditions -/

mutual

/-- The condition with blanks for its values. -/
def outline : Condition → Condition
  | compare c op _ => compare c op blank
  | among c values negated => among c (List.replicate values.length blank) negated
  | like c _ negated => like c "" negated
  | isNull c negated sentinel? => isNull c negated (sentinel?.map fun _ => blank)
  | all items => all (outlines items)
  | any items => any (outlines items)
  | subquery negated join inner outer body => subquery negated join inner outer body.outline

def outlines : List Condition → List Condition
  | [] => []
  | c :: rest => c.outline :: outlines rest

end

mutual

/-- The text of a condition is that of its outline. -/
theorem text_outline : ∀ c : Condition, c.outline.text = c.text
  | compare .. => rfl
  | among c values negated => by
    rw [outline, text, text, List.map_replicate, List.map_const']
  | like .. => rfl
  | isNull c negated sentinel? => by
    cases sentinel? <;> cases negated <;> rfl
  | all items => by rw [outline, text, text, texts_outlines items]
  | any items => by rw [outline, text, text, texts_outlines items]
  | subquery negated join inner outer body => by rw [outline, text, text, text_outline body]

theorem texts_outlines : ∀ cs : List Condition, texts (outlines cs) = texts cs
  | [] => rfl
  | c :: cs => by rw [outlines, texts, texts, text_outline c, texts_outlines cs]

end

mutual

/-- A condition has as many parameters as its outline. -/
theorem length_params_outline : ∀ c : Condition, c.outline.params.length = c.params.length
  | compare .. => rfl
  | among c values negated => by rw [outline, params, params, List.length_replicate]
  | like .. => rfl
  | isNull c negated sentinel? => by cases sentinel? <;> rfl
  | all items => by rw [outline, params, params, length_paramsOfAll_outlines items]
  | any items => by rw [outline, params, params, length_paramsOfAll_outlines items]
  | subquery negated join inner outer body => by
    rw [outline, params, params, length_params_outline body]

theorem length_paramsOfAll_outlines : ∀ cs : List Condition,
    (paramsOfAll (outlines cs)).length = (paramsOfAll cs).length
  | [] => rfl
  | c :: cs => by
    rw [outlines, paramsOfAll, paramsOfAll, List.length_append, List.length_append,
      length_params_outline c, length_paramsOfAll_outlines cs]

end

/-! ## Conditions of predicates of one outline -/

/-- The condition of an outline is the outline of the condition, with the same aliases. -/
theorem ofPredicate_outline {js : Joins} {table : String} {scope free next : Alias}
    {p : Predicate} {c : Condition} (h : ofPredicate js table scope free p = .ok (c, next)) :
    ofPredicate js table scope free p.outline = .ok (c.outline, next) := by
  refine ofPredicate_induct
    (M := fun t a f p c m => ofPredicate js t a f p.outline = .ok (c.outline, m))
    (L := fun t a f ps cs m =>
      ofPredicates js t a f (Predicate.outlines ps) = .ok (outlines cs, m))
    ⟨?_, ?_, ?_, ?_, ?_, ?_, ?_, ?_, ?_⟩ p h
  · intro t a f c op v
    rw [Predicate.outline, outline, ofPredicate]
  · intro t a f c vs n
    rw [Predicate.outline, outline, ofPredicate]
  · intro t a f c s n
    rw [Predicate.outline, outline, ofPredicate]
  · intro t a f c n v
    rw [Predicate.outline, outline, ofPredicate]
  · intro t a f ps cs m hs
    rw [Predicate.outline, outline]
    exact ofPredicate_all_eq_ok.2 ⟨_, hs, rfl⟩
  · intro t a f ps cs m hs
    rw [Predicate.outline, outline]
    exact ofPredicate_any_eq_ok.2 ⟨_, hs, rfl⟩
  · intro t a f n r p j c m hj hb
    rw [Predicate.outline_related, outline]
    exact ofPredicate_related_eq_ok.2 ⟨j, _, hj, hb, rfl⟩
  · intro t a f
    rw [Predicate.outlines, outlines, ofPredicates]
  · intro t a f p ps c cs k m hc hs
    rw [Predicate.outlines, outlines]
    exact ofPredicates_cons_eq_ok.2 ⟨_, k, _, hc, hs, rfl⟩

end Condition

/-! ## Outlines of queries -/

namespace Query

variable {q q' : Query}

/-- The query with blanks for its values. -/
def outline (q : Query) : Query := { q with conditions := q.conditions.map Condition.outline }

theorem conditionTexts_outline (q : Query) : q.outline.conditionTexts = q.conditionTexts := by
  rw [conditionTexts, conditionTexts, outline, List.map_map]
  exact List.map_congr_left fun c _ => c.text_outline

theorem whereClause_outline (q : Query) : q.outline.whereClause = q.whereClause := by
  rw [whereClause, whereClause, conditionTexts_outline, outline, List.isEmpty_map]

theorem length_params_outline (q : Query) : q.outline.params.length = q.params.length := by
  rw [params, params, outline, List.length_flatMap, List.length_flatMap, List.map_map]
  exact congrArg List.sum (List.map_congr_left fun c _ => c.length_params_outline)

theorem add_outline {p : Predicate} (h : q.add p = .ok q') :
    q.outline.add p.outline = .ok q'.outline := by
  obtain ⟨c, next, hc, rfl⟩ := add_eq_ok.1 h
  refine add_eq_ok.2 ⟨c.outline, next, Condition.ofPredicate_outline hc, ?_⟩
  rw [outline, outline, List.map_append, List.map_singleton]

/-- Adding the outlines of predicates leads to the outline of the query. -/
theorem foldlM_outline : ∀ {ps : List Predicate} {q : Query}, ps.foldlM Query.add q = .ok q' →
    (ps.map Predicate.outline).foldlM Query.add q.outline = .ok q'.outline
  | [], _, h => by cases h; rfl
  | p :: ps, q, h => by
    rw [List.foldlM_cons] at h
    obtain ⟨mid, ha, h⟩ := bind_eq_ok.1 h
    rw [List.map_cons, List.foldlM_cons, add_outline ha]
    exact foldlM_outline h

/-- Queries of predicates of the same outlines have the same outline. -/
theorem outline_eq_of_foldlM {ps ps' : List Predicate} {start : Query}
    (ho : ps.map Predicate.outline = ps'.map Predicate.outline)
    (h : ps.foldlM Query.add start = .ok q) (h' : ps'.foldlM Query.add start = .ok q') :
    q.outline = q'.outline := by
  have hf := foldlM_outline h
  rw [ho, foldlM_outline h'] at hf
  exact (Except.ok.inj hf).symm

/-- Queries of one outline have the same texts and equally many parameters. -/
theorem texts_eq_of_outline_eq (h : q.outline = q'.outline) :
    q.conditionTexts = q'.conditionTexts ∧ q.whereClause = q'.whereClause ∧
      q.params.length = q'.params.length := by
  refine ⟨?_, ?_, ?_⟩
  · rw [← conditionTexts_outline, h, conditionTexts_outline]
  · rw [← whereClause_outline, h, whereClause_outline]
  · rw [← length_params_outline, h, length_params_outline]

end Query

end RowSieve.Sql
