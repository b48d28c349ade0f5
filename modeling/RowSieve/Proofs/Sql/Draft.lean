/-
Clauses written in one pass. The writer of a predicate takes the next alias when it comes upon a
subquery and sets a value aside when it comes upon its place; the text is put together from within.
When it fails half way, what it has taken and set aside until then is dropped. A draft is what such
a writer keeps: the texts, and the values set aside for them. It goes the same way as the query
whose conditions hold each value where it belongs: the texts are those of the conditions, the values
are their parameters, and what one refuses the other refuses.
-/
import RowSieve.Proofs.Filter.Steps
import RowSieve.Sql.Query

namespace RowSieve.Sql

open RowSieve.Filter (Predicate Target)

/-! ## Writing -/

/-- What is taken and set aside while a predicate is written. -/
structure Scratch where
  values : List Datum
  nextAlias : Alias

/-- Writing that can fail half way, with what has been set aside until then. -/
abbrev Writing := ExceptT Filter.Error (StateM Scratch)

namespace Writing

def setAside (ds : List Datum) : Writing Unit :=
  modify fun s => { s with values := s.values ++ ds }

def takeAlias : Writing Alias :=
  modifyGet fun s => (s.nextAlias, { s with nextAlias := s.nextAlias + 1 })

/-- A test of a column, whose parameters are set aside. -/
def leaf (c : Condition) : Writing String := do
  setAside c.params
  return c.text

/-- A subquery around the text of its body. -/
def subqueryText (negated : Bool) (join : Join) (inner outer : Alias) (body : String) : String :=
  notText negated ++ "EXISTS (SELECT 1 FROM " ++ quoteIdent join.target ++ " AS " ++
    aliasText inner ++ " WHERE " ++ qualified inner join.foreignKey ++ " = " ++
    qualified outer join.localKey ++ " AND " ++ body ++ ")"

/-- A subquery, whose alias is taken before its body is written. -/
def subquery (js : Joins) (table : String) (scope : Alias) (negated : Bool) (relation : String)
    (body : Join → Alias → Writing String) : Writing String := do
  let join ← js.resolve table relation
  let inner ← takeAlias
  return subqueryText negated join inner scope (← body join inner)

mutual

/-- Writes a predicate on rows of `table` under the alias `scope`. -/
def predicate (js : Joins) (table : String) (scope : Alias) : Predicate → Writing String
  | .compare c op d => leaf (.compare ⟨scope, c⟩ op d)
  | .among c ds negated => leaf (.among ⟨scope, c⟩ ds negated)
  | .like c pattern negated => leaf (.like ⟨scope, c⟩ pattern negated)
  | .isNull c negated sentinel? => leaf (.isNull ⟨scope, c⟩ negated sentinel?)
  | .all items => do return groupText " AND " "1=1" (← predicates js table scope items)
  | .any items => do return groupText " OR " "1=0" (← predicates js table scope items)
  | .having relation body =>
    subquery js table scope false relation fun join inner => predicate js join.target inner body
  | .lacking relation body =>
    subquery js table scope true relation fun join inner => predicate js join.target inner body

def predicates (js : Joins) (table : String) (scope : Alias) :
    List Predicate → Writing (List String)
  | [] => return []
  | p :: rest => do
    let text ← predicate js table scope p
    return text :: (← predicates js table scope rest)

end

/-! ## Steps of writing -/

section Steps

variable {js : Joins} {table : String} {scope : Alias} {s s' : Scratch}

theorem bind_of_ok {α β : Type} {x : Writing α} {f : α → Writing β} {a : α}
    (h : x s = (.ok a, s')) : (x >>= f) s = f a s' := by
  show ExceptT.bind x f s = _
  unfold ExceptT.bind ExceptT.mk
  show StateT.bind x _ s = _
  unfold StateT.bind
  rw [h]
  rfl

theorem bind_of_error {α β : Type} {x : Writing α} {f : α → Writing β} {e : Filter.Error}
    (h : x s = (.error e, s')) : (x >>= f) s = (.error e, s') := by
  show ExceptT.bind x f s = _
  unfold ExceptT.bind ExceptT.mk
  show StateT.bind x _ s = _
  unfold StateT.bind
  rw [h]
  rfl

/-- A subquery takes an alias when its relation joins, before its body is written. -/
theorem subquery_of_find {negated : Bool} {relation : String} {join : Join}
    (hj : js.find? table relation = some join) (body : Join → Alias → Writing String) :
    subquery js table scope negated relation body s =
      (body join s.nextAlias >>= fun text =>
        pure (subqueryText negated join s.nextAlias scope text)) ⟨s.values, s.nextAlias + 1⟩ := by
  unfold subquery Joins.resolve
  rw [hj]
  rfl

theorem subquery_of_missing {negated : Bool} {relation : String}
    (hj : js.find? table relation = none) (body : Join → Alias → Writing String) :
    subquery js table scope negated relation body s =
      (.error (.unknownRelation relation table), s) := by
  unfold subquery Joins.resolve
  rw [hj]
  rfl

theorem predicate_related (n : Bool) (relation : String) (p : Predicate) :
    predicate js table scope (.related n relation p) =
      subquery js table scope n relation fun join inner => predicate js join.target inner p := by
  cases n <;> simp only [Predicate.related, Bool.false_eq_true, if_false, if_true, predicate]

end Steps

/-! ## What is written -/

/-- What is written of a predicate is the text of its condition, and what is set aside are the
condition's parameters. -/
theorem predicate_of_ok {js : Joins} {table : String} {scope : Alias} {s : Scratch} {p : Predicate}
    {c : Condition} {next : Alias}
    (h : Condition.ofPredicate js table scope s.nextAlias p = .ok (c, next)) :
    predicate js table scope p s = (.ok c.text, ⟨s.values ++ c.params, next⟩) := by
  -- what has been set aside earlier varies in the induction, as each item of a list leaves more
  have key := Condition.ofPredicate_induct
    (M := fun t a f p c m => ∀ vs, predicate js t a p ⟨vs, f⟩ = (.ok c.text, ⟨vs ++ c.params, m⟩))
    (L := fun t a f ps cs m => ∀ vs, predicates js t a ps ⟨vs, f⟩ =
      (.ok (Condition.texts cs), ⟨vs ++ Condition.paramsOfAll cs, m⟩))
    ⟨?_, ?_, ?_, ?_, ?_, ?_, ?_, ?_, ?_⟩ p h
  · exact key s.values
  · intro t a f c op v vs
    rw [predicate]; rfl
  · intro t a f c ds n vs
    rw [predicate]; rfl
  · intro t a f c pattern n vs
    rw [predicate]; rfl
  · intro t a f c n v vs
    rw [predicate]; rfl
  · intro t a f ps cs m hs vs
    rw [predicate, bind_of_ok (hs vs), Condition.text, Condition.params]
    rfl
  · intro t a f ps cs m hs vs
    rw [predicate, bind_of_ok (hs vs), Condition.text, Condition.params]
    rfl
  · intro t a f n r p j c m hj hb vs
    rw [predicate_related, subquery_of_find hj, bind_of_ok (hb vs), Condition.params]
    rfl
  · intro t a f vs
    rw [predicates, Condition.texts, Condition.paramsOfAll, List.append_nil]
    rfl
  · intro t a f p ps c cs k m hc hs vs
    rw [predicates, bind_of_ok (hc vs), bind_of_ok (hs _), Condition.texts, Condition.paramsOfAll,
      List.append_assoc]
    rfl

section Failures

variable {js : Joins}

mutual

/-- Writing fails as the resolution of the predicate does, whatever has been set aside by then. -/
theorem predicate_of_error : ∀ (p : Predicate) {table : String} {scope : Alias} {s : Scratch}
    {e : Filter.Error}, Condition.ofPredicate js table scope s.nextAlias p = .error e →
    ∃ s', predicate js table scope p s = (.error e, s')
  | .compare .., _, _, _, _, h | .among .., _, _, _, _, h | .like .., _, _, _, _, h
  | .isNull .., _, _, _, _, h => by rw [Condition.ofPredicate] at h; cases h
  | .all ps, _, _, _, _, h => by
    obtain ⟨s', hs⟩ := predicates_of_error ps (Condition.ofPredicate_all_eq_error.1 h)
    exact ⟨s', by rw [predicate, bind_of_error hs]⟩
  | .any ps, _, _, _, _, h => by
    obtain ⟨s', hs⟩ := predicates_of_error ps (Condition.ofPredicate_any_eq_error.1 h)
    exact ⟨s', by rw [predicate, bind_of_error hs]⟩
  | .having r p, _, _, s, _, h => by
    obtain ⟨hj, rfl⟩ | ⟨join, hj, hb⟩ := (Condition.ofPredicate_related_eq_error (n := false)).1 h
    · exact ⟨s, by rw [predicate, subquery_of_missing hj]⟩
    · obtain ⟨s', hs⟩ := predicate_of_error p (s := ⟨s.values, s.nextAlias + 1⟩) hb
      exact ⟨s', by rw [predicate, subquery_of_find hj, bind_of_error hs]⟩
  | .lacking r p, _, _, s, _, h => by
    obtain ⟨hj, rfl⟩ | ⟨join, hj, hb⟩ := (Condition.ofPredicate_related_eq_error (n := true)).1 h
    · exact ⟨s, by rw [predicate, subquery_of_missing hj]⟩
    · obtain ⟨s', hs⟩ := predicate_of_error p (s := ⟨s.values, s.nextAlias + 1⟩) hb
      exact ⟨s', by rw [predicate, subquery_of_find hj, bind_of_error hs]⟩

theorem predicates_of_error : ∀ (ps : List Predicate) {table : String} {scope : Alias}
    {s : Scratch} {e : Filter.Error},
    Condition.ofPredicates js table scope s.nextAlias ps = .error e →
    ∃ s', predicates js table scope ps s = (.error e, s')
  | [], _, _, _, _, h => by rw [Condition.ofPredicates] at h; cases h
  | p :: ps, _, _, s, _, h => by
    obtain hp | ⟨c, mid, hc, hps⟩ := Condition.ofPredicates_cons_eq_error.1 h
    · obtain ⟨s', hs⟩ := predicate_of_error p hp
      exact ⟨s', by rw [predicates, bind_of_error hs]⟩
    · obtain ⟨s', hs⟩ := predicates_of_error ps (s := ⟨s.values ++ c.params, mid⟩) hps
      exact ⟨s', by rw [predicates, bind_of_ok (predicate_of_ok hc), bind_of_error hs]⟩

end

end Failures

end Writing

/-! ## Drafts -/

/-- A clause as it has been written so far: its texts, and the values set aside for their
places. -/
structure Draft where
  joins : Joins
  table : String
  texts : List String
  values : List Datum
  nextAlias : Alias

namespace Draft

/-- A draft without texts. -/
def start (js : Joins) (table : String) : Draft := ⟨js, table, [], [], 1⟩

/-- The draft with the text of one more predicate; nothing of a predicate that cannot be written
is kept. -/
def add (d : Draft) (p : Predicate) : Except Filter.Error Draft :=
  match Writing.predicate d.joins d.table rootAlias p ⟨[], d.nextAlias⟩ with
  | (.ok text, s) => .ok { d with
      texts := d.texts ++ [text], values := d.values ++ s.values, nextAlias := s.nextAlias }
  | (.error e, _) => .error e

instance : Target Draft where
  add := add
  columnText _ name := qualified rootAlias name

/-- The clause, or nothing without texts. -/
def whereClause (d : Draft) : String :=
  if d.texts.isEmpty then "" else "WHERE " ++ " AND ".intercalate d.texts

end Draft

namespace Query

/-- The query as a writer has it. -/
def draft (q : Query) : Draft := ⟨q.joins, q.table, q.conditionTexts, q.params, q.nextAlias⟩

theorem whereClause_draft (q : Query) : q.draft.whereClause = q.whereClause := by
  rw [Draft.whereClause, whereClause, draft, conditionTexts, List.isEmpty_map]

/-- A draft answers additions as the query does. -/
theorem add_draft (q : Query) (p : Predicate) :
    Target.add q.draft p = (Target.add q p).map draft := by
  show Draft.add q.draft p = (q.add p).map draft
  unfold Draft.add add
  cases h : Condition.ofPredicate q.joins q.table rootAlias q.nextAlias p with
  | error e =>
    obtain ⟨s, hs⟩ := Writing.predicate_of_error p (s := ⟨[], q.nextAlias⟩) h
    simp only [draft, hs]
    rfl
  | ok r =>
    obtain ⟨c, next⟩ := r
    have hs := Writing.predicate_of_ok (s := ⟨[], q.nextAlias⟩) h
    simp only [draft, hs]
    simp [bind, Except.bind, Except.map, pure, Except.pure, draft, conditionTexts, params]

/-- A draft goes through steps as the query does. -/
theorem run_draft (q : Query) (steps : List Filter.Step) :
    Target.run q.draft steps = ((Target.run q steps).1, (Target.run q steps).2.draft) :=
  Target.run_alike add_draft q steps

end Query

end RowSieve.Sql
