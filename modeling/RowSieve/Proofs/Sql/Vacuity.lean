/-
What stands in a clause for a filter tests something. A condition without items is written as a
comparison of constants, and a list without values as empty brackets; for an accepted request
neither is written. The words of a text are looked at and not its characters, for a name in quotes
may hold any characters and is one word.
-/
import Mathlib.Data.List.Chain
import Mathlib.Data.List.Infix
import RowSieve.Proofs.Filter.Steps
import RowSieve.Proofs.Filter.Substance
import RowSieve.Proofs.Sql.Clause

namespace RowSieve.Sql

open RowSieve.Filter (Field Predicate Request Step Target)
open RowSieve.Store (Token)

/-! ## Words that test nothing -/

/-- The words of `1=1`, of `1=0`, and of `IN ()`. -/
def vacuities : List (List Token) :=
  [[.number ['1'], .symbol '=', .number ['1']], [.number ['1'], .symbol '=', .number ['0']],
   [.name ['I', 'N'], .symbol '(', .symbol ')']]

/-- Some words of the text test nothing. -/
def Vacuous (text : String) : Prop := ∃ v ∈ vacuities, v <:+: Token.ofText text.toList

-- The conditions without items, and a name that only looks like one.
example : [Condition.all [], .any [], .among ⟨1, "a", false⟩ [] false,
    .like ⟨1, "1=1", false⟩ "" false].map (fun c =>
      (c.text, vacuities.map fun v => decide (v <:+: Token.ofText c.text.toList))) =
    [("1=1", [true, false, false]), ("1=0", [false, true, false]),
     ("r1.\"a\" IN ()", [false, false, true]),
     ("r1.\"1=1\" LIKE ? ESCAPE '\\'", [false, false, false])] := by decide +kernel

/-! ## Words that stand apart -/

/-- A word that opens one of the vacuous words for the word behind it. -/
def Word.opens : Word → Bool
  | .token (.number _) | .token (.symbol '(') => true
  | _ => false

/-- A word that would go on with vacuous words. -/
def Word.continues : Word → Bool
  | .token (.symbol '=') | .token (.symbol ')') => true
  | _ => false

/-- Words of which none goes on with vacuous words that the one before it opens, and which can stand
behind and in front of others. -/
structure Solid (ws : List Word) : Prop where
  ne_nil : ws ≠ []
  chain : ws.IsChain fun v w => ¬ (v.opens = true ∧ w.continues = true)
  head : ∀ w ∈ ws.head?, w.continues = false
  last : ∀ w ∈ ws.getLast?, w.opens = false

namespace Solid

variable {vs ws : List Word} {w : Word}

theorem single (ho : w.opens = false) (hc : w.continues = false) : Solid [w] :=
  ⟨List.cons_ne_nil w [], .singleton w, by simpa using hc, by simpa using ho⟩

theorem append (h : Solid vs) (h' : Solid ws) : Solid (vs ++ ws) where
  ne_nil := List.append_ne_nil_of_left_ne_nil h.ne_nil ws
  chain := h.chain.append h'.chain fun v hv _ _ hvw => by
    rw [h.last v hv] at hvw
    cases hvw.1
  head w hw := by
    rw [List.head?_append_of_ne_nil vs h.ne_nil] at hw
    exact h.head w hw
  last w hw := by
    rw [List.getLast?_append_of_ne_nil vs h'.ne_nil] at hw
    exact h'.last w hw

/-- Behind words that open nothing any word may stand that opens nothing itself. -/
theorem snoc (h : Solid vs) (ho : w.opens = false) : Solid (vs ++ [w]) where
  ne_nil := List.append_ne_nil_of_left_ne_nil h.ne_nil [w]
  chain := h.chain.append (.singleton w) fun v hv _ _ hvw => by
    rw [h.last v hv] at hvw
    cases hvw.1
  head w hw := by
    rw [List.head?_append_of_ne_nil vs h.ne_nil] at hw
    exact h.head w hw
  last v hv := by
    rw [List.getLast?_append_of_ne_nil vs (List.cons_ne_nil w [])] at hv
    obtain rfl : w = v := by simpa using hv
    exact ho

/-- In front of words that go on with nothing any word may stand that does not either. -/
theorem cons (h : Solid vs) (hc : w.continues = false) : Solid (w :: vs) where
  ne_nil := List.cons_ne_nil w vs
  chain := h.chain.cons fun v hv hwv => by
    rw [h.head v hv] at hwv
    cases hwv.2
  head v hv := by
    obtain rfl : w = v := by simpa using hv
    exact hc
  last v hv := by
    rw [List.getLast?_cons_of_ne_nil h.ne_nil] at hv
    exact h.last v hv

theorem plain (hne : ws ≠ []) (h : ws.all (fun w => !w.opens && !w.continues) = true) :
    Solid ws := by
  induction ws with
  | nil => exact absurd rfl hne
  | cons w ws ih =>
    simp only [List.all_cons, Bool.and_eq_true, Bool.not_eq_true'] at h
    obtain ⟨⟨ho, hc⟩, hws⟩ := h
    by_cases hnil : ws = []
    · rw [hnil]
      exact single ho hc
    · exact (ih hnil (by simpa using hws)).cons hc

theorem brackets (h : Solid ws) : Solid (symbolWord '(' :: ws ++ [symbolWord ')']) :=
  (h.cons rfl).snoc rfl

theorem intercalate (hw : Solid [w]) : ∀ {items : List (List Word)}, items ≠ [] →
    (∀ ws ∈ items, Solid ws) → Solid ([w].intercalate items)
  | [], hne, _ => absurd rfl hne
  | [ws], _, h => by simpa using h ws List.mem_cons_self
  | ws :: vs :: items, _, h => by
    have hrest := intercalate hw (List.cons_ne_nil vs items) fun x hx =>
      h x (List.mem_cons_of_mem ws hx)
    rw [List.intercalate_cons_cons, List.append_assoc]
    exact (h ws List.mem_cons_self).append (hw.append hrest)

theorem group {word ifNone : String} {items : List (List Word)} (hne : items ≠ [])
    (h : ∀ ws ∈ items, Solid ws) : Solid (groupWords word ifNone items) := by
  obtain ⟨ws, items, rfl⟩ := List.exists_cons_of_ne_nil hne
  exact (intercalate (single rfl rfl) hne h).brackets

end Solid

theorem solid_qualified (scope : Alias) (name : String) : Solid (qualifiedWords scope name) :=
  .plain (List.cons_ne_nil _ _) rfl

theorem ColumnRef.solid (c : ColumnRef) : Solid c.words := by
  unfold ColumnRef.words
  split
  · exact (solid_qualified _ _).brackets.cons rfl
  · exact solid_qualified _ _

/-- What is denied behind a column. -/
theorem Solid.notWords {vs ws : List Word} (h : Solid vs) (h' : Solid ws) (negated : Bool) :
    Solid (vs ++ Sql.notWords negated ++ ws) := by
  cases negated
  · rw [Sql.notWords, if_neg Bool.false_ne_true, List.append_nil]
    exact h.append h'
  · exact (h.append (.single rfl rfl)).append h'

theorem opens_signWord (op : Filter.Comparison) : (signWord op).opens = false := by
  cases op <;> rfl

/-! ## Words of conditions -/

namespace Condition

variable {c : ColumnRef} {values : List Datum}

theorem solid_compare (op : Filter.Comparison) (d : Datum) : Solid (compare c op d).words := by
  rw [words, ← List.singleton_append, ← List.append_assoc]
  exact (c.solid.snoc (opens_signWord op)).append (.single rfl rfl)

theorem solid_among (negated : Bool) (hne : values ≠ []) :
    Solid (among c values negated).words := by
  have hvalues : Solid ([symbolWord ','].intercalate (values.map fun d => [.value d])) := by
    refine .intercalate (.single rfl rfl) (mt List.map_eq_nil_iff.1 hne) fun ws hws => ?_
    obtain ⟨d, -, rfl⟩ := List.mem_map.1 hws
    exact .single rfl rfl
  have hlist : Solid (nameWord "IN" :: symbolWord '(' ::
      [symbolWord ','].intercalate (values.map fun d => [.value d]) ++ [symbolWord ')']) :=
    hvalues.brackets.cons rfl
  rw [words, List.append_assoc]
  exact c.solid.notWords hlist negated

theorem solid_like (pattern : String) (negated : Bool) : Solid (like c pattern negated).words :=
  c.solid.notWords (.plain (List.cons_ne_nil _ _) rfl) negated

theorem solid_isNull (negated : Bool) (sentinel? : Option Datum) :
    Solid (isNull c negated sentinel?).words := by
  have hcolumn : Solid c.words := c.solid
  cases sentinel? with
  | none =>
    have hnull : Solid (nameWord "IS" :: notWords negated ++ [nameWord "NULL"]) := by
      cases negated <;> exact .plain (List.cons_ne_nil _ _) rfl
    simpa [words] using hcolumn.append hnull
  | some d =>
    -- the column is tested once for null and once for what stands for null
    have hvalue (op : Filter.Comparison) : Solid (c.words ++ [signWord op] ++ [.value d]) :=
      (hcolumn.snoc (opens_signWord op)).append (.single rfl rfl)
    cases negated
    · have hnull : Solid [nameWord "IS", nameWord "NULL", nameWord "OR"] :=
        .plain (List.cons_ne_nil _ _) rfl
      simpa [words] using ((hcolumn.append hnull).append (hvalue .eq)).brackets
    · have hnull : Solid [nameWord "IS", nameWord "NOT", nameWord "NULL", nameWord "AND"] :=
        .plain (List.cons_ne_nil _ _) rfl
      simpa [words] using ((hcolumn.append hnull).append (hvalue .ne)).brackets

theorem solid_subquery {negated : Bool} {join : Join} {inner outer : Alias} {body : Condition}
    (h : Solid body.words) : Solid (subquery negated join inner outer body).words := by
  have hfrom : Solid [nameWord "FROM", quotedWord join.target, nameWord "AS",
      nameWord (aliasText inner), nameWord "WHERE"] := .plain (List.cons_ne_nil _ _) rfl
  have hselect := (hfrom.cons (w := numberWord "1") rfl).cons (w := nameWord "SELECT") rfl
  have hjoin := ((solid_qualified inner join.foreignKey).snoc (opens_signWord .eq)).append
    (solid_qualified outer join.localKey)
  have hbody := ((hselect.append hjoin).append (h.cons (w := nameWord "AND") rfl)).brackets
  have hexists := hbody.cons (w := nameWord "EXISTS") rfl
  cases negated
  · simpa [words, notWords] using hexists
  · simpa [words, notWords] using hexists.cons (w := nameWord "NOT") rfl

/-- The condition of a predicate that only tests a column stands apart from vacuous words. -/
theorem solid_of_tests {js : Joins} {table column : String} {scope free next : Alias}
    {relations : List String} {p : Predicate} {c : Condition} (hp : p.Tests column relations)
    (h : ofPredicate js table scope free p = .ok (c, next)) : Solid c.words := by
  revert relations
  refine ofPredicate_induct
    (M := fun _ _ _ p c _ => ∀ {relations}, p.Tests column relations → Solid c.words)
    (L := fun _ _ _ ps cs _ => (ps ≠ [] → cs ≠ []) ∧ ∀ {relations},
      (∀ p ∈ ps, p.Tests column relations) → ∀ ws ∈ cs.map words, Solid ws)
    ⟨?_, ?_, ?_, ?_, ?_, ?_, ?_, ?_, ?_⟩ p h
  · intro _ _ _ c op d _ _
    exact solid_compare op d
  · intro _ _ _ c ds negated _ hp
    cases hp with
    | among day _ hne => exact solid_among negated hne
  · intro _ _ _ c pattern negated _ _
    exact solid_like pattern negated
  · intro _ _ _ c negated sentinel? _ _
    exact solid_isNull negated sentinel?
  · rintro _ _ _ ps cs _ ⟨hne, hcs⟩ _ hp
    cases hp with
    | all hps hitems =>
      rw [words, wordsOfAll_eq_map]
      exact .group (mt List.map_eq_nil_iff.1 (hne hps)) (hcs hitems)
  · rintro _ _ _ ps cs _ ⟨hne, hcs⟩ _ hp
    cases hp with
    | any hps hitems =>
      rw [words, wordsOfAll_eq_map]
      exact .group (mt List.map_eq_nil_iff.1 (hne hps)) (hcs hitems)
  · intro _ _ _ negated _ p _ c _ _ hc _ hp
    cases negated <;> cases hp
    rename_i hbody
    exact solid_subquery (hc hbody)
  · intro _ _ _
    exact ⟨fun hne => absurd rfl hne, fun _ _ hws => absurd hws List.not_mem_nil⟩
  · rintro _ _ _ p ps c cs _ _ hc ⟨-, hcs⟩
    refine ⟨fun _ => List.cons_ne_nil c cs, fun hp => ?_⟩
    obtain ⟨hp, hps⟩ := List.forall_mem_cons.1 hp
    rw [List.map_cons]
    exact List.forall_mem_cons.2 ⟨hc hp, hcs hps⟩

theorem solid_of_asks {js : Joins} {table token : String} {scope free next : Alias} {f : Field}
    {p : Predicate} {c : Condition} (hp : f.Asks token p)
    (h : ofPredicate js table scope free p = .ok (c, next)) : Solid c.words := by
  cases hp with
  | tests _ hp => exact solid_of_tests hp h
  | lacking _ _ hbody =>
    obtain ⟨join, body, -, hb, rfl⟩ := (ofPredicate_related_eq_ok (n := true)).1 h
    exact solid_subquery (solid_of_tests hbody hb)

end Condition

/-! ## Clauses -/

/-- What lies within words on both sides of a word that it has not got lies on one of the sides. -/
theorem infix_of_infix_append_cons {α : Type} {v xs ys : List α} {a : α} (ha : a ∉ v)
    (h : v <:+: xs ++ a :: ys) : v <:+: xs ∨ v <:+: ys := by
  obtain ⟨s, t, h⟩ := h
  rw [List.append_assoc] at h
  rcases List.append_eq_append_iff.1 h with ⟨front, rfl, hfront⟩ | ⟨back, -, hback⟩
  · rcases List.append_eq_append_iff.1 hfront with ⟨rest, rfl, -⟩ | ⟨rest, rfl, hrest⟩
    · exact .inl ⟨s, rest, (List.append_assoc s v rest)⟩
    · cases rest with
      | nil => exact .inl ⟨s, [], by simp⟩
      | cons b rest =>
        obtain rfl : a = b := (List.cons.inj hrest).1
        exact absurd (List.mem_append_right front List.mem_cons_self) ha
  · cases back with
    | nil =>
      cases v with
      | nil => exact .inl List.nil_infix
      | cons b v =>
        obtain rfl : a = b := (List.cons.inj hback).1
        exact absurd List.mem_cons_self ha
    | cons b back =>
      refine .inr ⟨back, t, ?_⟩
      rw [List.append_assoc]
      exact (List.cons.inj hback).2.symm

theorem Solid.not_within {ws : List Word} (h : Solid ws) {v : List Token} (hv : v ∈ vacuities) :
    ¬ v <:+: ws.map Word.opened := by
  -- Two words of each of them do not stand apart.
  have hpairs : ∀ v ∈ vacuities, ¬ v.IsChain fun s t =>
      ¬ ((Word.token s).opens = true ∧ (Word.token t).continues = true) := by decide
  have htoken (w : Word) : (Word.token w.opened).opens = w.opens ∧
      (Word.token w.opened).continues = w.continues := by
    cases w <;> exact ⟨rfl, rfl⟩
  intro hin
  have hchain : (ws.map Word.opened).IsChain fun s t =>
      ¬ ((Word.token s).opens = true ∧ (Word.token t).continues = true) := by
    refine (List.isChain_map Word.opened).2 (h.chain.imp fun v w hvw => ?_)
    rwa [(htoken v).1, (htoken w).2]
  apply hpairs v hv
  exact List.IsChain.infix hchain hin

namespace Query

variable {q q' : Query} {p : Predicate}

/-- The words of a clause with one more condition stand behind those of the others. -/
theorem ofText_whereClause_append (q : Query) (c : Condition) (next : Alias) :
    let longer : Query := { q with conditions := q.conditions ++ [c], nextAlias := next }
    ∃ front word, (front = [] ∨ front = Token.ofText q.whereClause.toList) ∧
      (∀ v ∈ vacuities, word ∉ v) ∧
      Token.ofText longer.whereClause.toList = front ++ word :: c.words.map Word.opened := by
  intro longer
  have hlonger : longer.conditions = q.conditions ++ [c] := rfl
  have htext := ofText_whereClause (q := longer)
    (List.append_ne_nil_of_right_ne_nil _ (List.cons_ne_nil c []))
  rw [hlonger] at htext
  by_cases hnil : q.conditions = []
  · refine ⟨[], .name "WHERE".toList, .inl rfl, by decide, ?_⟩
    rw [htext, hnil]
    simp [nameWord, Word.opened]
  · refine ⟨_, .name "AND".toList, .inr rfl, by decide, ?_⟩
    obtain ⟨d, rest, hrest⟩ := List.exists_cons_of_ne_nil hnil
    rw [htext, ofText_whereClause hnil, hrest]
    simp [Formula.intercalate_cons, nameWord, Word.opened]

/-- A filter that is added brings no vacuous words into the clause. -/
theorem not_vacuous_add {f : Field} {token : String} (hp : f.Asks token p)
    (ha : q.add p = .ok q') (h : ¬ Vacuous q.whereClause) : ¬ Vacuous q'.whereClause := by
  obtain ⟨c, next, hc, rfl⟩ := add_eq_ok.1 ha
  rintro ⟨v, hv, hin⟩
  obtain ⟨front, word, hfront, hword, htext⟩ := ofText_whereClause_append q c next
  rw [htext] at hin
  rcases infix_of_infix_append_cons (hword v hv) hin with hin | hin
  · rcases hfront with rfl | rfl
    · have hne : v ≠ [] := by rintro rfl; exact absurd hv (by decide)
      exact hne (List.infix_nil.1 hin)
    · exact h ⟨v, hv, hin⟩
  · exact (Condition.solid_of_asks hp hc).not_within hv hin

theorem not_vacuous_start (js : Joins) (table : String) :
    ¬ Vacuous (start js table).whereClause := by
  rintro ⟨v, hv, hin⟩
  have hnil : v = [] := List.infix_nil.1 hin
  rw [hnil] at hv
  exact absurd hv (by decide)

/-- Whatever requests are made, those that are refused included, the clause has no vacuous words. -/
theorem not_vacuous_of_requests (js : Joins) (table : String) {steps : List Step}
    (h : ∀ s ∈ steps, s.IsRequest) :
    ¬ Vacuous (Target.run (start js table) steps).2.whereClause := by
  refine Target.run_requests (P := fun q : Query => ¬ Vacuous q.whereClause) ?_ ?_ h
  · intro q q' f r p hp ha hq
    exact not_vacuous_add (Field.asks_of_predicate hp) ha hq
  · exact not_vacuous_start js table

/-- An accepted request asks for tests of its field's column, made in rows that exactly the field's
relations reach, with no list among them empty; a relation is denied at the root only, and only for
a denying operator. The text that the filter adds to a query, whatever stands there already, has no
vacuous words; so after any requests, refused ones among them, the clause has none. -/
theorem accepted_filter_is_not_vacuous :
    (∀ {f : Field} {r : Request} {p : Predicate}, f.predicate r = .ok p →
      f.Asks r.operator p ∧
      ∀ q q' : Query, q.add p = .ok q' → ¬ Vacuous q.whereClause → ¬ Vacuous q'.whereClause) ∧
    ∀ (js : Joins) (table : String) {steps : List Step}, (∀ s ∈ steps, s.IsRequest) →
      ¬ Vacuous (Target.run (start js table) steps).2.whereClause := by
  constructor
  · intro f r p h
    have hasks : f.Asks r.operator p := Field.asks_of_predicate h
    exact ⟨hasks, fun _ _ => not_vacuous_add hasks⟩
  · intro js table steps h
    exact not_vacuous_of_requests js table h

/-- Two texts that no item's name may contain, after a request for one. -/
theorem accepted_filter_is_not_vacuous_two_texts : ∃ (f : Field) (r r₁ : Request) (p : Predicate)
    (js : Joins) (q : Query),
    f.columnPath = "items.name" ∧ r.operator = "notContains" ∧
    r.value? = some (.list [.text "a", .text "b"]) ∧ f.predicate r = .ok p ∧
    f.Asks "notContains" p ∧
    (Target.run (start js "orders") [.add (.request f r₁)]).2.add p = .ok q ∧
    ¬ Vacuous q.whereClause := by
  let first : Request := ⟨"items.name", "equals", some (.scalar (.text "c"))⟩
  let before : List Step := [.add (.request (.ofKind "items.name" .text) first)]
  let js : Joins := .add .empty "orders" "items" ⟨"items", "id", "order_id"⟩
  have hp : (Field.ofKind "items.name" .text).predicate
      ⟨"items.name", "notContains", some (.list [.text "a", .text "b"])⟩ =
    .ok (.lacking "items" (.any [.like ⟨"name", false⟩ "%a%" false,
      .like ⟨"name", false⟩ "%b%" false])) := rfl
  obtain ⟨q, hq⟩ : ∃ q, (Target.run (start js "orders") before).2.add
      (.lacking "items" (.any [.like ⟨"name", false⟩ "%a%" false,
        .like ⟨"name", false⟩ "%b%" false])) = .ok q := ⟨_, rfl⟩
  obtain ⟨hadded, hrun⟩ := accepted_filter_is_not_vacuous
  obtain ⟨hasks, hclause⟩ := hadded hp
  have hbefore : ¬ Vacuous (Target.run (start js "orders") before).2.whereClause :=
    hrun js "orders" (List.forall_mem_singleton.2 trivial)
  exact ⟨_, _, first, _, js, q, rfl, rfl, rfl, hp, hasks, hq, hclause _ q hq hbefore⟩

end Query

end RowSieve.Sql
