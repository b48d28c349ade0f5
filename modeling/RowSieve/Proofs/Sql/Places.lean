/-
Places of a text and the values that fill them. A place is a question mark outside of quotes. A
clause has as many places as its query has parameters, and with the parameters written into the
places, one after another, it is the clause whose conditions have been written with their own
values where they belong; so no value stands in the place of another, whatever characters the names
of tables, keys and columns have. Behind them stand the places of a listing's limit and offset.
-/
import RowSieve.Proofs.Sql.Clause
import RowSieve.Proofs.Sql.Draft
import RowSieve.Store.Listing

namespace RowSieve.Sql

open RowSieve.Filter (Step Target)
open RowSieve.Store (Token)

/-! ## Places -/

/-- The quote that is open behind a character. A quote that stands twice closes and opens again. -/
def quoteAfter? (quote? : Option Char) (c : Char) : Option Char :=
  match quote? with
  | none => if c = '"' ∨ c = '\'' then some c else none
  | some quote => if c = quote then none else some quote

/-- The number of places of a text that stands behind an open quote or none. -/
def countPlaces (quote? : Option Char) : List Char → Nat
  | [] => 0
  | c :: cs => (if quote? = none ∧ c = '?' then 1 else 0) + countPlaces (quoteAfter? quote? c) cs

/-- The text with its places filled one after another; all that fills them is used up. -/
def fillPlaces (quote? : Option Char) : List Char → List (List Char) → Option (List Char)
  | [], vs => if vs.isEmpty then some [] else none
  | c :: cs, vs =>
    if quote? = none ∧ c = '?' then
      match vs with
      | v :: vs => (fillPlaces none cs vs).map (v ++ ·)
      | [] => none
    else (fillPlaces (quoteAfter? quote? c) cs vs).map (c :: ·)

/-- The text of a statement with its places filled. -/
def filled? (text : String) (vs : List String) : Option String :=
  (fillPlaces none text.toList (vs.map String.toList)).map String.ofList

/-- A text can only be filled with as many texts as it has places. -/
theorem length_of_fillPlaces {s t : List Char} : ∀ {quote? : Option Char} {vs : List (List Char)},
    fillPlaces quote? s vs = some t → countPlaces quote? s = vs.length := by
  induction s generalizing t with
  | nil =>
    intro quote? vs h
    cases vs with
    | nil => rfl
    | cons v vs => cases h
  | cons c cs ih =>
    intro quote? vs h
    rw [fillPlaces.eq_def] at h
    rw [countPlaces]
    simp only at h
    split at h
    · rename_i hc
      obtain ⟨rfl, rfl⟩ := hc
      cases vs with
      | nil => cases h
      | cons v vs =>
        obtain ⟨u, hu, -⟩ := Option.map_eq_some_iff.1 h
        have hq : quoteAfter? none '?' = none := rfl
        simp only [and_self, if_true, hq, ih hu, List.length_cons]
        omega
    · rename_i hc
      obtain ⟨u, hu, -⟩ := Option.map_eq_some_iff.1 h
      rw [if_neg hc, ih hu, Nat.zero_add]

/-! ## Texts that are filled -/

/-- With `vs` in its places `s` is `t`, whatever stands behind it. -/
def Fills (s : String) (vs : List String) (t : String) : Prop :=
  ∀ rest ws, fillPlaces none (s.toList ++ rest) (vs.map String.toList ++ ws) =
    (fillPlaces none rest ws).map (t.toList ++ ·)

theorem Fills.filled? {s t : String} {vs : List String} (h : Fills s vs t) :
    filled? s vs = some t := by
  have hs := h [] []
  rw [List.append_nil, List.append_nil] at hs
  rw [Sql.filled?, hs]
  simp [fillPlaces]

theorem Fills.append {s s' t t' : String} {vs ws : List String} (h : Fills s vs t)
    (h' : Fills s' ws t') : Fills (s ++ s') (vs ++ ws) (t ++ t') := by
  intro rest us
  rw [String.toList_append, List.map_append, List.append_assoc, List.append_assoc, h, h',
    Option.map_map, String.toList_append]
  congr 1
  funext u
  exact (List.append_assoc ..).symm

/-- Whether a character is neither a quote nor a place. -/
def isInert (c : Char) : Bool := c != '"' && c != '\'' && c != '?'

theorem fillPlaces_inert {c : Char} (h : isInert c = true) (cs : List Char)
    (vs : List (List Char)) :
    fillPlaces none (c :: cs) vs = (fillPlaces none cs vs).map (c :: ·) := by
  simp only [isInert, Bool.and_eq_true, bne_iff_ne] at h
  obtain ⟨⟨h1, h2⟩, h3⟩ := h
  simp [fillPlaces, quoteAfter?, h1, h2, h3]

theorem fills_inert {s : String} (h : s.toList.all isInert = true) : Fills s [] s := by
  intro rest ws
  rw [List.map_nil, List.nil_append]
  generalize s.toList = cs at h
  induction cs with
  | nil => simp
  | cons c cs ih =>
    rw [List.all_cons, Bool.and_eq_true] at h
    rw [List.cons_append, fillPlaces_inert h.1, ih h.2, Option.map_map]
    rfl

theorem fills_place (v : String) : Fills "?" [v] v := fun _ _ => rfl

/-- A place between texts that have none. -/
theorem fills_between {s : String} (front back : String)
    (hs : s.toList = front.toList ++ '?' :: back.toList) (hf : front.toList.all isInert = true)
    (hb : Fills back [] back) (v : String) : Fills s [v] (front ++ v ++ back) := by
  have hsplit : s = front ++ "?" ++ back := by
    rw [← String.toList_inj, hs, String.toList_append, String.toList_append, List.append_assoc]
    rfl
  rw [hsplit]
  exact ((fills_inert hf).append (fills_place v)).append hb

/-- What stands between the quotes of a name is no place and ends no quotes but its own. -/
theorem fillPlaces_doubleQuotes (w rest : List Char) (ws : List (List Char)) :
    fillPlaces (some '"') (doubleQuotes w ++ '"' :: rest) ws =
      (fillPlaces none rest ws).map (doubleQuotes w ++ '"' :: ·) := by
  induction w with
  | nil => simp [doubleQuotes, fillPlaces, quoteAfter?]
  | cons c w ih =>
    unfold doubleQuotes
    split
    · -- the first of two quotes ends the name and the second begins it again
      simp [fillPlaces, quoteAfter?, ih, Option.map_map, Function.comp_def]
    · rename_i hc
      simp [fillPlaces, quoteAfter?, hc, ih, Option.map_map, Function.comp_def]

theorem fills_quoteIdent (name : String) : Fills (quoteIdent name) [] (quoteIdent name) := by
  intro rest ws
  have h := fillPlaces_doubleQuotes name.toList rest ws
  simp only [quoteIdent, String.toList_ofList, List.map_nil, List.nil_append, List.cons_append,
    List.append_assoc]
  simp [fillPlaces, quoteAfter?, h, Option.map_map, Function.comp_def]

theorem fills_intercalate {α : Type} (sep : String) (hsep : sep.toList.all isInert = true)
    {f g : α → String} {p : α → List String} : ∀ {items : List α},
      (∀ a ∈ items, Fills (f a) (p a) (g a)) →
      Fills (sep.intercalate (items.map f)) (items.flatMap p) (sep.intercalate (items.map g))
  | [], _ => fills_inert rfl
  | [a], h => by
    simpa using h a (by simp)
  | a :: b :: items, h => by
    have ih := fills_intercalate sep hsep (fun x hx => h x (List.mem_cons_of_mem a hx))
    rw [List.map_cons, List.map_cons, String.intercalate_cons_cons, List.flatMap_cons]
    rw [List.map_cons, List.map_cons, String.intercalate_cons_cons]
    have ha := (h a (by simp)).append (fills_inert hsep)
    rw [List.append_nil] at ha
    exact ha.append ih

/-! ## Values in place -/

section Values

variable (lit : Datum → String)

namespace Condition

mutual

/-- The condition written with its own values where they belong. -/
def inPlace : Condition → String
  | compare c op value => c.text ++ " " ++ op.sign ++ (" " ++ lit value ++ "")
  | among c values negated =>
    c.text ++ " " ++ notText negated ++ "IN (" ++ ", ".intercalate (values.map lit) ++ ")"
  | like c pattern negated =>
    c.text ++ " " ++ notText negated ++ ("LIKE " ++ lit (.text pattern) ++ " ESCAPE '\\'")
  | isNull c false none => c.text ++ " IS NULL"
  | isNull c true none => c.text ++ " IS NOT NULL"
  | isNull c false (some value) =>
    "(" ++ c.text ++ " IS NULL OR " ++ c.text ++ (" = " ++ lit value ++ ")")
  | isNull c true (some value) =>
    "(" ++ c.text ++ " IS NOT NULL AND " ++ c.text ++ (" <> " ++ lit value ++ ")")
  | all items => groupText " AND " "1=1" (inPlaces items)
  | any items => groupText " OR " "1=0" (inPlaces items)
  | subquery negated join inner outer body =>
    Writing.subqueryText negated join inner outer body.inPlace

def inPlaces : List Condition → List String
  | [] => []
  | c :: rest => c.inPlace :: inPlaces rest

end

theorem inPlaces_eq_map (cs : List Condition) : inPlaces lit cs = cs.map (inPlace lit) := by
  induction cs with
  | nil => rfl
  | cons c cs ih => rw [inPlaces, ih, List.map_cons]

end Condition

end Values

theorem inert_aliasText (a : Alias) : (aliasText a).toList.all isInert = true := by
  unfold aliasText
  split
  · rfl
  · rw [String.toList_append, List.all_append, Bool.and_eq_true]
    refine ⟨rfl, List.all_eq_true.2 fun c hc => ?_⟩
    rw [String.toList_ofList] at hc
    have hd := Number.isDigit_of_mem_toDigits hc
    simp only [isInert, Bool.and_eq_true, bne_iff_ne]
    refine ⟨⟨?_, ?_⟩, ?_⟩ <;> (rintro rfl; cases hd)

theorem fills_qualified (a : Alias) (name : String) :
    Fills (qualified a name) [] (qualified a name) :=
  ((fills_inert (inert_aliasText a)).append (fills_inert (s := ".") rfl)).append
    (fills_quoteIdent name)

theorem ColumnRef.fills (c : ColumnRef) : Fills c.text [] c.text := by
  unfold ColumnRef.text
  simp only
  split
  · exact ((fills_inert (s := "date(") rfl).append (fills_qualified _ _)).append (fills_inert rfl)
  · exact fills_qualified _ _

theorem inert_notText (negated : Bool) : (notText negated).toList.all isInert = true := by
  cases negated <;> rfl

theorem inert_sign (op : Filter.Comparison) : op.sign.toList.all isInert = true := by
  cases op <;> rfl

/-- The mark in front of which patterns have no meaning of their own stands in quotes. -/
theorem fills_escape : Fills " ESCAPE '\\'" [] " ESCAPE '\\'" := by
  intro rest ws
  show fillPlaces none (" ESCAPE '\\'".toList ++ rest) ws = _
  simp [fillPlaces, quoteAfter?, Option.map_map, Function.comp_def]

/-! ## Conditions -/

section Filled

variable (lit : Datum → String)

namespace Condition

theorem fills_group {word ifNone : String} (hw : word.toList.all isInert = true)
    (hn : ifNone.toList.all isInert = true) {items : List Condition}
    (h : ∀ c ∈ items, Fills c.text (c.params.map lit) (c.inPlace lit)) :
    Fills (groupText word ifNone (items.map text)) ((items.flatMap params).map lit)
      (groupText word ifNone (items.map (inPlace lit))) := by
  -- a group of none has neither brackets nor places
  cases items with
  | nil => exact fills_inert hn
  | cons c items =>
    have hi := fills_intercalate word hw h
    rw [← List.map_flatMap] at hi
    have key := ((fills_inert (s := "(") rfl).append hi).append (fills_inert (s := ")") rfl)
    rwa [List.nil_append, List.append_nil] at key

theorem fills_compare (c : ColumnRef) (op : Filter.Comparison) (d : Datum) :
    Fills (compare c op d).text ((compare c op d).params.map lit) ((compare c op d).inPlace lit) :=
  ((c.fills.append (fills_inert (s := " ") rfl)).append (fills_inert (inert_sign op))).append
    (fills_between " " "" rfl rfl (fills_inert rfl) (lit d))

theorem fills_among (c : ColumnRef) (ds : List Datum) (negated : Bool) :
    Fills (among c ds negated).text ((among c ds negated).params.map lit)
      ((among c ds negated).inPlace lit) := by
  have hds : Fills (", ".intercalate (ds.map fun _ => "?")) (ds.flatMap fun d => [lit d])
      (", ".intercalate (ds.map lit)) :=
    fills_intercalate ", " rfl fun d _ => fills_place (lit d)
  rw [← List.map_eq_flatMap] at hds
  have hopen := ((c.fills.append (fills_inert (s := " ") rfl)).append
    (fills_inert (inert_notText negated))).append (fills_inert (s := "IN (") rfl)
  have key := (hopen.append hds).append (fills_inert (s := ")") rfl)
  rwa [List.append_nil] at key

theorem fills_like (c : ColumnRef) (pattern : String) (negated : Bool) :
    Fills (like c pattern negated).text ((like c pattern negated).params.map lit)
      ((like c pattern negated).inPlace lit) :=
  ((c.fills.append (fills_inert (s := " ") rfl)).append
    (fills_inert (inert_notText negated))).append
    (fills_between "LIKE " " ESCAPE '\\'" rfl rfl fills_escape (lit (.text pattern)))

theorem fills_isNull (c : ColumnRef) (negated : Bool) (sentinel? : Option Datum) :
    Fills (isNull c negated sentinel?).text ((isNull c negated sentinel?).params.map lit)
      ((isNull c negated sentinel?).inPlace lit) := by
  cases sentinel? with
  | none =>
    cases negated with
    | false => exact c.fills.append (fills_inert rfl)
    | true => exact c.fills.append (fills_inert rfl)
  | some d =>
    have hopen (s : String) (hs : s.toList.all isInert = true) :=
      (((fills_inert (s := "(") rfl).append c.fills).append (fills_inert hs)).append c.fills
    have hclose := fills_inert (s := ")") rfl
    cases negated with
    | false =>
      exact (hopen " IS NULL OR " rfl).append (fills_between " = " ")" rfl rfl hclose (lit d))
    | true =>
      exact (hopen " IS NOT NULL AND " rfl).append
        (fills_between " <> " ")" rfl rfl hclose (lit d))

theorem fills_subquery {negated : Bool} {join : Join} {inner outer : Alias} {body : Condition}
    (hb : Fills body.text (body.params.map lit) (body.inPlace lit)) :
    Fills (subquery negated join inner outer body).text
      ((subquery negated join inner outer body).params.map lit)
      ((subquery negated join inner outer body).inPlace lit) := by
  have hfrom := (((fills_inert (inert_notText negated)).append
    (fills_inert (s := "EXISTS (SELECT 1 FROM ") rfl)).append
    (fills_quoteIdent join.target)).append (fills_inert (s := " AS ") rfl)
  have hjoin := ((((hfrom.append (fills_inert (inert_aliasText inner))).append
    (fills_inert (s := " WHERE ") rfl)).append (fills_qualified inner join.foreignKey)).append
    (fills_inert (s := " = ") rfl)).append (fills_qualified outer join.localKey)
  have key := ((hjoin.append (fills_inert (s := " AND ") rfl)).append hb).append
    (fills_inert (s := ")") rfl)
  rwa [List.append_nil] at key

mutual

/-- With its parameters in the places, the text of a condition is the condition with its own values
where they belong. -/
theorem fills : ∀ c : Condition, Fills c.text (c.params.map lit) (c.inPlace lit)
  | compare c op d => fills_compare lit c op d
  | among c ds negated => fills_among lit c ds negated
  | like c pattern negated => fills_like lit c pattern negated
  | isNull c negated sentinel? => fills_isNull lit c negated sentinel?
  | all items => by
    rw [text, params, inPlace, texts_eq_map, paramsOfAll_eq_flatMap, inPlaces_eq_map]
    exact fills_group lit rfl rfl (fills_all items)
  | any items => by
    rw [text, params, inPlace, texts_eq_map, paramsOfAll_eq_flatMap, inPlaces_eq_map]
    exact fills_group lit rfl rfl (fills_all items)
  | subquery _ _ _ _ body => fills_subquery lit (fills body)

theorem fills_all : ∀ cs : List Condition,
    ∀ c ∈ cs, Fills c.text (c.params.map lit) (c.inPlace lit)
  | [], _, h => by cases h
  | c :: _, _, .head _ => fills c
  | _ :: cs, d, .tail _ h => fills_all cs d h

end

end Condition

/-! ## Clauses -/

namespace Query

variable (q : Query)

/-- The clause with the conditions written with their own values. -/
def clauseInPlace : String :=
  if q.conditions.isEmpty then ""
  else "WHERE " ++ " AND ".intercalate (q.conditions.map (Condition.inPlace lit))

theorem fills_whereClause : Fills q.whereClause (q.params.map lit) (q.clauseInPlace lit) := by
  unfold whereClause clauseInPlace
  split
  · rename_i h
    rw [params, List.isEmpty_iff.1 h]
    exact fills_inert rfl
  · have hs := fills_intercalate " AND " rfl fun c (_ : c ∈ q.conditions) => c.fills lit
    rw [← List.map_flatMap] at hs
    exact (fills_inert (s := "WHERE ") rfl).append hs

theorem inert_listingColumns : Store.listingColumns.toList.all isInert = true := by
  unfold Store.listingColumns
  simp only [String.toList_append, List.all_append]
  rfl

/-- The places of a listing are those of the clause, and one each for the limit and the offset. -/
theorem fills_listingStatement (o : Http.Order) (limit offset : Nat) :
    Fills (Store.listingStatement q o) ((Store.listingValues q limit offset).map lit)
      (Store.listingText (q.clauseInPlace lit) (o.text (Target.columnText q))
        (lit (.integer limit)) (lit (.integer offset))) := by
  have horder : Fills (o.text (Target.columnText q)) [] (o.text (Target.columnText q)) :=
    ((fills_qualified rootAlias o.column).append (fills_inert (s := " ") rfl)).append
      (fills_inert (by cases o.direction <;> rfl))
  have hclause := (fills_inert inert_listingColumns).append (q.fills_whereClause lit)
  have hordered := (((hclause.append (fills_inert (s := "\n        ORDER BY ") rfl)).append
    horder).append (fills_inert (s := ", ") rfl)).append (fills_inert (inert_aliasText rootAlias))
  have hlimit := (hordered.append (fills_inert (s := ".id ASC\n        LIMIT ") rfl)).append
    (fills_place (lit (.integer limit)))
  have key := ((hlimit.append (fills_inert (s := " OFFSET ") rfl)).append
    (fills_place (lit (.integer offset)))).append (fills_inert (s := "\n        ") rfl)
  rw [Store.listingValues, List.map_append]
  simp only [List.nil_append, List.append_nil, List.append_assoc] at key
  exact key

end Query

end Filled

/-- Words can only be filled with as many values as they have open places. -/
theorem count_of_fill {ts : List Token} {ws : List Word} : ∀ {ds : List Datum},
    fill ts ds = some ws → ts.count (.parameter ['?']) = ds.length := by
  induction ts generalizing ws with
  | nil =>
    intro ds h
    cases ds with
    | nil => rfl
    | cons d ds => cases h
  | cons t ts ih =>
    intro ds h
    rw [fill.eq_def] at h
    simp only at h
    split at h
    · rename_i ht
      cases ds with
      | nil => cases h
      | cons d ds =>
        obtain ⟨u, hu, -⟩ := Option.map_eq_some_iff.1 h
        rw [ht, List.count_cons_self, ih hu, List.length_cons]
    · rename_i ht
      obtain ⟨u, hu, -⟩ := Option.map_eq_some_iff.1 h
      rw [List.count_cons_of_ne ht, ih hu]

namespace Query

theorem count_whereClause (q : Query) :
    (Token.ofText q.whereClause.toList).count (.parameter ['?']) = q.params.length := by
  by_cases hne : q.conditions = []
  · rw [whereClause, params, hne]
    rfl
  · exact count_of_fill (ofText_whereClause hne ▸ (holds_whereClause q).fill)

/-- Each value is bound to its own place. After any steps, failing ones included, the clause and the
values are as a writer has them who sets each value aside when it comes upon its place. The clause
has as many places outside of quotes, and as many open places for those who read it as words, as
there are values; with the values in the places, in their order, it is the clause whose conditions
are written with their own values; and the two places behind it in a listing are filled by the limit
and the offset. -/
theorem places_bind_values (js : Joins) (table : String) (steps : List Step) :
    let q := (Target.run (start js table) steps).2
    let written := (Target.run (Draft.start js table) steps).2
    written.whereClause = q.whereClause ∧ written.values = q.params ∧
    countPlaces none q.whereClause.toList = q.params.length ∧
    (Token.ofText q.whereClause.toList).count (.parameter ['?']) = q.params.length ∧
    ∀ lit : Datum → String,
      filled? q.whereClause (q.params.map lit) = some (q.clauseInPlace lit) ∧
      ∀ (o : Http.Order) (limit offset : Nat),
        filled? (Store.listingStatement q o) ((Store.listingValues q limit offset).map lit) =
          some (Store.listingText (q.clauseInPlace lit) (o.text (Target.columnText q))
            (lit (.integer limit)) (lit (.integer offset))) := by
  have hdraft : (Target.run (Draft.start js table) steps).2 =
      (Target.run (start js table) steps).2.draft :=
    congrArg Prod.snd (run_draft (start js table) steps)
  refine ⟨?_, ?_, ?_, count_whereClause _, fun lit => ⟨?_, fun o limit offset => ?_⟩⟩
  · rw [hdraft, whereClause_draft]
  · rw [hdraft]
    rfl
  · -- what the values are shown as does not matter
    have hfill := (fills_whereClause (fun _ => "") (Target.run (start js table) steps).2).filled?
    obtain ⟨t, ht, -⟩ := Option.map_eq_some_iff.1 hfill
    simpa using length_of_fillPlaces ht
  · exact (fills_whereClause lit _).filled?
  · exact (fills_listingStatement lit _ o limit offset).filled?

-- A question mark in a name is no place, and what fills a place is not looked at again.
example : filled? "WHERE t0.\"a?\"\"b\" = ? AND t0.\"c\" LIKE ? ESCAPE '\\'" ["'?'", "'%'"] =
    some "WHERE t0.\"a?\"\"b\" = '?' AND t0.\"c\" LIKE '%' ESCAPE '\\'" := by
  decide +kernel

end Query

end RowSieve.Sql
