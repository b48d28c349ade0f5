/-
The text of a query says what its predicates say. For any predicates that are added to a query one
after another, the text that each of them pushes, read by the grammar of statements with the
parameters that it pushes in its open places, is as true of a row as the predicate itself; and the
whole clause, with all parameters, is as true as all predicates together.
-/
import Mathlib.Data.List.Induction
import RowSieve.Proofs.Sql.Reading
import RowSieve.Proofs.Sql.Resolution
import RowSieve.Sql.Query

namespace RowSieve.Sql

open RowSieve.Filter (Column Comparison Predicate)
open RowSieve.Store (Token)

/-! ## Names of scopes -/

theorem map_foldCase_toDigits (n : Nat) :
    (Number.toDigits n).map Text.foldCase = Number.toDigits n := by
  conv => rhs; rw [← List.map_id (Number.toDigits n)]
  exact List.map_congr_left fun c hc =>
    Number.foldCase_of_isDigit (Number.isDigit_of_mem_toDigits hc)

theorem map_foldCase_aliasText (a : Alias) :
    (aliasText a).toList.map Text.foldCase = (aliasText a).toList := by
  unfold aliasText
  split
  · rfl
  · simp only [String.toList_append, String.toList_ofList, List.map_append, map_foldCase_toDigits]
    rfl

theorem aliasText_inj {a b : Alias} : aliasText a = aliasText b ↔ a = b := by
  constructor
  · intro h
    rw [← String.toList_inj] at h
    unfold aliasText at h
    split at h <;> split at h
    · rename_i ha hb; rw [ha, hb]
    · simp [String.toList_append] at h
    · simp [String.toList_append] at h
    · simpa [String.toList_append, Number.toDigits_inj] using h
  · rintro rfl; rfl

/-- Scopes of different aliases have different names, also but for the case of letters. -/
theorem sameName_aliasText_iff {a b : Alias} :
    Token.sameName (aliasText a).toList (aliasText b).toList = true ↔ a = b := by
  rw [Token.sameName, beq_iff_eq, map_foldCase_aliasText, map_foldCase_aliasText,
    String.toList_inj, aliasText_inj]

/-! ## Truth of formulas -/

namespace Formula

variable {tables : Tables} {frame : Frame}

theorem truth_notIf (negated : Bool) (f : Formula) :
    (f.notIf negated).truth tables frame = (f.truth tables frame).notIf negated := by
  cases negated <;> rfl

theorem truth_foldl_and (f : Formula) (fs : List Formula) :
    (fs.foldl and f).truth tables frame =
      (f.truth tables frame).and ((fs.map (truth tables frame)).foldr Truth.and .yes) := by
  induction fs generalizing f with
  | nil => simp
  | cons g fs ih => rw [List.foldl_cons, ih, truth, List.map_cons, List.foldr_cons, Truth.and_assoc]

theorem truth_foldl_or (f : Formula) (fs : List Formula) :
    (fs.foldl or f).truth tables frame =
      (f.truth tables frame).or ((fs.map (truth tables frame)).foldr Truth.or .no) := by
  induction fs generalizing f with
  | nil => simp
  | cons g fs ih => rw [List.foldl_cons, ih, truth, List.map_cons, List.foldr_cons, Truth.or_assoc]

theorem truth_group_and (fs : List Formula) :
    (group and (one 1) fs).truth tables frame =
      (fs.map (truth tables frame)).foldr Truth.and .yes := by
  cases fs with
  | nil => rfl
  | cons f fs => exact truth_foldl_and f fs

theorem truth_group_or (fs : List Formula) :
    (group or (one 0) fs).truth tables frame =
      (fs.map (truth tables frame)).foldr Truth.or .no := by
  cases fs with
  | nil => rfl
  | cons f fs => exact truth_foldl_or f fs

theorem all_foldl {P : Formula → Bool} {join : Formula → Formula → Formula}
    (hj : ∀ f g, P (join f g) = (P f && P g)) (fs : List Formula) (f : Formula) :
    P (fs.foldl join f) = (P f && fs.all P) := by
  induction fs generalizing f with
  | nil => simp
  | cons g fs ih => rw [List.foldl_cons, ih, hj, List.all_cons, Bool.and_assoc]

/-- What holds of joined formulas as it does of each holds of a group as it does of its items. -/
theorem all_group {P : Formula → Bool} {join : Formula → Formula → Formula}
    (hj : ∀ f g, P (join f g) = (P f && P g)) {n : Int} (hn : P (one n) = true)
    {fs : List Formula} (h : ∀ f ∈ fs, P f = true) : P (group join (one n) fs) = true := by
  cases fs with
  | nil => exact hn
  | cons f fs =>
    rw [group, all_foldl hj, Bool.and_eq_true, List.all_eq_true]
    exact ⟨h f (.head _), fun g hg => h g (.tail _ hg)⟩

end Formula

theorem Frame.row?_cons (frame : Frame) (a b : Alias) (row : Row) :
    Frame.row? (((aliasText a).toList, row) :: frame) (aliasText b).toList =
      if a = b then some row else frame.row? (aliasText b).toList := by
  unfold Frame.row?
  rw [List.find?_cons]
  by_cases h : a = b
  · rw [sameName_aliasText_iff.2 h, if_pos h]
    rfl
  · rw [Bool.eq_false_iff.2 (mt sameName_aliasText_iff.1 h), if_neg h]

theorem ColumnRef.cell_term {frame : Frame} {a : Alias} {row : Row} (c : Column)
    (h : frame.row? (aliasText a).toList = some row) :
    (ColumnRef.term ⟨a, c⟩).cell frame = c.value row := by
  rw [ColumnRef.term, Term.cell, h]
  rfl

end RowSieve.Sql

namespace RowSieve.Filter.Predicate

open RowSieve.Sql

variable {js : Joins} {tables : Tables} {table : String} {row : Row}

theorem evalAll_eq_foldr (ps : List Predicate) :
    evalAll js tables table row ps = (ps.map (eval js tables table row)).foldr Truth.and .yes := by
  induction ps with
  | nil => rfl
  | cons p ps ih => rw [evalAll, ih, List.map_cons, List.foldr_cons]

theorem evalAny_eq_foldr (ps : List Predicate) :
    evalAny js tables table row ps = (ps.map (eval js tables table row)).foldr Truth.or .no := by
  induction ps with
  | nil => rfl
  | cons p ps ih => rw [evalAny, ih, List.map_cons, List.foldr_cons]

end RowSieve.Filter.Predicate

namespace RowSieve.Sql

open RowSieve.Filter (Column Predicate)
open RowSieve.Store (Token)

namespace Condition

variable {js : Joins} {table : String} {scope free next : Alias} {p : Predicate} {c : Condition}

theorem evalAll_eq_foldr (tables : Tables) (scopes : Scopes) (cs : List Condition) :
    evalAll tables scopes cs = (cs.map (eval tables scopes)).foldr Truth.and .yes := by
  induction cs with
  | nil => rfl
  | cons c cs ih => rw [evalAll, ih, List.map_cons, List.foldr_cons]

theorem truth_join {tables : Tables} {frame : Frame} {inner outer : Alias} {inside outside : Row}
    (join : Join) (hi : frame.row? (aliasText inner).toList = some inside)
    (ho : frame.row? (aliasText outer).toList = some outside) :
    (join.formula inner outer).truth tables frame =
      (inside join.foreignKey).equal (outside join.localKey) := by
  rw [Join.formula, Formula.truth, Term.cell, Term.cell, hi, ho]
  rfl

theorem truth_isNull {tables : Tables} {frame : Frame} {a : Alias} {row : Row} {c : Column}
    {negated : Bool} {sentinel? : Option Datum}
    (h : frame.row? (aliasText a).toList = some row) :
    (isNull ⟨a, c⟩ negated sentinel?).formula.truth tables frame =
      (Predicate.isNull c negated sentinel?).eval js tables table row := by
  cases sentinel? with
  | none =>
    cases negated <;> simp only [formula, Formula.truth_notIf, Formula.truth,
      ColumnRef.cell_term c h, Predicate.eval, nullCell, presentCell, Option.map_none, Truth.notIf,
      Truth.not_ofBool, if_true, Bool.false_eq_true, if_false]
  | some d =>
    cases negated
    all_goals
      simp only [formula, Formula.truth, ColumnRef.cell_term c h, Predicate.eval, nullCell,
        presentCell, Option.map_some, Truth.not_ofBool]
      rfl

/-- The formula of a condition is as true as its predicate of the row that its scope has in the
frame. The scope lies below the aliases of subqueries, so that none of these hides its row. -/
theorem truth_formula (tables : Tables) (h : ofPredicate js table scope free p = .ok (c, next)) :
    free ≤ next ∧ ∀ (frame : Frame) (row : Row), scope < free →
      frame.row? (aliasText scope).toList = some row →
      c.formula.truth tables frame = p.eval js tables table row := by
  refine ofPredicate_induct
    (M := fun t a f p c m => f ≤ m ∧ ∀ (frame : Frame) (row : Row), a < f →
      frame.row? (aliasText a).toList = some row →
      c.formula.truth tables frame = p.eval js tables t row)
    (L := fun t a f ps cs m => f ≤ m ∧ ∀ (frame : Frame) (row : Row), a < f →
      frame.row? (aliasText a).toList = some row →
      (cs.map formula).map (Formula.truth tables frame) = ps.map (Predicate.eval js tables t row))
    ⟨?_, ?_, ?_, ?_, ?_, ?_, ?_, ?_, ?_⟩ p h
  · intro t a f c op v
    refine ⟨Nat.le_refl _, fun frame row _ hr => ?_⟩
    rw [formula, Formula.truth, ColumnRef.cell_term c hr, Predicate.eval]
    rfl
  · intro t a f c vs n
    refine ⟨Nat.le_refl _, fun frame row _ hr => ?_⟩
    rw [formula, Formula.truth_notIf, Formula.truth, ColumnRef.cell_term c hr, Predicate.eval,
      List.map_map]
    rfl
  · intro t a f c s n
    refine ⟨Nat.le_refl _, fun frame row _ hr => ?_⟩
    rw [formula, Formula.truth_notIf, Formula.truth, ColumnRef.cell_term c hr, Predicate.eval]
    rfl
  · intro t a f c n v
    exact ⟨Nat.le_refl _, fun frame row _ hr => truth_isNull hr⟩
  · rintro t a f ps cs m ⟨hle, hs⟩
    refine ⟨hle, fun frame row ha hr => ?_⟩
    rw [formula, formulas_eq_map, Formula.truth_group_and, hs frame row ha hr, Predicate.eval,
      Predicate.evalAll_eq_foldr]
  · rintro t a f ps cs m ⟨hle, hs⟩
    refine ⟨hle, fun frame row ha hr => ?_⟩
    rw [formula, formulas_eq_map, Formula.truth_group_or, hs frame row ha hr, Predicate.eval,
      Predicate.evalAny_eq_foldr]
  · rintro t a f n r p j c m hj ⟨hle, hb⟩
    refine ⟨Nat.le_of_succ_le hle, fun frame row ha hr => ?_⟩
    rw [formula, Formula.truth_notIf, Predicate.eval_related, hj]
    simp only [Formula.truth, Join.belonging, List.any_filter, Truth.selects_and]
    congr 3
    funext inside
    have hin : Frame.row? (((aliasText f).toList, inside) :: frame) (aliasText f).toList =
        some inside := by rw [Frame.row?_cons, if_pos rfl]
    have hout : Frame.row? (((aliasText f).toList, inside) :: frame) (aliasText a).toList =
        some row := by rw [Frame.row?_cons, if_neg (Nat.ne_of_gt ha), hr]
    rw [truth_join j hin hout, hb _ inside (Nat.lt_succ_self f) hin]
  · intro t a f
    exact ⟨Nat.le_refl _, fun _ _ _ _ => rfl⟩
  · rintro t a f p ps c cs k m ⟨hle, hc⟩ ⟨hle', hs⟩
    refine ⟨Nat.le_trans hle hle', fun frame row ha hr => ?_⟩
    rw [List.map_cons, List.map_cons, List.map_cons, hc frame row ha hr,
      hs frame row (Nat.lt_of_lt_of_le ha hle) hr]

/-! ## Scopes that are named -/

section Scopes

variable {scopes : List (List Char)}

theorem inScope_term {a : Alias} (c : Column) (h : (aliasText a).toList ∈ scopes) :
    (ColumnRef.term ⟨a, c⟩).inScope scopes = true := by
  rw [ColumnRef.term, Term.inScope, List.any_eq_true]
  exact ⟨_, h, sameName_aliasText_iff.2 rfl⟩

theorem inScope_notIf (negated : Bool) (f : Formula) :
    (f.notIf negated).inScope scopes = f.inScope scopes := by cases negated <;> rfl

end Scopes

/-- A condition names no scope but its own and those of its subqueries. -/
theorem inScope_formula (h : ofPredicate js table scope free p = .ok (c, next)) :
    ∀ scopes : List (List Char), (aliasText scope).toList ∈ scopes →
      c.formula.inScope scopes = true := by
  refine ofPredicate_induct
    (M := fun _ a _ _ c _ => ∀ scopes : List (List Char), (aliasText a).toList ∈ scopes →
      c.formula.inScope scopes = true)
    (L := fun _ a _ _ cs _ => ∀ scopes : List (List Char), (aliasText a).toList ∈ scopes →
      ∀ f ∈ cs.map formula, f.inScope scopes = true)
    ⟨?_, ?_, ?_, ?_, ?_, ?_, ?_, ?_, ?_⟩ p h
  · intro _ a _ c op v scopes ha
    rw [formula, Formula.inScope, inScope_term c ha]
    rfl
  · intro _ a _ c vs n scopes ha
    rw [formula, inScope_notIf, Formula.inScope, inScope_term c ha, Bool.true_and, List.all_map,
      List.all_eq_true]
    intro _ _; rfl
  · intro _ a _ c s n scopes ha
    rw [formula, inScope_notIf, Formula.inScope, inScope_term c ha]
    rfl
  · intro _ a _ c n v scopes ha
    have hc := inScope_term c ha
    have hv (d) : (Term.value d).inScope scopes = true := rfl
    cases v <;> cases n <;> simp [formula, Formula.notIf, Formula.inScope, hc, hv]
  · intro _ a _ ps cs _ hs scopes ha
    rw [formula, formulas_eq_map]
    exact Formula.all_group (P := (·.inScope scopes)) (fun _ _ => rfl) rfl (hs scopes ha)
  · intro _ a _ ps cs _ hs scopes ha
    rw [formula, formulas_eq_map]
    exact Formula.all_group (P := (·.inScope scopes)) (fun _ _ => rfl) rfl (hs scopes ha)
  · intro _ a f n r p j c m _ hb scopes ha
    rw [formula, inScope_notIf, Formula.inScope, Formula.inScope, Bool.and_eq_true]
    refine ⟨?_, hb _ (.head _)⟩
    rw [Join.formula, Formula.inScope, Bool.and_eq_true]
    exact ⟨inScope_term ⟨j.foreignKey, false⟩ List.mem_cons_self,
      inScope_term ⟨j.localKey, false⟩ (List.mem_cons_of_mem _ ha)⟩
  · intro _ _ _ scopes _ f hf
    cases hf
  · intro _ a _ p ps c cs _ _ hc hs scopes ha f hf
    rcases List.mem_cons.1 hf with rfl | hf
    · exact hc scopes ha
    · exact hs scopes ha f hf

end Condition

/-! ## Texts of conditions -/

theorem Formula.condition_words {items : List Condition} {c : Condition} {depth : Nat}
    (h : ∀ d ∈ c :: items, d.words.length ≤ depth) :
    condition (depth + 1) ([nameWord "AND"].intercalate ((c :: items).map Condition.words)) =
      some (group and (one 1) ((c :: items).map Condition.formula), []) := by
  have hends : Ends [] := ⟨rfl, rfl⟩
  have hc := condition_and (Condition.item_all (c :: items) h) hends
  rw [List.append_nil] at hc
  exact hc

/-- Conditions with `AND` between them are read as all of them together. -/
theorem Formula.ofWords?_intercalate {cs : List Condition} (hne : cs ≠ [])
    (hs : ∀ c ∈ cs, c.formula.inScope [rootName] = true) :
    ofWords? rootName ([nameWord "AND"].intercalate (cs.map Condition.words)) =
      some (group and (one 1) (cs.map Condition.formula)) := by
  cases cs with
  | nil => exact absurd rfl hne
  | cons c cs =>
    have hl : ∀ d ∈ c :: cs, d.words.length ≤
        ([nameWord "AND"].intercalate ((c :: cs).map Condition.words)).length := fun d hd =>
      Condition.length_le_intercalate _ (List.mem_map_of_mem (f := Condition.words) hd)
    have hscope : (group and (one 1) ((c :: cs).map Condition.formula)).inScope [rootName] = true :=
      all_group (P := (·.inScope [rootName])) (fun _ _ => rfl) rfl (by simpa using hs)
    unfold ofWords?
    rw [condition_words hl]
    simp only [hscope, if_true]

theorem truthOfWords?_intercalate {tables : Tables} {row : Row} {cs : List Condition}
    (hne : cs ≠ []) (hs : ∀ c ∈ cs, c.formula.inScope [rootName] = true) :
    truthOfWords? tables row ([nameWord "AND"].intercalate (cs.map Condition.words)) =
      some ((cs.map fun c => c.formula.truth tables [(rootName, row)]).foldr Truth.and .yes) := by
  rw [truthOfWords?, Formula.ofWords?_intercalate hne hs, Option.map_some, Formula.truth_group_and,
    List.map_map]
  rfl

theorem ofText_text (c : Condition) : Token.ofText c.text.toList = c.words.map Word.opened := by
  have h := (c.spells [] [] rfl Token.Reads.nil).ofText
  simpa using h

/-- The text of a condition, with its parameters in the open places, is read as its formula. -/
theorem truthOfText?_text {c : Condition} (hs : c.formula.inScope [rootName] = true)
    (tables : Tables) (row : Row) :
    truthOfText? c.text c.params tables row =
      some (c.formula.truth tables [(rootName, row)]) := by
  have hone : ∀ d ∈ [c], d.formula.inScope [rootName] = true := by simpa using hs
  unfold truthOfText?
  rw [ofText_text, c.holds.fill]
  simpa using truthOfWords?_intercalate (List.cons_ne_nil c []) hone

theorem ofText_whereClause {q : Query} (hne : q.conditions ≠ []) :
    Token.ofText q.whereClause.toList =
      (nameWord "WHERE" :: [nameWord "AND"].intercalate (q.conditions.map Condition.words)).map
        Word.opened := by
  have hitems : Spells ([' ', 'A', 'N', 'D', ' '].intercalate
      (q.conditions.map fun c => c.text.toList))
      ([nameWord "AND"].intercalate (q.conditions.map Condition.words)) :=
    Spells.intercalate (fun _ => rfl)
      (fun h => h.blank.word (w := "AND".toList) rfl rfl |>.blank) fun c _ => c.spells
  have hreads := reads_word (w := "WHERE".toList) rfl (hitems [] [] rfl Token.Reads.nil)
  have htext : q.whereClause.toList = "WHERE".toList ++ ' ' ::
      [' ', 'A', 'N', 'D', ' '].intercalate (q.conditions.map fun c => c.text.toList) := by
    rw [Query.whereClause, if_neg (by simpa using hne), Query.conditionTexts]
    simp [String.toList_append, String.toList_intercalate, Function.comp_def]
  rw [List.append_nil, List.append_nil] at hreads
  rw [htext]
  exact hreads.ofText

theorem holds_whereClause (q : Query) :
    Holds (nameWord "WHERE" :: [nameWord "AND"].intercalate (q.conditions.map Condition.words))
      q.params := by
  have hw : Holds [nameWord "WHERE"] [] := ⟨by decide, rfl⟩
  have hitems : Holds ([nameWord "AND"].intercalate (q.conditions.map Condition.words))
      (q.conditions.flatMap Condition.params) :=
    Holds.intercalate ⟨by decide, rfl⟩ fun c _ => c.holds
  exact hw.append hitems

/-- The clause of a query, with its parameters in the open places, is read as the conjunction of
its conditions' formulas. -/
theorem truthOfClause?_whereClause {q : Query}
    (hs : ∀ c ∈ q.conditions, c.formula.inScope [rootName] = true) (tables : Tables) (row : Row) :
    truthOfClause? q.whereClause q.params tables row =
      some ((q.conditions.map fun c => c.formula.truth tables [(rootName, row)]).foldr
        Truth.and .yes) := by
  unfold truthOfClause?
  by_cases hne : q.conditions = []
  · rw [Query.whereClause, Query.params, hne]
    rfl
  · rw [ofText_whereClause hne, (holds_whereClause q).fill]
    exact truthOfWords?_intercalate hne hs

/-! ## Queries -/

/-- What the conditions of a query say when they come from the predicates. -/
structure Query.Says (q : Query) (js : Joins) (table : String) (ps : List Predicate) : Prop where
  joins_eq : q.joins = js
  table_eq : q.table = table
  nextAlias : rootAlias < q.nextAlias
  scope : ∀ c ∈ q.conditions, c.formula.inScope [rootName] = true
  truth : ∀ tables row, (q.conditions.map fun c => c.formula.truth tables [(rootName, row)]) =
    ps.map (Predicate.eval js tables table row)
  eval : ∀ tables row, q.conditions.map (Condition.eval tables fun _ => row) =
    ps.map (Predicate.eval js tables table row)

namespace Query

variable {js : Joins} {table : String} {q q' : Query} {p : Predicate} {ps : List Predicate}

theorem says_start (js : Joins) (table : String) : (start js table).Says js table [] :=
  ⟨rfl, rfl, Nat.zero_lt_one, fun _ h => absurd h List.not_mem_nil, fun _ _ => rfl, fun _ _ => rfl⟩

theorem add_eq_ok : q.add p = .ok q' ↔ ∃ c next,
    Condition.ofPredicate q.joins q.table rootAlias q.nextAlias p = .ok (c, next) ∧
      q' = { q with conditions := q.conditions ++ [c], nextAlias := next } := by
  rw [add, bind_eq_ok]
  constructor
  · rintro ⟨⟨c, next⟩, hc, h⟩; cases h; exact ⟨c, next, hc, rfl⟩
  · rintro ⟨c, next, hc, rfl⟩; exact ⟨(c, next), hc, rfl⟩

theorem add_eq_error {e : Filter.Error} : q.add p = .error e ↔
    Condition.ofPredicate q.joins q.table rootAlias q.nextAlias p = .error e := by
  rw [add, bind_eq_error, or_iff_left (by rintro ⟨_, -, h⟩; cases h)]

theorem row?_root (row : Row) : Frame.row? [(rootName, row)] rootName = some row := rfl

theorem Says.add (h : q.Says js table ps) (ha : q.add p = .ok q') :
    q'.Says js table (ps ++ [p]) := by
  obtain ⟨c, next, hc, rfl⟩ := add_eq_ok.1 ha
  rw [h.joins_eq, h.table_eq] at hc
  have htruth (tables : Tables) := (Condition.truth_formula tables hc).2
  obtain ⟨hle, -⟩ := Condition.ofPredicate_sound (fun _ => []) hc
  have hscope := Condition.inScope_formula hc [rootName] List.mem_cons_self
  refine ⟨h.joins_eq, h.table_eq, Nat.lt_of_lt_of_le h.nextAlias hle, ?_, ?_, ?_⟩
  · intro d hd
    rcases List.mem_append.1 hd with hd | hd
    · exact h.scope d hd
    · rw [List.mem_singleton.1 hd]; exact hscope
  · intro tables row
    rw [List.map_append, List.map_append, h.truth tables row, List.map_singleton,
      List.map_singleton, htruth tables _ row h.nextAlias (row?_root row)]
  · intro tables row
    obtain ⟨-, heval⟩ := Condition.ofPredicate_sound tables hc
    rw [List.map_append, List.map_append, h.eval tables row, List.map_singleton,
      List.map_singleton, heval _ h.nextAlias]

/-- What holds before any predicate has been added, and holds again after one more, holds after all
of them. -/
theorem foldlM_induct {P : List Predicate → Query → Prop} (start : P [] q)
    (step : ∀ {ps mid p next}, P ps mid → mid.add p = .ok next → P (ps ++ [p]) next)
    (h : ps.foldlM Query.add q = .ok q') : P ps q' := by
  induction ps using List.reverseRecOn generalizing q' with
  | nil =>
    cases h
    exact start
  | append_singleton ps p ih =>
    rw [List.foldlM_append] at h
    obtain ⟨mid, hm, ha⟩ := bind_eq_ok.1 h
    rw [List.foldlM_cons] at ha
    obtain ⟨last, ha, hl⟩ := bind_eq_ok.1 ha
    cases hl
    exact step (ih hm) ha

/-- Queries that predicates have been added to, one after another, say what these say. -/
theorem says_of_foldlM (h : ps.foldlM Query.add (start js table) = .ok q) : q.Says js table ps :=
  foldlM_induct (P := fun ps q => q.Says js table ps) (says_start js table) (fun h ha => h.add ha) h

theorem Says.truthOfClause? (h : q.Says js table ps) (tables : Tables) (row : Row) :
    truthOfClause? q.whereClause q.params tables row =
      some (Predicate.evalAll js tables table row ps) := by
  rw [truthOfClause?_whereClause h.scope, h.truth, Predicate.evalAll_eq_foldr]

/-- What selects rows says what the predicates say. -/
theorem Says.evalAll (h : q.Says js table ps) (tables : Tables) (row : Row) :
    Condition.evalAll tables (fun _ => row) q.conditions =
      Predicate.evalAll js tables table row ps := by
  rw [Condition.evalAll_eq_foldr, h.eval, Predicate.evalAll_eq_foldr]

/-- A query made of one predicate is as true of a row as the predicate, and so is its text. -/
theorem eval_of_start_add (h : (start js table).add p = .ok q) (tables : Tables) (row : Row) :
    Condition.evalAll tables (fun _ => row) q.conditions = p.eval js tables table row ∧
      truthOfClause? q.whereClause q.params tables row = some (p.eval js tables table row) := by
  have hstated : q.Says js table [p] := (says_start js table).add h
  have hone : Predicate.evalAll js tables table row [p] = p.eval js tables table row := by
    rw [Predicate.evalAll, Predicate.evalAll, Truth.and_yes]
  constructor
  · rw [hstated.evalAll, hone]
  · rw [hstated.truthOfClause?, hone]

theorem selects_of_start_add (h : (start js table).add p = .ok q) (tables : Tables) (row : Row) :
    q.selects tables row = true ↔ p.eval js tables table row = .yes := by
  rw [selects, (eval_of_start_add h tables row).1, Truth.selects_eq_true_iff]

/-- A predicate whose relations join can be added. -/
theorem exists_add (h : q.joins.Covers q.table p) : ∃ q', q.add p = .ok q' := by
  obtain ⟨c, next, hc⟩ := Condition.exists_ofPredicate p rootAlias q.nextAlias h
  exact ⟨_, add_eq_ok.2 ⟨c, next, hc, rfl⟩⟩

/-- Predicates whose relations join can be added one after another. -/
theorem exists_foldlM : ∀ {ps : List Predicate} {q : Query},
    (∀ p ∈ ps, q.joins.Covers q.table p) → ∃ q', ps.foldlM Query.add q = .ok q'
  | [], q, _ => ⟨q, rfl⟩
  | p :: ps, q, h => by
    obtain ⟨mid, hm⟩ := exists_add (h p List.mem_cons_self)
    have hrest : ∀ p ∈ ps, mid.joins.Covers mid.table p := by
      obtain ⟨c, next, -, rfl⟩ := add_eq_ok.1 hm
      exact fun p hp => h p (List.mem_cons_of_mem _ hp)
    obtain ⟨q', hf⟩ := exists_foldlM hrest
    refine ⟨q', ?_⟩
    rw [List.foldlM_cons, hm]
    exact hf

/-- The texts of a query say what its predicates say. Whatever predicates have been added, the text
that one more pushes is as true of a row as the predicate itself, with the parameters that it
pushes in the open places; and the clause with all parameters is as true as all of them together. -/
theorem texts_say_predicates (hq : ps.foldlM Query.add (start js table) = .ok q)
    (hp : q.add p = .ok q') :
    (∃ text own, q'.conditionTexts = q.conditionTexts ++ [text] ∧ q'.params = q.params ++ own ∧
      ∀ tables row, truthOfText? text own tables row = some (p.eval js tables table row)) ∧
    (∀ tables row, truthOfClause? q.whereClause q.params tables row =
      some (Predicate.evalAll js tables table row ps)) ∧
    ∀ tables row, truthOfClause? q'.whereClause q'.params tables row =
      some (Predicate.evalAll js tables table row (ps ++ [p])) := by
  have hs := says_of_foldlM hq
  have hs' := hs.add hp
  refine ⟨?_, hs.truthOfClause?, hs'.truthOfClause?⟩
  obtain ⟨c, next, hc, rfl⟩ := add_eq_ok.1 hp
  refine ⟨c.text, c.params, ?_, ?_, fun tables row => ?_⟩
  · rw [conditionTexts, conditionTexts, List.map_append, List.map_singleton]
  · rw [params, params, List.flatMap_append, List.flatMap_singleton]
  · rw [truthOfText?_text (hs'.scope c (by simp))]
    have ht := hs'.truth tables row
    rw [List.map_append, List.map_append, hs.truth tables row] at ht
    simpa using ht

/-- A group with a value that stands for null, beside a denied subquery with an empty list. -/
theorem texts_say_nested_predicates : ∃ (js : Joins) (p none : Predicate) (q q' : Query),
    [p].foldlM Query.add (start js "a") = .ok q ∧ q.add none = .ok q' ∧
    q'.whereClause =
      "WHERE ((t0.\"paid\"\"at\" IS NOT NULL AND t0.\"paid\"\"at\" <> ?) OR 1=0) AND " ++
      "NOT EXISTS (SELECT 1 FROM \"b\" AS r1 WHERE r1.\"a_id\" = t0.\"id\" AND " ++
      "r1.\"x\" NOT IN ())" ∧
    ∀ tables row, truthOfClause? q'.whereClause [.integer 0] tables row =
      some (Predicate.evalAll js tables "a" row [p, none]) := by
  have h {js p none q q'} (hq : [p].foldlM Query.add (start js "a") = .ok q)
      (hp : q.add none = .ok q') := (texts_say_predicates hq hp).2.2
  exact ⟨.add .empty "a" "r" ⟨"b", "id", "a_id"⟩,
    .any [.isNull ⟨"paid\"at", false⟩ true (some (.integer 0)), .any []],
    .lacking "r" (.among ⟨"x", false⟩ [] true), _, _, rfl, rfl, by decide +kernel, h rfl rfl⟩

end Query

end RowSieve.Sql
