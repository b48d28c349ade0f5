/-
Scopes of the subqueries of a query. Every subquery is given the next free alias, outer ones before
inner ones and earlier conditions before later ones, so that the aliases of all conditions together
are the numbers from one on, each given once. What is read from the texts shows them: each
subquery ties its own scope to the one right outside of it, and each test is one of the innermost
scope around it, so no name is caught by a scope that it does not mean.
-/
import Mathlib.Data.List.Intervals
import RowSieve.Proofs.Filter.Steps
import RowSieve.Proofs.Sql.Clause

namespace RowSieve.Sql

open RowSieve.Filter (Predicate Step Target)
open RowSieve.Store (Token)

/-! ## Scopes of formulas -/

/-- Whether a term is a value or a column of the scope. -/
def Term.isOf (scope : List Char) : Term → Bool
  | column s _ => s == scope
  | value _ => true

namespace Formula

/-- The names of the scopes that subqueries open, in the order of the text. -/
def subscopes : Formula → List (List Char)
  | found _ scope body => scope :: body.subscopes
  | not f => f.subscopes
  | and f g | or f g => f.subscopes ++ g.subscopes
  | compare .. | among .. | like .. | isNull .. => []

/-- Whether every test is one of the innermost scope around it, and every subquery begins with a
column of its own that equals one of the scope right outside of it. -/
def correlates (scope : List Char) : Formula → Bool
  | compare a _ b => a.isOf scope && b.isOf scope
  | among a items => a.isOf scope && items.all (·.isOf scope)
  | like a pattern => a.isOf scope && pattern.isOf scope
  | isNull a => a.isOf scope
  | found _ inner (.and (.compare (.column own ⟨_, false⟩) .eq (.column outer ⟨_, false⟩)) body) =>
    own == inner && outer == scope && body.correlates inner
  | found .. => false
  | not f => f.correlates scope
  | and f g | or f g => f.correlates scope && g.correlates scope

/-- The formula of a condition's text, with the parameters in its open places. -/
def ofText? (text : String) (params : List Datum) : Option Formula :=
  fill (Token.ofText text.toList) params >>= ofWords? rootName

-- The subquery names a column of its own where it should name one of the row outside.
example : (ofText? "EXISTS (SELECT 1 FROM \"a\" AS r1 WHERE r1.\"x\" = r1.\"y\" AND 1=1)" []).map
    (fun f => (f.subscopes, f.correlates rootName)) = some (["r1".toList], false) := by
  decide +kernel

theorem subscopes_notIf (negated : Bool) (f : Formula) :
    (f.notIf negated).subscopes = f.subscopes := by cases negated <;> rfl

theorem correlates_notIf (negated : Bool) (f : Formula) (scope : List Char) :
    (f.notIf negated).correlates scope = f.correlates scope := by cases negated <;> rfl

theorem subscopes_foldl {join : Formula → Formula → Formula}
    (hj : ∀ f g, (join f g).subscopes = f.subscopes ++ g.subscopes) (fs : List Formula)
    (f : Formula) : (fs.foldl join f).subscopes = f.subscopes ++ fs.flatMap subscopes := by
  induction fs generalizing f with
  | nil => simp
  | cons g fs ih => rw [List.foldl_cons, ih, hj, List.flatMap_cons, List.append_assoc]

theorem subscopes_group {join : Formula → Formula → Formula}
    (hj : ∀ f g, (join f g).subscopes = f.subscopes ++ g.subscopes) (n : Int)
    (fs : List Formula) : (group join (.one n) fs).subscopes = fs.flatMap subscopes := by
  cases fs with
  | nil => rfl
  | cons f fs => exact subscopes_foldl hj fs f

end Formula

/-! ## Names of aliases -/

/-- The names of the aliases from one up to another. -/
def scopeNames (a b : Alias) : List (List Char) := (List.Ico a b).map fun n => (aliasText n).toList

theorem scopeNames_self (a : Alias) : scopeNames a a = [] := by
  rw [scopeNames, List.Ico.self_empty, List.map_nil]

theorem scopeNames_append {a b c : Alias} (h : a ≤ b) (h' : b ≤ c) :
    scopeNames a b ++ scopeNames b c = scopeNames a c := by
  rw [scopeNames, scopeNames, scopeNames, ← List.map_append, List.Ico.append_consecutive h h']

theorem scopeNames_cons {a b : Alias} (h : a < b) :
    (aliasText a).toList :: scopeNames (a + 1) b = scopeNames a b := by
  rw [scopeNames, scopeNames, List.Ico.eq_cons h, List.map_cons]

theorem aliasText_toList {a : Alias} (h : 0 < a) :
    (aliasText a).toList = 'r' :: Number.toDigits a := by
  rw [aliasText, if_neg (Nat.ne_of_gt h)]
  simp only [String.toList_append, String.toList_ofList]
  rfl

theorem scopeNames_eq {a : Alias} (h : 0 < a) (b : Alias) :
    scopeNames a b = (List.Ico a b).map fun n => 'r' :: Number.toDigits n :=
  List.map_congr_left fun _ hn => aliasText_toList (Nat.lt_of_lt_of_le h (List.Ico.mem.1 hn).1)

/-- Different aliases have names that no letter's case makes the same. -/
theorem pairwise_scopeNames (a b : Alias) :
    (scopeNames a b).Pairwise fun s t => Token.sameName s t = false := by
  refine List.pairwise_map.2 ((List.Ico.pairwise_lt a b).imp fun hlt => ?_)
  exact Bool.eq_false_iff.2 (mt sameName_aliasText_iff.1 (Nat.ne_of_lt hlt))

theorem ne_rootName_of_mem_scopeNames {a b : Alias} (h : 0 < a) {s : List Char}
    (hs : s ∈ scopeNames a b) : Token.sameName s rootName = false := by
  obtain ⟨n, hn, rfl⟩ := List.mem_map.1 hs
  have hlt := Nat.lt_of_lt_of_le h (List.Ico.mem.1 hn).1
  exact Bool.eq_false_iff.2 (mt sameName_aliasText_iff.1 (Nat.ne_of_gt hlt))

/-! ## Scopes of conditions -/

namespace Condition

variable {js : Joins} {table : String} {scope free next : Alias} {p : Predicate} {c : Condition}

theorem correlates_isNull (a : Alias) (c : Filter.Column) (negated : Bool)
    (sentinel? : Option Datum) :
    (isNull ⟨a, c⟩ negated sentinel?).formula.correlates (aliasText a).toList = true := by
  cases sentinel? <;> cases negated <;>
    simp [formula, Formula.notIf, Formula.correlates, ColumnRef.term, Term.isOf]

/-- A predicate's condition gives its subqueries the free aliases, one after another, and each part
of it refers to the scope that it stands in. -/
theorem scopes_formula (h : ofPredicate js table scope free p = .ok (c, next)) :
    free ≤ next ∧ c.formula.correlates (aliasText scope).toList = true ∧
      c.formula.subscopes = scopeNames free next := by
  refine ofPredicate_induct
    (M := fun _ a f _ c m => f ≤ m ∧ c.formula.correlates (aliasText a).toList = true ∧
      c.formula.subscopes = scopeNames f m)
    (L := fun _ a f _ cs m => f ≤ m ∧
      (∀ g ∈ cs.map formula, g.correlates (aliasText a).toList = true) ∧
      (cs.map formula).flatMap Formula.subscopes = scopeNames f m)
    ⟨?_, ?_, ?_, ?_, ?_, ?_, ?_, ?_, ?_⟩ p h
  · intro _ a f c op v
    refine ⟨Nat.le_refl f, ?_, (scopeNames_self f).symm⟩
    simp [formula, Formula.correlates, ColumnRef.term, Term.isOf]
  · intro _ a f c vs n
    refine ⟨Nat.le_refl f, ?_, ?_⟩
    · rw [formula, Formula.correlates_notIf]
      simp [Formula.correlates, ColumnRef.term, Term.isOf]
    · rw [formula, Formula.subscopes_notIf, scopeNames_self]
      rfl
  · intro _ a f c s n
    refine ⟨Nat.le_refl f, ?_, ?_⟩
    · rw [formula, Formula.correlates_notIf]
      simp [Formula.correlates, ColumnRef.term, Term.isOf]
    · rw [formula, Formula.subscopes_notIf, scopeNames_self]
      rfl
  · intro _ a f c n v
    refine ⟨Nat.le_refl f, correlates_isNull a c n v, ?_⟩
    rw [scopeNames_self]
    cases v <;> cases n <;> rfl
  · rintro _ a f ps cs m ⟨hle, hs, hn⟩
    rw [formula, formulas_eq_map]
    exact ⟨hle, Formula.all_group (fun _ _ => rfl) rfl hs,
      (Formula.subscopes_group (fun _ _ => rfl) 1 _).trans hn⟩
  · rintro _ a f ps cs m ⟨hle, hs, hn⟩
    rw [formula, formulas_eq_map]
    exact ⟨hle, Formula.all_group (fun _ _ => rfl) rfl hs,
      (Formula.subscopes_group (fun _ _ => rfl) 0 _).trans hn⟩
  · -- the subquery takes the first free alias, and its body those behind it
    rintro _ a f n r p j c m - ⟨hle, hc, hn⟩
    refine ⟨Nat.le_of_succ_le hle, ?_, ?_⟩
    · rw [formula, Formula.correlates_notIf, Join.formula]
      simp [Formula.correlates, hc]
    · rw [formula, Formula.subscopes_notIf, ← scopeNames_cons hle, ← hn]
      rfl
  · intro _ a f
    exact ⟨Nat.le_refl f, fun _ h => absurd h List.not_mem_nil, (scopeNames_self f).symm⟩
  · -- the items behind the first number on from its last alias
    rintro _ a f p ps c cs k m ⟨hle, hc, hn⟩ ⟨hle', hs, hns⟩
    refine ⟨Nat.le_trans hle hle', ?_, ?_⟩
    · rw [List.map_cons]
      exact List.forall_mem_cons.2 ⟨hc, hs⟩
    · rw [List.map_cons, List.flatMap_cons, hn, hns, scopeNames_append hle hle']

end Condition

/-- The text of a condition, with its parameters in the open places, is read as its formula. -/
theorem Formula.ofText?_text {c : Condition} (hs : c.formula.inScope [rootName] = true) :
    ofText? c.text c.params = some c.formula := by
  have hone : ∀ d ∈ [c], d.formula.inScope [rootName] = true := by simpa using hs
  unfold ofText?
  rw [ofText_text, c.holds.fill]
  simpa [group] using ofWords?_intercalate (List.cons_ne_nil c []) hone

/-! ## Scopes of queries -/

namespace Query

variable {q q' : Query}

/-- What the texts of the conditions are read as, each with its own parameters. -/
def readings (q : Query) : List (Option Formula) :=
  q.conditions.map fun c => Formula.ofText? c.text c.params

/-- The scopes of a query whose subqueries have been given the aliases below the next one, each
once. -/
structure Scoped (q : Query) : Prop where
  nextAlias : 0 < q.nextAlias
  correlates : ∀ c ∈ q.conditions, c.formula.correlates rootName = true
  subscopes : (q.conditions.map Condition.formula).flatMap Formula.subscopes =
    scopeNames 1 q.nextAlias

theorem scoped_start (js : Joins) (table : String) : (start js table).Scoped :=
  ⟨Nat.zero_lt_one, fun _ h => absurd h List.not_mem_nil, rfl⟩

theorem Scoped.add (h : q.Scoped) {p : Predicate} (ha : q.add p = .ok q') : q'.Scoped := by
  obtain ⟨c, next, hc, rfl⟩ := add_eq_ok.1 ha
  obtain ⟨hle, hcor, hsub⟩ := Condition.scopes_formula hc
  refine ⟨Nat.lt_of_lt_of_le h.nextAlias hle, ?_, ?_⟩
  · intro d hd
    rcases List.mem_append.1 hd with hd | hd
    · exact h.correlates d hd
    · rw [List.mem_singleton.1 hd]
      exact hcor
  · rw [List.map_append, List.flatMap_append, h.subscopes, List.map_singleton,
      List.flatMap_singleton, hsub, scopeNames_append h.nextAlias hle]

theorem scoped_of_foldlM {js : Joins} {table : String} {ps : List Predicate}
    (h : ps.foldlM Query.add (start js table) = .ok q) : q.Scoped :=
  foldlM_induct (P := fun _ q => q.Scoped) (scoped_start js table) (fun h ha => h.add ha) h

/-- Aliases are fresh, and scopes do not capture. After any steps, failing ones included, the text
of every condition can be read; each subquery in it ties its own scope to the one right outside of
it, the table that is asked for at the top, and each test is one of the innermost scope around it.
The scopes of all texts together are named `r1`, `r2` and so on below the next alias, in the order
in which they stand; so no two have one name, and none has that of the table. -/
theorem scopes_are_fresh (js : Joins) (table : String) (steps : List Step) :
    let q := (Target.run (start js table) steps).2
    ∃ fs : List Formula, q.readings = fs.map some ∧ (∀ f ∈ fs, f.correlates rootName = true) ∧
      let names := fs.flatMap Formula.subscopes
      names = (List.Ico 1 q.nextAlias).map (fun n => 'r' :: Number.toDigits n) ∧
      names.Pairwise (fun s t => Token.sameName s t = false) ∧
      ∀ s ∈ names, Token.sameName s rootName = false := by
  obtain ⟨ps, hp⟩ := Target.foldlM_of_run (start js table) steps
  have hs := scoped_of_foldlM hp
  have hscope := (says_of_foldlM hp).scope
  refine ⟨(Target.run (start js table) steps).2.conditions.map Condition.formula, ?_, ?_, ?_⟩
  · exact (List.map_congr_left fun c hc => Formula.ofText?_text (hscope c hc)).trans
      (List.map_map ..).symm
  · simpa using hs.correlates
  · rw [hs.subscopes]
    exact ⟨scopeNames_eq Nat.zero_lt_one _, pairwise_scopeNames _ _,
      fun _ => ne_rootName_of_mem_scopeNames Nat.zero_lt_one⟩

end Query

end RowSieve.Sql
