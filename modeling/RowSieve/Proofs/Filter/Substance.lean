/-
A request that is accepted asks for something. Nothing in its predicate is asked of an empty list,
every test is one of the field's own column in rows that exactly the field's relations reach, and a
relation is denied at the root only, for a negative operator across relations.
-/
import RowSieve.Proofs.Filter.Negation
import RowSieve.Proofs.Filter.Published

namespace RowSieve.Filter

open RowSieve.Sql

/-! ## Tests of one column -/

/-- Every test of the predicate is one of the column in rows that exactly the relations reach, in
their order; none is made with an empty list, and no relation is denied. -/
inductive Predicate.Tests (column : String) : List String → Predicate → Prop where
  | compare (day : Bool) (op : Comparison) (d : Datum) :
      Tests column [] (.compare ⟨column, day⟩ op d)
  | among (day : Bool) {ds : List Datum} (negated : Bool) : ds ≠ [] →
      Tests column [] (.among ⟨column, day⟩ ds negated)
  | like (day : Bool) (pattern : String) (negated : Bool) :
      Tests column [] (.like ⟨column, day⟩ pattern negated)
  | isNull (day negated : Bool) (sentinel? : Option Datum) :
      Tests column [] (.isNull ⟨column, day⟩ negated sentinel?)
  | all {relations : List String} {items : List Predicate} : items ≠ [] →
      (∀ p ∈ items, Tests column relations p) → Tests column relations (.all items)
  | any {relations : List String} {items : List Predicate} : items ≠ [] →
      (∀ p ∈ items, Tests column relations p) → Tests column relations (.any items)
  | having (relation : String) {rest : List String} {body : Predicate} :
      Tests column rest body → Tests column (relation :: rest) (.having relation body)

/-- The tokens of the operators that deny, across relations, what another one asserts. -/
def denyingTokens : List String := ["notEquals", "notIn", "notContains", "isNull"]

/-- What an operator can ask of a field: tests of its column, or, when it denies and the field has
relations, that no row of the first one passes such tests. -/
inductive Field.Asks (f : Field) (token : String) : Predicate → Prop where
  | tests {p : Predicate} : token ∉ denyingTokens ∨ f.path.relations = [] →
      p.Tests f.path.column f.path.relations → Asks f token p
  | lacking {relation : String} {rest : List String} {body : Predicate} : token ∈ denyingTokens →
      f.path.relations = relation :: rest → body.Tests f.path.column rest →
      Asks f token (.lacking relation body)

theorem Operator.token_mem_denyingTokens {op : Operator} :
    op.token ∈ denyingTokens ↔ op.polarity = .negative := by
  cases op <;> decide

theorem Operand.Suits.values_ne_nil {a : Arity} {value : Operand} (h : value.Suits a)
    (ha : a ≠ .none) : value.values ≠ [] := by
  cases a <;> cases value <;> first
    | exact absurd rfl ha
    | exact absurd h id
    | exact h
    | exact List.cons_ne_nil _ _

namespace Predicate.Tests

variable {column : String} {relations : List String} {ps : List Predicate}

theorem conj (hne : ps ≠ []) (h : ∀ p ∈ ps, p.Tests column relations) :
    (Predicate.conj ps).Tests column relations := by
  unfold Predicate.conj
  split
  · exact h _ List.mem_cons_self
  · exact .all hne h

theorem disj (hne : ps ≠ []) (h : ∀ p ∈ ps, p.Tests column relations) :
    (Predicate.disj ps).Tests column relations := by
  unfold Predicate.disj
  split
  · exact h _ List.mem_cons_self
  · exact .any hne h

theorem reach {leaf : Predicate} (h : leaf.Tests column []) : ∀ relations : List String,
    (Predicate.reach relations leaf).Tests column relations
  | [] => h
  | r :: rest => .having r (reach h rest)

end Predicate.Tests

/-! ## What a field asks -/

namespace Field

variable {f : Field} {op : Operator} {value : Operand}

theorem tests_comparisons (c : Comparison) (hne : value.values ≠ []) :
    (f.comparisons c value).Tests f.path.column [] := by
  refine .conj (mt List.map_eq_nil_iff.1 hne) fun p hp => ?_
  obtain ⟨d, -, rfl⟩ := List.mem_map.1 hp
  exact .compare _ c d

theorem tests_likenesses (anchor : Like.Anchor) (hne : value.values ≠ []) :
    (f.likenesses anchor value).Tests f.path.column [] := by
  refine .disj (mt List.map_eq_nil_iff.1 hne) fun p hp => ?_
  obtain ⟨d, -, rfl⟩ := List.mem_map.1 hp
  exact .like _ _ _

theorem tests_test (h : value.Suits op.arity) : (f.test op value).Tests f.path.column [] := by
  -- Only the tests for null go without a value, and these take none.
  have hvalues (ha : op.arity ≠ .none) : value.values ≠ [] := h.values_ne_nil ha
  cases op
  case equals | notEquals =>
    cases value with
    | many ds => exact .among _ _ (hvalues (by decide))
    | _ => exact tests_comparisons _ (hvalues (by decide))
  case among | notAmong => exact .among _ _ (hvalues (by decide))
  case contains | startsWith | endsWith => exact tests_likenesses _ (hvalues (by decide))
  case notContains =>
    refine .conj (mt List.map_eq_nil_iff.1 (hvalues (by decide))) fun p hp => ?_
    obtain ⟨d, -, rfl⟩ := List.mem_map.1 hp
    exact .like _ _ _
  case below | atMost | above | atLeast => exact tests_comparisons _ (hvalues (by decide))
  case isNull | isNotNull => exact .isNull _ _ _

theorem asks_placed (h : value.Suits op.arity) : f.Asks op.token (f.placed op value) := by
  have hplain (hop : op.polarity = .positive) : op.token ∉ denyingTokens := by
    rw [Operator.token_mem_denyingTokens, hop]
    decide
  cases hrel : f.path.relations with
  | nil =>
    rw [placed_of_local hrel]
    exact .tests (.inr hrel) (hrel ▸ tests_test h)
  | cons r rest =>
    have hne : f.path.relations ≠ [] := hrel ▸ List.cons_ne_nil r rest
    have htest : (f.test op.positive value).Tests f.path.column [] :=
      tests_test (op.arity_positive ▸ h)
    rcases f.placed_cases op value hne with ⟨hop, hp, -⟩ | ⟨ds, rfl, rfl, hp⟩ | ⟨hop, hp, -⟩
    · -- the denial stands at the first relation, and the positive test behind the others
      rw [hp, hrel]
      exact .lacking (Operator.token_mem_denyingTokens.2 hop) hrel (.reach htest rest)
    · rw [hp]
      refine .tests (.inl (hplain rfl)) (.conj (mt List.map_eq_nil_iff.1 h) fun p hp => ?_)
      obtain ⟨d, -, rfl⟩ := List.mem_map.1 hp
      exact .reach (.compare _ _ d) _
    · rw [hp]
      exact .tests (.inl (hplain hop)) (.reach htest _)

theorem asks_of_predicate {r : Request} {p : Predicate} (h : f.predicate r = .ok p) :
    f.Asks r.operator p := by
  obtain ⟨op, value, hop, hv, rfl⟩ := predicate_eq_ok.1 h
  rw [← (operator_eq_ok.1 hop).1]
  exact asks_placed (suits_of_operand hv)

end Field

end RowSieve.Filter
