/-
What is known of the predicate that a request asks for, whatever the rows: the operand suits the
operator, a test of the column needs no join, and one placed across relations needs no more than
that the relations of its field join.
-/
import RowSieve.Filter.Compiled
import RowSieve.Proofs.Sql.Resolution

namespace RowSieve.Filter

open RowSieve.Sql

/-! ## Operands -/

/-- Whether an operand has a shape that operators of the arity take; no list is empty. -/
def Operand.Suits : Arity → Operand → Prop
  | .none, none | .scalar, one _ | .scalarOrList, one _ => True
  | .list, many ds | .scalarOrList, many ds => ds ≠ []
  | _, _ => False

theorem map_eq_ok {ε α β : Type} {x : Except ε α} {g : α → β} {b : β} :
    x.map g = .ok b ↔ ∃ a, x = .ok a ∧ g a = b := by
  cases x <;> simp [Except.map]

namespace Field

theorem length_data {f : Field} : ∀ {ss : List Scalar} {ds : List Datum}, f.data ss = .ok ds →
    ds.length = ss.length
  | [], _, h => by cases h; rfl
  | s :: ss, _, h => by
    obtain ⟨d, -, h⟩ := bind_eq_ok.1 h
    obtain ⟨ds, hds, h⟩ := bind_eq_ok.1 h
    cases h
    rw [List.length_cons, List.length_cons, length_data hds]

section Operand

variable {f : Field} {op : Operator} {value? : Option RequestValue} {value : Operand}

/-- An operand comes of no value, of a scalar, or of a list with something in it, as the operator
takes them. -/
theorem operand_cases (h : f.operand op value? = .ok value) :
    (op.arity = .none ∧ value? = none ∧ value = .none) ∨
    (∃ s d, (op.arity = .scalar ∨ op.arity = .scalarOrList) ∧ value? = some (.scalar s) ∧
      f.datum s = .ok d ∧ value = .one d) ∨
    ∃ s rest ds, (op.arity = .list ∨ op.arity = .scalarOrList) ∧
      value? = some (.list (s :: rest)) ∧ f.data (s :: rest) = .ok ds ∧ value = .many ds := by
  unfold Field.operand at h
  generalize op.arity = a at h ⊢
  rcases value? with _ | (items | s)
  · cases a <;> cases h
    exact .inl ⟨rfl, rfl, rfl⟩
  · cases items with
    | nil => cases a <;> cases h
    | cons s rest =>
      cases a <;> try cases h
      all_goals
        obtain ⟨ds, hds, rfl⟩ := map_eq_ok.1 h
        exact .inr (.inr ⟨s, rest, ds, by simp, rfl, hds, rfl⟩)
  · cases a <;> try cases h
    all_goals
      obtain ⟨d, hd, rfl⟩ := map_eq_ok.1 h
      exact .inr (.inl ⟨s, d, by simp, rfl, hd, rfl⟩)

/-- An operand that is accepted suits its operator. -/
theorem suits_of_operand (h : f.operand op value? = .ok value) : value.Suits op.arity := by
  rcases operand_cases h with ⟨ha, -, rfl⟩ | ⟨s, d, ha, -, -, rfl⟩ | ⟨s, rest, ds, ha, -, hds, rfl⟩
  · rw [ha]
    trivial
  · rcases ha with ha | ha <;> rw [ha] <;> trivial
  · have hne : ds ≠ [] := List.ne_nil_of_length_eq_add_one (length_data hds)
    rcases ha with ha | ha <;> rw [ha] <;> exact hne

end Operand

/-! ## Joins that are needed -/

section Covers

variable {js : Joins} {table target : String} {f : Field} {op : Operator} {value : Operand}

theorem covers_comparisons (c : Comparison) : js.Covers table (f.comparisons c value) := by
  rw [comparisons, Joins.covers_conj]
  intro p hp
  obtain ⟨d, -, rfl⟩ := List.mem_map.1 hp
  trivial

theorem covers_likenesses (anchor : Like.Anchor) : js.Covers table (f.likenesses anchor value) := by
  rw [likenesses, Joins.covers_disj]
  intro p hp
  obtain ⟨d, -, rfl⟩ := List.mem_map.1 hp
  trivial

/-- A test of the column itself asks for no relation. -/
theorem covers_test : js.Covers table (f.test op value) := by
  cases op
  case equals | notEquals =>
    cases value with
    | many ds => trivial
    | _ => exact covers_comparisons _
  case contains | startsWith | endsWith => exact covers_likenesses _
  case below | atMost | above | atLeast => exact covers_comparisons _
  case notContains =>
    rw [test, Joins.covers_conj]
    intro p hp
    obtain ⟨d, -, rfl⟩ := List.mem_map.1 hp
    trivial
  all_goals trivial

/-- A test of a column of the row itself stands as it is. -/
theorem placed_of_local (h : f.path.relations = []) : f.placed op value = f.test op value := by
  rw [placed, h]

/-- The relations of a placed test join when those of its field can be walked. -/
theorem covers_placed (hw : js.walk table f.path.relations = .ok target) :
    js.Covers table (f.placed op value) := by
  unfold placed
  split
  · exact covers_test
  · split
    · exact Joins.covers_reachNone.2 ⟨target, hw, covers_test⟩
    · rw [Joins.covers_conj]
      intro p hp
      obtain ⟨d, -, rfl⟩ := List.mem_map.1 hp
      exact Joins.covers_reach.2 ⟨target, hw, trivial⟩
    · exact Joins.covers_reach.2 ⟨target, hw, covers_test⟩

end Covers

/-! ## The predicate of a request -/

theorem predicate_eq_ok {f : Field} {r : Request} {p : Predicate} :
    f.predicate r = .ok p ↔ ∃ op value, f.operator r.operator = .ok op ∧
      f.operand op r.value? = .ok value ∧ f.placed op value = p := by
  rw [predicate, bind_eq_ok]
  constructor
  · rintro ⟨op, hop, h⟩
    obtain ⟨value, hv, h⟩ := bind_eq_ok.1 h
    cases h
    exact ⟨op, value, hop, hv, rfl⟩
  · rintro ⟨op, value, hop, hv, rfl⟩
    exact ⟨op, hop, bind_eq_ok.2 ⟨value, hv, rfl⟩⟩

end Field

end RowSieve.Filter
