/-
Refusals of requests. Whatever is wrong with a request (its key, its operator, the shape of its
value, one of its scalars), the refusal names the key of the request and puts the client at fault.
A missing relation is never among the reasons: it is not looked for before a query is built.
-/
import RowSieve.Proofs.Filter.Catalog

namespace RowSieve.Filter

open RowSieve.Sql (bind_eq_error)

/-- The refusal names the field and puts the client at fault. -/
structure Error.Blames (key : String) (e : Error) : Prop where
  field_eq : e.field = key
  client : e.isClientError = true

theorem Error.Blames.ne_unknownRelation {key : String} {e : Error} (h : e.Blames key)
    (relation table : String) : e ≠ .unknownRelation relation table := by
  rintro rfl
  exact absurd h.client Bool.false_ne_true

/-- The refusal is of an operator or a value of the field. -/
inductive Error.Rejects (key : String) : Error → Prop where
  | operator (token : String) (allowed : List String) :
      Rejects key (.unsupportedOperator key token allowed)
  | value (shown : String) (reason : Reason) : Rejects key (.invalidValue key shown reason)
  | label (shown : String) (allowed : List String) : Rejects key (.unknownLabel key shown allowed)

theorem Error.Rejects.blames {key : String} {e : Error} (h : e.Rejects key) : e.Blames key := by
  cases h <;> exact ⟨rfl, rfl⟩

theorem map_eq_error {ε α β : Type} {x : Except ε α} {g : α → β} {e : ε} :
    x.map g = .error e ↔ x = .error e := by
  cases x <;> simp [Except.map]

namespace Field

variable {f : Field} {op : Operator} {e : Error}

/-! ## Values -/

theorem rejects_of_datum {s : Scalar} (h : f.datum s = .error e) : e.Rejects f.key := by
  unfold datum at h
  simp only at h
  split at h
  case h_1 => cases h
  case h_6 =>
    split at h
    · cases h; exact .value _ _
    · split at h
      · cases h
      · cases h; exact .label _ _
  all_goals
    split at h
    · cases h
    · cases h; exact .value _ _

theorem rejects_of_data : ∀ {ss : List Scalar}, f.data ss = .error e → e.Rejects f.key
  | [], h => by cases h
  | s :: ss, h => by
    rw [data] at h
    rcases bind_eq_error.1 h with h | ⟨d, -, h⟩
    · exact rejects_of_datum h
    · rcases bind_eq_error.1 h with h | ⟨ds, -, h⟩
      · exact rejects_of_data h
      · cases h

theorem rejects_of_operand {value? : Option RequestValue} (h : f.operand op value? = .error e) :
    e.Rejects f.key := by
  unfold operand at h
  simp only at h
  split at h
  case h_1 => cases h
  case h_7 => exact rejects_of_data (map_eq_error.1 h)
  case h_8 => exact rejects_of_datum (map_eq_error.1 h)
  all_goals
    cases h
    exact .value _ _

/-! ## Requests -/

theorem rejects_of_operator {token : String} (h : f.operator token = .error e) :
    e.Rejects f.key := by
  unfold operator at h
  split at h
  · cases h
  · cases h; exact .operator _ _

theorem rejects_of_predicate {r : Request} (h : f.predicate r = .error e) : e.Rejects f.key := by
  unfold predicate at h
  rcases bind_eq_error.1 h with h | ⟨op, -, h⟩
  · exact rejects_of_operator h
  · rcases bind_eq_error.1 h with h | ⟨value, -, h⟩
    · exact rejects_of_operand h
    · cases h

end Field

namespace Catalog

variable {c : Catalog} {e : Error}

/-- A request is refused because its key is unknown, or for its operator or its value. -/
theorem refusal_cases {r : Request} (h : c.predicate r = .error e) :
    (c.find? r.key = none ∧ e = .unknownKey r.key) ∨
      ∃ f, c.find? r.key = some f ∧ e.Rejects r.key := by
  cases hfind : c.find? r.key with
  | none =>
    have hresolve : c.resolve r.key = .error (.unknownKey r.key) := by rw [resolve, hfind]
    rw [predicate, hresolve] at h
    cases h
    exact .inl ⟨rfl, rfl⟩
  | some f =>
    have hresolve : c.resolve r.key = .ok f := resolve_eq_ok.2 hfind
    rw [predicate_of_resolve hresolve] at h
    exact .inr ⟨f, rfl, key_of_resolve hresolve ▸ Field.rejects_of_predicate h⟩

/-- A refused request is refused by its own key, and the client is at fault. -/
theorem blames_of_predicate {r : Request} (h : c.predicate r = .error e) : e.Blames r.key := by
  rcases refusal_cases h with ⟨-, rfl⟩ | ⟨f, -, h⟩
  · exact ⟨rfl, rfl⟩
  · exact h.blames

end Catalog

end RowSieve.Filter
