/-
Laws of truth values: `and` and `or` are associative with `yes` and `no` as their neutral values,
and what a row is selected by is read off the parts. On truth values that come
from a Boolean the connectives are those of Booleans, so that nothing unknown arises from them.
-/
import RowSieve.Sql.Truth

namespace RowSieve.Sql.Truth

/-! ## Connectives -/

@[simp] theorem yes_and (t : Truth) : yes.and t = t := by cases t <;> rfl

@[simp] theorem and_yes (t : Truth) : t.and yes = t := by cases t <;> rfl

@[simp] theorem or_no (t : Truth) : t.or no = t := by cases t <;> rfl

theorem and_assoc (a b c : Truth) : (a.and b).and c = a.and (b.and c) := by
  cases a <;> cases b <;> cases c <;> rfl

theorem or_assoc (a b c : Truth) : (a.or b).or c = a.or (b.or c) := by
  cases a <;> cases b <;> cases c <;> rfl

theorem not_not (t : Truth) : t.not.not = t := by cases t <;> rfl

theorem not_or (a b : Truth) : (a.or b).not = a.not.and b.not := by
  cases a <;> cases b <;> rfl

/-! ## Selection -/

@[simp] theorem selects_eq_true_iff {t : Truth} : t.selects = true ↔ t = yes := by
  unfold selects; exact beq_iff_eq

@[simp] theorem selects_and (a b : Truth) : (a.and b).selects = (a.selects && b.selects) := by
  cases a <;> cases b <;> rfl

theorem and_eq_yes_iff {a b : Truth} : a.and b = yes ↔ a = yes ∧ b = yes := by
  cases a <;> cases b <;> simp [and]

theorem or_eq_yes_iff {a b : Truth} : a.or b = yes ↔ a = yes ∨ b = yes := by
  cases a <;> cases b <;> simp [or]

/-! ## Truth values of Booleans -/

@[simp] theorem selects_ofBool (b : Bool) : (ofBool b).selects = b := by cases b <;> rfl

@[simp] theorem ofBool_eq_yes_iff {b : Bool} : ofBool b = yes ↔ b = true := by
  cases b <;> simp [ofBool]

@[simp] theorem ofBool_ne_unknown (b : Bool) : ofBool b ≠ unknown := by
  cases b <;> simp [ofBool]

@[simp] theorem not_ofBool (b : Bool) : (ofBool b).not = ofBool (!b) := by cases b <;> rfl

/-! ## Unknown truth -/

/-- Two truths that are unknown on the same condition give one that is unknown on it. -/
theorem or_eq_unknown_iff {a b : Truth} {P : Prop} (ha : a = unknown ↔ P) (hb : b = unknown ↔ P) :
    a.or b = unknown ↔ P := by
  by_cases h : P
  · rw [ha.2 h, hb.2 h]
    exact iff_of_true rfl h
  · have hknown : a.or b ≠ unknown := by
      have ha := mt ha.1 h
      have hb := mt hb.1 h
      revert ha hb
      cases a <;> cases b <;> simp [or]
    exact iff_of_false hknown h

/-- Whether one of two truths is so and the other is not. -/
def ExactlyOne (t u : Truth) : Prop := t = yes ∧ u = no ∨ t = no ∧ u = yes

theorem ExactlyOne.symm {t u : Truth} (h : ExactlyOne t u) : ExactlyOne u t :=
  (Or.symm h).imp And.symm And.symm

theorem ExactlyOne.eq_yes_iff {t u : Truth} (h : ExactlyOne t u) : u = yes ↔ t ≠ yes := by
  rcases h with ⟨rfl, rfl⟩ | ⟨rfl, rfl⟩ <;> decide

theorem exactlyOne_not {t : Truth} (h : t ≠ unknown) : ExactlyOne t t.not := by
  cases t with
  | yes => exact .inl ⟨rfl, rfl⟩
  | no => exact .inr ⟨rfl, rfl⟩
  | unknown => exact absurd rfl h

end RowSieve.Sql.Truth
