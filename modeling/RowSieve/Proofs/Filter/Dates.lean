/-
Days and instants in filters. What a date or a datetime is stored as is read back unchanged, so it
stands for itself; and a text that is a value to a datetime field is one to a date field too, which
takes the day of the same instant, so both accept the same requests.
-/
import RowSieve.Proofs.Calendar.Reading
import RowSieve.Proofs.Filter.Acceptance

namespace RowSieve

open RowSieve.Calendar

/-! ## Stored texts -/

/-- What can be read back is written in texts of its own. -/
theorem injective_of_read {α : Type} {read : String → Option α} {write : α → String}
    (h : ∀ a, read (write a) = some a) : Function.Injective write := by
  intro a b hab
  have hread := h a
  rw [hab, h b] at hread
  exact (Option.some.inj hread).symm

theorem Day.stored_injective : Function.Injective Day.stored := injective_of_read read?_stored

theorem Instant.stored_injective : Function.Injective Instant.stored :=
  injective_of_read read?_stored

/-- No day is stored as an instant is. -/
theorem Day.stored_ne (d : Day) (t : Instant) : d.stored ≠ t.stored := by
  intro h
  have htext : dayText d = t.text := String.ofList_injective h
  have hday := plainDay?_of_plainInstant? (plainInstant?_text t)
  rw [← htext, plainDay?_dayText] at hday
  cases hday

namespace Filter

open RowSieve.Sql (Datum)

/-- The field with another kind. -/
def Field.asKind (f : Field) (kind : Kind) : Field := { f with kind }

namespace Field

variable {f : Field}

/-- A day or an instant that a scalar stands for is what its stored text stands for. -/
theorem datum_of_datum (hk : f.kind = .date ∨ f.kind = .datetime) {s : Scalar} {v : Datum}
    (h : f.datum s = .ok v) : ∃ text, v = .text text ∧ f.datum (.text text) = .ok v := by
  simp only [datum_eq_ok] at h ⊢
  cases h with
  | date hkind _ => exact ⟨_, rfl, .date hkind (Day.read?_stored _)⟩
  | datetime hkind _ => exact ⟨_, rfl, .datetime hkind (Instant.read?_stored _)⟩
  | text _ hkind | number hkind _ | boolean hkind _ | choice hkind _ _ =>
    rw [hkind] at hk
    rcases hk with hk | hk <;> cases hk

/-- To a date field and a datetime field alike a text names an instant, of which the one takes the
day, or both refuse it. -/
theorem datum_asKind (f : Field) (s : Scalar) :
    (∃ t : Instant, (f.asKind .date).datum s = .ok (.text t.day.stored) ∧
      (f.asKind .datetime).datum s = .ok (.text t.stored)) ∨
    (f.asKind .date).datum s = .error (.invalidValue f.key s.asText .notDate) ∧
      (f.asKind .datetime).datum s = .error (.invalidValue f.key s.asText .notDatetime) := by
  cases s with
  | bool b => exact .inr ⟨rfl, rfl⟩
  | number n => exact .inr ⟨rfl, rfl⟩
  | text text =>
    have hday := Day.read?_eq text
    cases hread : Instant.read? text with
    | none =>
      rw [hread] at hday
      exact .inr (by simp [datum, asKind, Scalar.toDay?, Scalar.toInstant?, hday, hread])
    | some t =>
      rw [hread] at hday
      exact .inl ⟨t, by simp [datum, asKind, Scalar.toDay?, Scalar.toInstant?, hday, hread]⟩

theorem standsFor_asKind (f : Field) (s : Scalar) :
    (∃ v, (f.asKind .date).StandsFor s v) ↔ ∃ v, (f.asKind .datetime).StandsFor s v := by
  simp only [← datum_eq_ok]
  rcases datum_asKind f s with ⟨t, hdate, hdatetime⟩ | ⟨hdate, hdatetime⟩
  · exact ⟨fun _ => ⟨_, hdatetime⟩, fun _ => ⟨_, hdate⟩⟩
  · simp [hdate, hdatetime]

theorem operator_asKind (f : Field) {token : String} {op : Operator} :
    (f.asKind .date).operator token = .ok op ↔ (f.asKind .datetime).operator token = .ok op := by
  have hsupports : Kind.supports .date op = Kind.supports .datetime op := by cases op <;> rfl
  simp only [operator_eq_ok, asKind, hsupports]

/-- A date field and a datetime field with the same operators accept the same requests. -/
theorem accepts_asKind (f : Field) (r : Request) :
    (∃ p, (f.asKind .date).predicate r = .ok p) ↔
      ∃ p, (f.asKind .datetime).predicate r = .ok p := by
  have hoperand (op : Operator) : (∃ value, (f.asKind .date).operand op r.value? = .ok value) ↔
      ∃ value, (f.asKind .datetime).operand op r.value? = .ok value := by
    simp only [exists_operand_iff, standsFor_asKind]
  simp only [predicate_eq_ok]
  constructor
  · rintro ⟨p, op, value, hop, hvalue, -⟩
    obtain ⟨value, hvalue⟩ := (hoperand op).1 ⟨value, hvalue⟩
    exact ⟨_, op, value, (operator_asKind f).1 hop, hvalue, rfl⟩
  · rintro ⟨p, op, value, hop, hvalue, -⟩
    obtain ⟨value, hvalue⟩ := (hoperand op).2 ⟨value, hvalue⟩
    exact ⟨_, op, value, (operator_asKind f).2 hop, hvalue, rfl⟩

end Field

/-- Days and instants are read back from their stored texts, so no two of them share one, and the
text of a value of a date or a datetime field stands for that value. A stored instant is in the
first of the forms without an offset. -/
theorem stored_texts_read_back :
    (∀ d : Day, Day.read? d.stored = some d) ∧
    (∀ t : Instant, Instant.read? t.stored = some t ∧
      instantIn? (momentForm .blanks (timeForm ++ secondForm)) t.stored.toList = some t) ∧
    Function.Injective Day.stored ∧ Function.Injective Instant.stored ∧
    (∀ (d : Day) (t : Instant), d.stored ≠ t.stored) ∧
    ∀ (f : Field) (s : Scalar) (v : Datum), f.kind = .date ∨ f.kind = .datetime →
      f.datum s = .ok v → ∃ text, v = .text text ∧ f.datum (.text text) = .ok v := by
  refine ⟨Day.read?_stored, fun t => ⟨t.read?_stored, ?_⟩, Day.stored_injective,
    Instant.stored_injective, Day.stored_ne, fun f s v hk h => Field.datum_of_datum hk h⟩
  have htext : t.stored.toList = t.text := String.toList_ofList
  rw [htext, instantIn?_text]

/-- A text names a day exactly when it names an instant, and then the day of that instant: so a
date field and a datetime field accept the same scalars and the same requests, and agree about the
day. Without an offset, a day is tried in one form and an instant in four, one after another. -/
theorem days_follow_instants :
    (∀ s, plainDay? s = dayIn? dayForm s ∧
      plainInstant? s = instantForms.findSome? (instantIn? · s)) ∧
    (∀ text, Day.read? text = (Instant.read? text).map (·.day)) ∧
    ∀ f : Field,
      (∀ s, (∃ t : Instant, (f.asKind .date).datum s = .ok (.text t.day.stored) ∧
          (f.asKind .datetime).datum s = .ok (.text t.stored)) ∨
        (f.asKind .date).datum s = .error (.invalidValue f.key s.asText .notDate) ∧
          (f.asKind .datetime).datum s = .error (.invalidValue f.key s.asText .notDatetime)) ∧
      ∀ r, (∃ p, (f.asKind .date).predicate r = .ok p) ↔
        ∃ p, (f.asKind .datetime).predicate r = .ok p :=
  ⟨fun s => ⟨plainDay?_eq s, plainInstant?_eq s⟩, Day.read?_eq,
    fun f => ⟨f.datum_asKind, f.accepts_asKind⟩⟩

-- Two hours behind universal time, half an hour before midnight there, it is the next day.
example : (Day.read? " 2025-01-15T23:30:00-02:00").map (·.day) = some 16 := by decide

end Filter

end RowSieve
