/-
Decimal digits written and read again. What `toDigits` writes is made of digits only, and reading
it gives the number back, so that two numbers are written differently.
-/
import RowSieve.Number.Digits
import RowSieve.Text.Pieces

namespace RowSieve.Number

/-! ## Single digits -/

theorem digit?_digitChar (n : Nat) : digit? (digitChar n) = some (n % 10) := by
  have key : ∀ d < 10, digit? (Char.ofNat ('0'.toNat + d)) = some d := by decide
  exact key _ (Nat.mod_lt n (by decide))

theorem isDigit_digitChar (n : Nat) : isDigit (digitChar n) = true := by
  unfold isDigit; rw [digit?_digitChar]; rfl

/-- A digit has no other case. -/
theorem foldCase_of_isDigit {c : Char} (h : isDigit c = true) : Text.foldCase c = c := by
  have hle : c ≤ '9' := by
    simp only [isDigit, digit?] at h
    split at h
    · rename_i hc; exact hc.2
    · cases h
  unfold Text.foldCase Char.toLower
  rw [dif_neg]
  rintro ⟨hge, -⟩
  exact absurd (UInt32.le_trans hge hle) (by decide)

/-! ## Runs of digits -/

theorem toDigits_ne_nil (n : Nat) : toDigits n ≠ [] := by
  unfold toDigits; split <;> simp

/-- A written number is made of digits. -/
theorem isDigit_of_mem_toDigits {n : Nat} {c : Char} (h : c ∈ toDigits n) : isDigit c = true := by
  induction n using toDigits.induct with
  | case1 n hn =>
    rw [toDigits, if_pos hn, List.mem_singleton] at h
    rw [h, isDigit_digitChar]
  | case2 n hn ih =>
    rw [toDigits, if_neg hn, List.mem_append, List.mem_singleton] at h
    rcases h with h | h
    · exact ih h
    · rw [h, isDigit_digitChar]

theorem ofDigits_append (acc : Nat) (ds es : List Char) :
    ofDigits acc (ds ++ es) = ofDigits (ofDigits acc ds) es := by
  induction ds generalizing acc with
  | nil => rfl
  | cons d ds ih => rw [List.cons_append, ofDigits, ofDigits, ih]

/-- Reading a written number gives it back. -/
theorem ofDigits_toDigits (n : Nat) : ofDigits 0 (toDigits n) = n := by
  induction n using toDigits.induct with
  | case1 n hn =>
    rw [toDigits, if_pos hn, ofDigits, ofDigits, digit?_digitChar]
    simp only [Option.getD_some]
    omega
  | case2 n hn ih =>
    rw [toDigits, if_neg hn, ofDigits_append, ih, ofDigits, ofDigits, digit?_digitChar]
    simp only [Option.getD_some]
    omega

theorem toDigits_inj {m n : Nat} : toDigits m = toDigits n ↔ m = n := by
  constructor
  · intro h
    rw [← ofDigits_toDigits m, h, ofDigits_toDigits]
  · rintro rfl; rfl

end RowSieve.Number
