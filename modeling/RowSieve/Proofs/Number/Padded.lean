/-
Numbers written with zeros in front stand in their own order. Written to one width, the text of a
smaller number comes first, whatever stands behind it; and so it does when zeros behind are left
out, as they are in fractions.
-/
import Mathlib.Algebra.Order.Ring.Nat
import Mathlib.Data.Char
import Mathlib.Data.List.Lex
import RowSieve.Proofs.Number.Digits

namespace RowSieve.Number

/-! ## Texts of one length -/

section Texts

variable {s t x y : List Char}

/-- What comes first in its front part comes first. -/
theorem append_lt_append (hl : s.length = t.length) (h : s < t) : s ++ x < t ++ y := by
  induction s generalizing t with
  | nil =>
    rw [List.eq_nil_of_length_eq_zero hl.symm] at h
    exact absurd h (lt_irrefl _)
  | cons a s ih =>
    obtain ⟨b, t, rfl⟩ := List.exists_cons_of_length_eq_add_one hl.symm
    rw [List.cons_append, List.cons_append, List.cons_lt_cons_iff]
    rcases List.cons_lt_cons_iff.1 h with hab | ⟨rfl, hst⟩
    · exact .inl hab
    · exact .inr ⟨rfl, ih (Nat.succ.inj hl) hst⟩

/-- Zeros behind can be left out. -/
theorem lt_of_append_zeros {i j : Nat} (hs : ∀ c ∈ s, '0' ≤ c) (hl : s.length + i = t.length + j)
    (h : s ++ List.replicate i '0' < t ++ List.replicate j '0') : s < t := by
  induction s generalizing t j with
  | nil =>
    cases t with
    | nil =>
      obtain rfl : i = j := by simpa using hl
      exact absurd h (lt_irrefl _)
    | cons b t => exact List.nil_lt_cons b t
  | cons a s ih =>
    obtain ⟨ha, hrest⟩ := List.forall_mem_cons.1 hs
    simp only [List.length_cons] at hl
    cases t with
    | nil =>
      simp only [List.length_nil] at hl
      obtain ⟨j, rfl⟩ : ∃ n, j = n + 1 := ⟨j - 1, by omega⟩
      rw [List.nil_append, List.replicate_succ, List.cons_append] at h
      rcases List.cons_lt_cons_iff.1 h with hlt | ⟨-, hlt⟩
      · exact absurd ha (not_le.2 hlt)
      · exact absurd (ih (t := []) hrest (by simp only [List.length_nil]; omega) hlt)
          (List.not_lt_nil s)
    | cons b t =>
      simp only [List.length_cons] at hl
      rcases List.cons_lt_cons_iff.1 h with hlt | ⟨rfl, hlt⟩
      · exact List.cons_lt_cons_iff.2 (.inl hlt)
      · exact List.cons_lt_cons_iff.2 (.inr ⟨rfl, ih hrest (by omega) hlt⟩)

end Texts

/-! ## Padded numbers -/

theorem digitChar_lt {m n : Nat} (h : m % 10 < n % 10) : digitChar m < digitChar n := by
  have key : ∀ i < 10, ∀ j < 10, i < j → digitChar i < digitChar j := by decide
  have hm := key _ (Nat.mod_lt m (by decide)) _ (Nat.mod_lt n (by decide)) h
  simpa [digitChar] using hm

/-- A number in one place more: the last digit stands behind the others. -/
theorem padded_succ {w : Nat} (hw : 1 ≤ w) (n : Nat) :
    padded (w + 1) n = padded w (n / 10) ++ [digitChar n] := by
  obtain ⟨w, rfl⟩ := Nat.exists_eq_add_of_le' hw
  unfold padded
  by_cases hn : n < 10
  · have hzero : toDigits (n / 10) = ['0'] := by
      rw [Nat.div_eq_of_lt hn, toDigits, if_pos (by decide)]; rfl
    rw [hzero, toDigits, if_pos hn]
    simp [List.replicate_succ']
  · rw [toDigits.eq_def n, if_neg hn]
    simp [List.length_append]

theorem padded_one {n : Nat} (h : n < 10) : padded 1 n = [digitChar n] := by
  unfold padded
  rw [toDigits, if_pos h]
  rfl

section Padded

variable {w m n : Nat}

theorem length_padded (hw : 1 ≤ w) (h : n < 10 ^ w) : (padded w n).length = w := by
  induction w, hw using Nat.le_induction generalizing n with
  | base => rw [padded_one (by simpa using h)]; rfl
  | succ w hw ih =>
    rw [padded_succ hw, List.length_append, ih (by rw [Nat.pow_succ] at h; omega)]
    rfl

theorem isDigit_of_mem_padded {c : Char} (h : c ∈ padded w n) : isDigit c = true := by
  unfold padded at h
  rcases List.mem_append.1 h with h | h
  · rw [List.eq_of_mem_replicate h]
    decide
  · exact isDigit_of_mem_toDigits h

/-- A padded number begins with a digit. -/
theorem exists_padded_eq_cons (w n : Nat) :
    ∃ c cs, padded w n = c :: cs ∧ isDigit c = true := by
  have hne : padded w n ≠ [] := List.append_ne_nil_of_right_ne_nil _ (toDigits_ne_nil n)
  obtain ⟨c, cs, h⟩ := List.exists_cons_of_ne_nil hne
  exact ⟨c, cs, h, isDigit_of_mem_padded (h ▸ List.mem_cons_self)⟩

theorem zero_le_of_isDigit {c : Char} (h : isDigit c = true) : '0' ≤ c := by
  unfold isDigit digit? at h
  split at h
  · rename_i hc
    exact hc.1
  · cases h

/-- Of numbers written to one width the smaller one comes first. -/
theorem padded_lt (hw : 1 ≤ w) (hn : n < 10 ^ w) (h : m < n) : padded w m < padded w n := by
  induction w, hw using Nat.le_induction generalizing m n with
  | base =>
    have hn : n < 10 := by simpa using hn
    rw [padded_one hn, padded_one (by omega)]
    exact List.cons_lt_cons_iff.2 (.inl (digitChar_lt (by omega)))
  | succ w hw ih =>
    rw [Nat.pow_succ] at hn
    rw [padded_succ hw, padded_succ hw]
    by_cases hq : m / 10 = n / 10
    · rw [hq]
      exact List.append_left_lt (List.cons_lt_cons_iff.2 (.inl (digitChar_lt (by omega))))
    · refine append_lt_append ?_ (ih (by omega) (by omega))
      rw [length_padded hw (by omega), length_padded hw (by omega)]

/-- A field of one width in front of more text: it decides, or what stands behind it does. -/
theorem padded_append_lt {x y : List Char} (hw : 1 ≤ w) (hn : n < 10 ^ w)
    (h : m < n ∨ m = n ∧ x < y) : padded w m ++ x < padded w n ++ y := by
  rcases h with hlt | ⟨rfl, hxy⟩
  · refine append_lt_append ?_ (padded_lt hw hn hlt)
    rw [length_padded hw (hlt.trans hn), length_padded hw hn]
  · exact List.append_left_lt hxy

/-- A number that ends in zeros is a number of fewer places and the zeros. -/
theorem padded_mul_pow (hw : 1 ≤ w) (k : Nat) :
    padded (w + k) (n * 10 ^ k) = padded w n ++ List.replicate k '0' := by
  induction k with
  | zero => simp
  | succ k ih =>
    have hdiv : n * 10 ^ (k + 1) / 10 = n * 10 ^ k := by
      rw [Nat.pow_succ, ← Nat.mul_assoc, Nat.mul_div_cancel _ (by decide)]
    have hdigit : digitChar (n * 10 ^ (k + 1)) = '0' := by
      rw [digitChar, Nat.pow_succ, ← Nat.mul_assoc, Nat.mul_mod_left]; rfl
    rw [← Nat.add_assoc, padded_succ (by omega), hdiv, hdigit, ih, List.append_assoc,
      ← List.replicate_succ']

end Padded

/-! ## Padded numbers read back -/

theorem takeDigits_append : ∀ {ds : List Char} (rest : List Char),
    (∀ c ∈ ds, isDigit c = true) → takeDigits ds.length (ds ++ rest) = (ds, rest)
  | [], rest, _ => by cases rest <;> rfl
  | d :: ds, rest, h => by
    obtain ⟨hd, hds⟩ := List.forall_mem_cons.1 h
    rw [List.length_cons, List.cons_append, takeDigits, if_pos hd, takeDigits_append rest hds]

/-- Digits are taken up to the first character that is none, if so many may be taken. -/
theorem takeDigits_append_of_le {rest : List Char} (hrest : ∀ c ∈ rest.head?, isDigit c = false) :
    ∀ {ds : List Char} {n : Nat}, (∀ d ∈ ds, isDigit d = true) → ds.length ≤ n →
      takeDigits n (ds ++ rest) = (ds, rest)
  | [], 0, _, _ => by cases rest <;> rfl
  | [], n + 1, _, _ => by
    cases rest with
    | nil => rfl
    | cons c rest => rw [List.nil_append, takeDigits, hrest c rfl]; rfl
  | d :: ds, n + 1, h, hn => by
    obtain ⟨hd, hds⟩ := List.forall_mem_cons.1 h
    rw [List.cons_append, takeDigits, if_pos hd,
      takeDigits_append_of_le hrest hds (Nat.le_of_succ_le_succ hn)]

theorem ofDigits_zeros (acc k : Nat) : ofDigits acc (List.replicate k '0') = acc * 10 ^ k := by
  induction k generalizing acc with
  | zero => rw [Nat.pow_zero, Nat.mul_one]; rfl
  | succ k ih =>
    have hzero : (digit? '0').getD 0 = 0 := by decide
    rw [List.replicate_succ, ofDigits, hzero, ih, Nat.pow_succ']
    simp only [Nat.add_zero, Nat.mul_assoc]

theorem ofDigits_padded (w n : Nat) : ofDigits 0 (padded w n) = n := by
  rw [padded, ofDigits_append, ofDigits_zeros, Nat.zero_mul, ofDigits_toDigits]

/-- A number of a width is read back where as many digits are read, whatever the least number. -/
theorem number?_padded_of_le {least w n : Nat} (hl : least ≤ w) (hw : 1 ≤ w) (h : n < 10 ^ w)
    (rest : List Char) : number? least w (padded w n ++ rest) = some (n, rest) := by
  have htake : takeDigits w (padded w n ++ rest) = (padded w n, rest) := by
    have := takeDigits_append rest fun c (hc : c ∈ padded w n) => isDigit_of_mem_padded hc
    rwa [length_padded hw h] at this
  unfold number?
  simp only [htake, length_padded hw h, not_lt.2 hl, if_false, ofDigits_padded]

theorem number?_padded {w n : Nat} (hw : 1 ≤ w) (h : n < 10 ^ w) (rest : List Char) :
    number? w w (padded w n ++ rest) = some (n, rest) :=
  number?_padded_of_le (le_refl w) hw h rest

/-- A number is read up to the first character that is no digit, if so many digits may be read. -/
theorem number?_padded_append {w n most : Nat} {rest : List Char}
    (hrest : ∀ c ∈ rest.head?, isDigit c = false) (hm : (padded w n).length ≤ most) :
    number? 1 most (padded w n ++ rest) = some (n, rest) := by
  have htake : takeDigits most (padded w n ++ rest) = (padded w n, rest) :=
    takeDigits_append_of_le hrest (fun _ => isDigit_of_mem_padded) hm
  have hlen : ¬(padded w n).length < 1 := by
    obtain ⟨d, ds, hd, -⟩ := exists_padded_eq_cons w n
    simp [hd]
  unfold number?
  simp only [htake, hlen, if_false, ofDigits_padded]

end RowSieve.Number
