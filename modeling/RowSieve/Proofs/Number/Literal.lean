/-
Numbers written and read again. What is written of an integer or of a finite binary number is a
numeral: digits, a point before some of them and an exponent behind, each of which may be missing.
A numeral is read as the number nearest to its decimal, so that a number is read back from its
text; and only the text of an integer is read as an integer.
-/
import RowSieve.Json.Value
import RowSieve.Number.Integer
import RowSieve.Proofs.Number.Padded
import RowSieve.Proofs.Number.Shortest
import RowSieve.Proofs.Text.Cutting

namespace RowSieve

namespace Number

/-! ## Numerals -/

/-- Digits, of which the last `places` stand behind a point, and an exponent. -/
structure Numeral where
  digits : List Char
  places : Nat
  exponent? : Option Int
  isDigit_of_mem : ∀ c ∈ digits, isDigit c = true
  places_lt : places < digits.length

namespace Numeral

/-- The exponent as it stands behind the digits. -/
def tail (n : Numeral) : List Char :=
  match n.exponent? with
  | none => []
  | some e => 'e' :: (if 0 ≤ e then '+' else '-') :: toDigits e.natAbs

def text (n : Numeral) : List Char := withPoint n.digits n.places ++ n.tail

/-- The decimal that is written. -/
def decimal (n : Numeral) : Decimal :=
  ⟨ofDigits 0 n.digits, n.exponent?.getD 0 - n.places⟩

/-- The digits of a whole number. -/
def whole (n : Nat) : Numeral :=
  ⟨toDigits n, 0, none, fun _ => isDigit_of_mem_toDigits, digitCount_pos n⟩

theorem text_whole (n : Nat) : (whole n).text = toDigits n := by
  simp [whole, text, tail, withPoint]

variable (n : Numeral)

/-- The digits before the point and those behind it. -/
theorem exists_parts : ∃ front part, n.digits = front ++ part ∧ front ≠ [] ∧
    part.length = n.places ∧
    withPoint n.digits n.places = front ++ if part.isEmpty then [] else '.' :: part := by
  have hlt := n.places_lt
  refine ⟨n.digits.take (n.digits.length - n.places), n.digits.drop (n.digits.length - n.places),
    (List.take_append_drop _ _).symm, ?_, ?_, ?_⟩
  · rw [Ne, List.take_eq_nil_iff]
    rintro (h | h)
    · omega
    · rw [h] at hlt
      exact absurd hlt (Nat.not_lt_zero _)
  · rw [List.length_drop]
    omega
  · simp only [withPoint]
    split <;> simp

/-- A numeral begins with digits, and behind these the point stands, the exponent or nothing. -/
theorem exists_front : ∃ front rest, n.text = front ++ rest ∧ front ≠ [] ∧
    (∀ c ∈ front, isDigit c = true) ∧ ∀ c ∈ rest.head?, c = '.' ∨ c = 'e' := by
  obtain ⟨front, part, hdigits, hfront, -, hpoint⟩ := n.exists_parts
  refine ⟨front, (if part.isEmpty then [] else '.' :: part) ++ n.tail, ?_, hfront, ?_, ?_⟩
  · rw [text, hpoint, List.append_assoc]
  · intro c hc
    exact n.isDigit_of_mem c (hdigits ▸ List.mem_append_left part hc)
  · intro c hc
    split at hc
    · unfold tail at hc
      split at hc
      · cases hc
      · right
        simpa using hc.symm
    · left
      simpa using hc.symm

end Numeral

/-! ## Characters of numerals -/

theorem toNat_of_isDigit {c : Char} (h : isDigit c = true) : 48 ≤ c.toNat ∧ c.toNat ≤ 57 := by
  unfold isDigit digit? at h
  split at h
  · rename_i hc
    exact hc
  · cases h

theorem ne_of_isDigit {c d : Char} (h : isDigit c = true) (hd : isDigit d = false) : c ≠ d := by
  rintro rfl
  rw [h] at hd
  cases hd

/-- The characters that numerals and their signs are written with. -/
def isNumeric (c : Char) : Bool := isDigit c || c == '.' || c == 'e' || c == '+' || c == '-'

theorem isBlank_of_isNumeric {c : Char} (h : isNumeric c = true) : Text.isBlank c = false := by
  simp only [isNumeric, Bool.or_eq_true, beq_iff_eq] at h
  rcases h with (((h | rfl) | rfl) | rfl) | rfl
  · obtain ⟨hlow, hhigh⟩ := toNat_of_isDigit h
    simp only [Text.isBlank, Bool.or_eq_false_iff, Bool.and_eq_false_iff, decide_eq_false_iff_not,
      beq_eq_false_iff_ne]
    omega
  all_goals decide

theorem isNumeric_of_isDigit {c : Char} (h : isDigit c = true) : isNumeric c = true := by
  simp [isNumeric, h]

theorem isNumeric_of_mem_text (n : Numeral) {c : Char} (h : c ∈ n.text) : isNumeric c = true := by
  obtain ⟨front, part, hdigits, -, -, hpoint⟩ := n.exists_parts
  have hdigit {d : Char} (hd : d ∈ front ++ part) : isNumeric d = true :=
    isNumeric_of_isDigit (n.isDigit_of_mem d (hdigits ▸ hd))
  rw [Numeral.text, hpoint] at h
  rcases List.mem_append.1 h with h | h
  · rcases List.mem_append.1 h with h | h
    · exact hdigit (List.mem_append_left part h)
    · split at h
      · cases h
      · rcases List.mem_cons.1 h with rfl | h
        · rfl
        · exact hdigit (List.mem_append_right front h)
  · unfold Numeral.tail at h
    split at h
    · cases h
    · rcases List.mem_cons.1 h with rfl | h
      · rfl
      · rcases List.mem_cons.1 h with rfl | h
        · split <;> rfl
        · exact isNumeric_of_isDigit (isDigit_of_mem_toDigits h)

/-! ## Numerals read -/

theorem isDigit_of_mem_tail_head? (n : Numeral) :
    ∀ c ∈ n.tail.head?, isDigit c = false ∧ c ≠ '.' := by
  intro c hc
  unfold Numeral.tail at hc
  split at hc
  · cases hc
  · obtain rfl : 'e' = c := by simpa using hc
    decide

theorem exponent?_tail (n : Numeral) : exponent? n.tail = some (n.exponent?.getD 0) := by
  unfold Numeral.tail
  cases n.exponent? with
  | none => rfl
  | some e =>
    have hall : (toDigits e.natAbs).all isDigit = true :=
      List.all_eq_true.2 fun c hc => isDigit_of_mem_toDigits hc
    have hne : (toDigits e.natAbs).isEmpty = false := by simpa using toDigits_ne_nil e.natAbs
    by_cases he : 0 ≤ e
    · have habs : (1 : Int) * e.natAbs = e := by omega
      simp only [he, if_true, exponent?, hall, hne, ofDigits_toDigits, habs]
      rfl
    · have habs : (-1 : Int) * e.natAbs = e := by omega
      simp only [he, if_false, exponent?, hall, hne, ofDigits_toDigits, habs]
      rfl

/-- A numeral is read as the number nearest to its decimal. -/
theorem unsigned?_text (neg : Bool) (n : Numeral) :
    unsigned? neg n.text = some (ofDecimal neg n.decimal.digits n.decimal.exponent) := by
  obtain ⟨front, part, hdigits, hfront, hlength, hpoint⟩ := n.exists_parts
  have hds : ∀ c ∈ front, isDigit c = true := fun c hc =>
    n.isDigit_of_mem c (hdigits ▸ List.mem_append_left part hc)
  have hpart : ∀ c ∈ part, isDigit c = true := fun c hc =>
    n.isDigit_of_mem c (hdigits ▸ List.mem_append_right front hc)
  have htail := isDigit_of_mem_tail_head? n
  have hempty : front.isEmpty = false := by simpa using hfront
  have hdecimal : ofDecimal neg n.decimal.digits n.decimal.exponent =
      ofDecimal neg (ofDigits 0 (front ++ part)) (n.exponent?.getD 0 - part.length) := by
    rw [Numeral.decimal, hdigits, hlength]
  rw [hdecimal, Numeral.text, hpoint, List.append_assoc, unsigned?]
  -- Without digits behind it there is no point, and the exponent stands behind the first digits.
  cases part with
  | nil =>
    have hfrontTaken : takeDigits (front ++ n.tail).length (front ++ n.tail) = (front, n.tail) :=
      takeDigits_append_of_le (fun c hc => (htail c hc).1) hds (by simp)
    simp only [List.isEmpty_nil, if_true, List.nil_append, hfrontTaken]
    split
    · rename_i heq
      exact absurd rfl (htail '.' (by rw [heq]; rfl)).2
    · simp [hempty, exponent?_tail]
  | cons d part =>
    have hfrontTaken : takeDigits (front ++ '.' :: (d :: part ++ n.tail)).length
        (front ++ '.' :: (d :: part ++ n.tail)) = (front, '.' :: (d :: part ++ n.tail)) :=
      takeDigits_append_of_le (by rintro c ⟨⟩; decide) hds (by simp)
    have hpartTaken : takeDigits (d :: part ++ n.tail).length (d :: part ++ n.tail) =
        (d :: part, n.tail) :=
      takeDigits_append_of_le (fun c hc => (htail c hc).1) hpart (by simp)
    simp only [List.isEmpty_cons, Bool.false_eq_true, if_false, List.cons_append] at *
    simp only [hfrontTaken, hpartTaken, hempty, exponent?_tail, Bool.false_eq_true, false_and,
      if_false]
    rfl

/-! ## Signs -/

/-- A text behind a minus sign, if it is a negative number's. -/
def signed (neg : Bool) (s : List Char) : List Char := if neg then '-' :: s else s

theorem intText_eq (n : Int) : intText n = signed (n < 0) (Numeral.whole n.natAbs).text := by
  rw [Numeral.text_whole, intText, signed]
  simp

theorem Numeral.exists_head (n : Numeral) :
    ∃ c cs, n.text = c :: cs ∧ isDigit c = true := by
  obtain ⟨front, rest, htext, hne, hfront, -⟩ := n.exists_front
  obtain ⟨c, cs, rfl⟩ := List.exists_cons_of_ne_nil hne
  exact ⟨c, cs ++ rest, htext, hfront c List.mem_cons_self⟩

/-- A signed numeral is read as the number of its sign nearest to its decimal. -/
theorem read?_signed (neg : Bool) (n : Numeral) :
    Binary64.read? (signed neg n.text) = some (.ofMagnitude neg n.decimal.magnitude) := by
  rw [← ofDecimal_eq, ← unsigned?_text]
  cases neg with
  | true => rfl
  | false =>
    obtain ⟨c, cs, htext, hc⟩ := n.exists_head
    rw [signed, htext, if_neg Bool.false_ne_true, Binary64.read?]
    · intro rest h
      exact ne_of_isDigit hc (by decide) (List.cons.inj h).1
    · intro rest h
      exact ne_of_isDigit hc (by decide) (List.cons.inj h).1

theorem isNumeric_of_mem_signed {neg : Bool} {n : Numeral} {c : Char}
    (h : c ∈ signed neg n.text) : isNumeric c = true := by
  unfold signed at h
  split at h
  · rcases List.mem_cons.1 h with rfl | h
    · rfl
    · exact isNumeric_of_mem_text n h
  · exact isNumeric_of_mem_text n h

/-! ## Integers read -/

theorem le_ofDigits (acc : Nat) (s : List Char) : acc ≤ ofDigits acc s := by
  induction s generalizing acc with
  | nil => exact Nat.le_refl acc
  | cons c s ih => exact Nat.le_trans (by omega) (ih (acc * 10 + (digit? c).getD 0))

/-- A run of digits is read as its number if that does not pass the limit. -/
theorem magnitude?_digits {limit : Nat} {beyond : IntegerError} :
    ∀ {s : List Char} {acc : Nat}, (∀ c ∈ s, isDigit c = true) → acc ≤ limit →
      magnitude? limit beyond acc s =
        if limit < ofDigits acc s then .error beyond else .ok (ofDigits acc s)
  | [], acc, _, hacc => by
    rw [magnitude?, ofDigits, if_neg (Nat.not_lt.2 hacc)]
  | c :: s, acc, hs, hacc => by
    obtain ⟨hc, hs⟩ := List.forall_mem_cons.1 hs
    obtain ⟨d, hd⟩ := Option.isSome_iff_exists.1 hc
    rw [magnitude?, ofDigits, hd]
    simp only [Option.getD_some]
    by_cases hnext : limit < acc * 10 + d
    · rw [if_pos hnext, if_pos (Nat.lt_of_lt_of_le hnext (le_ofDigits _ s))]
    · rw [if_neg hnext, magnitude?_digits hs (Nat.not_lt.1 hnext)]

theorem magnitude?_error {limit : Nat} {beyond : IntegerError} {c : Char}
    (hc : isDigit c = false) : ∀ {s : List Char} {acc : Nat}, c ∈ s →
      ∃ e, magnitude? limit beyond acc s = .error e
  | d :: s, acc, h => by
    rw [magnitude?]
    split
    · exact ⟨_, rfl⟩
    · rename_i heq
      have hs : c ∈ s := (List.mem_cons.1 h).resolve_left fun hcd => by
        rw [← hcd] at heq
        rw [isDigit, heq] at hc
        cases hc
      simp only
      split
      · exact ⟨_, rfl⟩
      · exact magnitude?_error hc hs

theorem readInteger_signed {b : Bounds} (hb : b.signed = true) (neg : Bool) (n : Numeral) :
    readInteger b (signed neg n.text) =
      if neg then (magnitude? b.lo.natAbs .tooSmall 0 n.text).map fun k => -(k : Int)
      else (magnitude? b.hi.natAbs .tooLarge 0 n.text).map fun k => (k : Int) := by
  obtain ⟨c, cs, htext, hc⟩ := n.exists_head
  have hminus : c ≠ '-' := ne_of_isDigit hc (by decide)
  have hplus : c ≠ '+' := ne_of_isDigit hc (by decide)
  rw [htext]
  cases neg with
  | true => simp [signed, readInteger, hb]
  | false => simp [signed, readInteger, hminus, hplus]

/-- What is no whole number is not read as an integer. -/
theorem readInteger_error {b : Bounds} (hb : b.signed = true) (neg : Bool) {n : Numeral}
    (h : ∃ c ∈ n.text, isDigit c = false) :
    ∃ e, readInteger b (signed neg n.text) = .error e := by
  obtain ⟨c, hmem, hc⟩ := h
  have herror (limit : Nat) (beyond : IntegerError) :
      ∃ e, magnitude? limit beyond 0 n.text = .error e := magnitude?_error hc hmem
  rw [readInteger_signed hb]
  cases neg with
  | true =>
    obtain ⟨e, he⟩ := herror b.lo.natAbs .tooSmall
    exact ⟨e, by rw [if_pos rfl, he]; rfl⟩
  | false =>
    obtain ⟨e, he⟩ := herror b.hi.natAbs .tooLarge
    exact ⟨e, by rw [if_neg Bool.false_ne_true, he]; rfl⟩

theorem magnitude?_whole {limit : Nat} {beyond : IntegerError} (n : Nat) :
    magnitude? limit beyond 0 (Numeral.whole n).text =
      if limit < n then .error beyond else .ok n := by
  rw [Numeral.text_whole, magnitude?_digits (fun _ => isDigit_of_mem_toDigits) (Nat.zero_le limit),
    ofDigits_toDigits]

/-- An integer that fits 64 bits with a sign is read as itself. -/
theorem readInteger_intText {n : Int} (hlow : -0x8000000000000000 ≤ n)
    (hhigh : n < 0x8000000000000000) : readInteger .signed64 (intText n) = .ok n := by
  have hlo : Bounds.signed64.lo.natAbs = 0x8000000000000000 := rfl
  have hhi : Bounds.signed64.hi.natAbs = 0x7fffffffffffffff := rfl
  rw [intText_eq, readInteger_signed rfl, magnitude?_whole, magnitude?_whole, hlo, hhi]
  by_cases hn : n < 0
  · have habs : -(n.natAbs : Int) = n := by omega
    rw [if_pos (decide_eq_true hn), if_neg (by omega)]
    exact congrArg Except.ok habs
  · have habs : (n.natAbs : Int) = n := by omega
    rw [if_neg (by simpa using hn), if_neg (by omega)]
    exact congrArg Except.ok habs

/-- A greater one is not read as an integer. -/
theorem readInteger_intText_error {n : Int} (h : 0x8000000000000000 ≤ n) :
    ∃ e, readInteger .signed64 (intText n) = .error e := by
  have hhi : Bounds.signed64.hi.natAbs = 0x7fffffffffffffff := rfl
  have hneg : decide (n < 0) = false := decide_eq_false (by omega)
  rw [intText_eq, readInteger_signed rfl, hneg, if_neg Bool.false_ne_true, magnitude?_whole, hhi,
    if_pos (by omega)]
  exact ⟨_, rfl⟩

/-! ## Literals of binary numbers -/

namespace Numeral

theorem exists_notDigit (n : Numeral) (h : n.places ≠ 0 ∨ n.exponent? ≠ none) :
    ∃ c ∈ n.text, isDigit c = false := by
  obtain ⟨front, part, hdigits, -, hlength, hpoint⟩ := n.exists_parts
  rcases h with h | h
  · have hpart : part.isEmpty = false := by
      cases part with
      | nil => exact absurd hlength.symm h
      | cons c cs => rfl
    refine ⟨'.', ?_, by decide⟩
    rw [text, hpoint, hpart]
    simp
  · obtain ⟨e, he⟩ := Option.ne_none_iff_exists'.1 h
    refine ⟨'e', ?_, by decide⟩
    rw [text, tail, he]
    simp

theorem le_length_padded (w n : Nat) : w ≤ (padded w n).length := by
  rw [padded, List.length_append, List.length_replicate]
  omega

/-- The digits of a decimal with as many places as its exponent moves the point to the left. -/
def ofPositional (d : Decimal) : Numeral where
  digits := padded ((-d.exponent).toNat + 1) d.digits
  places := (-d.exponent).toNat
  exponent? := none
  isDigit_of_mem _ h := isDigit_of_mem_padded h
  places_lt := le_length_padded _ _

theorem isDigit_of_mem_tenfold {n : Nat} {c : Char} (h : c ∈ toDigits n ++ ['0']) :
    isDigit c = true := by
  rcases List.mem_append.1 h with h | h
  · exact isDigit_of_mem_toDigits h
  · rw [List.mem_singleton.1 h]
    decide

theorem one_lt_length_tenfold (n : Nat) : 1 < (toDigits n ++ ['0']).length := by
  rw [List.length_append, List.length_singleton]
  exact Nat.lt_add_of_pos_left (digitCount_pos n)

/-- The digits of a whole number and a zero behind the point. -/
def ofWhole (n : Nat) : Numeral where
  digits := toDigits n ++ ['0']
  places := 1
  exponent? := none
  isDigit_of_mem _ h := isDigit_of_mem_tenfold h
  places_lt := one_lt_length_tenfold n

/-- The digits of a decimal, all but the first one behind the point. -/
def ofScientific (d : Decimal) : Numeral where
  digits := toDigits d.digits
  places := digitCount d.digits - 1
  exponent? := some (d.exponent + (digitCount d.digits - 1 : Nat))
  isDigit_of_mem _ h := isDigit_of_mem_toDigits h
  places_lt := Nat.sub_one_lt (Nat.pos_iff_ne_zero.1 (digitCount_pos _))

variable (d : Decimal)

theorem text_ofPositional (h : ¬ 0 ≤ d.exponent) : (ofPositional d).text = d.positional := by
  rw [Decimal.positional, if_neg h, text, tail]
  exact List.append_nil _

theorem decimal_ofPositional (h : ¬ 0 ≤ d.exponent) : (ofPositional d).decimal = d := by
  obtain ⟨digits, e⟩ := d
  have he : ¬ 0 ≤ e := h
  simp only [ofPositional, decimal, ofDigits_padded, Option.getD_none]
  congr 1
  omega

theorem text_ofWhole (n : Nat) : (ofWhole n).text = toDigits n ++ ".0".toList := by
  have hlength : (toDigits n ++ ['0']).length - 1 = (toDigits n).length := by simp
  rw [text, tail]
  simp only [ofWhole, withPoint, hlength, List.take_left, List.drop_left]
  simp

/-- The whole number of a decimal whose exponent is not negative has the decimal's magnitude. -/
theorem magnitude_ofWhole (h : 0 ≤ d.exponent) :
    (ofWhole (d.digits * 10 ^ d.exponent.toNat)).decimal.magnitude = d.magnitude := by
  have hdigits : (ofWhole (d.digits * 10 ^ d.exponent.toNat)).decimal.digits * 10 ^ 0 =
      d.digits * 10 ^ (d.exponent.toNat + 1) := by
    rw [decimal, ofWhole, ofDigits_append, ofDigits_toDigits, Nat.pow_succ, ← Nat.mul_assoc,
      Nat.pow_zero, Nat.mul_one]
    rfl
  rw [← Decimal.magnitude_eq (i := 0) (j := 1) rfl, hdigits]
  exact Decimal.magnitude_eq (by push_cast; omega)

theorem text_ofScientific : (ofScientific d).text = d.scientific := rfl

theorem decimal_ofScientific : (ofScientific d).decimal = d := by
  obtain ⟨digits, e⟩ := d
  simp only [ofScientific, decimal, ofDigits_toDigits, Option.getD_some]
  congr 1
  omega

end Numeral

/-- The literal of a finite number is a numeral that reads back as the number, and not the digits
of a whole number alone. -/
theorem exists_literal {x : Binary64} (hx : x.isFinite = true) : ∃ n : Numeral,
    x.literal.toList = signed x.negative n.text ∧ n.decimal.magnitude = x.magnitude ∧
      ∃ c ∈ n.text, isDigit c = false := by
  obtain ⟨d, hd⟩ : ∃ d, d = shortest x.magnitude := ⟨_, rfl⟩
  obtain ⟨top, htop⟩ : ∃ top : Int, top = d.exponent + (digitCount d.digits - 1 : Nat) := ⟨_, rfl⟩
  have hback : d.magnitude = x.magnitude := hd ▸ magnitude_shortest (of_decide_eq_true hx)
  have hbody : ∃ n : Numeral, n.text = (if x.isZero then "0.0".toList
      else if -5 ≤ top ∧ top < 16 then
        d.positional ++ (if 0 ≤ d.exponent then ".0".toList else [])
      else d.scientific) ∧ n.decimal.magnitude = x.magnitude ∧ ∃ c ∈ n.text, isDigit c = false := by
    by_cases hzero : x.isZero = true
    · rw [if_pos hzero]
      have hmagnitude : (Numeral.ofWhole (0 * 10 ^ 0)).decimal.magnitude = 0 :=
        (Numeral.magnitude_ofWhole ⟨0, 0⟩ (Int.le_refl 0)).trans (Decimal.magnitude_of_zero 0)
      rw [Nat.zero_mul] at hmagnitude
      refine ⟨.ofWhole 0, ?_, hmagnitude.trans (of_decide_eq_true hzero).symm,
        Numeral.exists_notDigit _ (.inl Nat.one_ne_zero)⟩
      rw [Numeral.text_ofWhole, toDigits, if_pos (by decide)]
      rfl
    · rw [if_neg hzero]
      split
      · by_cases he : 0 ≤ d.exponent
        · refine ⟨.ofWhole (d.digits * 10 ^ d.exponent.toNat), ?_,
            (Numeral.magnitude_ofWhole d he).trans hback,
            Numeral.exists_notDigit _ (.inl Nat.one_ne_zero)⟩
          rw [Numeral.text_ofWhole, if_pos he, Decimal.positional, if_pos he]
          rfl
        · refine ⟨.ofPositional d, ?_, by rw [Numeral.decimal_ofPositional d he, hback],
            Numeral.exists_notDigit _ (.inl ?_)⟩
          · rw [Numeral.text_ofPositional d he, if_neg he, List.append_nil]
          · show (-d.exponent).toNat ≠ 0
            omega
      · exact ⟨.ofScientific d, Numeral.text_ofScientific d,
          by rw [Numeral.decimal_ofScientific d, hback],
          Numeral.exists_notDigit _ (.inr (Option.some_ne_none _))⟩
  obtain ⟨n, htext, hmagnitude, hpoint⟩ := hbody
  refine ⟨n, ?_, hmagnitude, hpoint⟩
  rw [Binary64.literal, signed, htext]
  simp only [← hd, ← htop]
  exact String.toList_ofList

/-! ## Numbers read back -/

theorem Numeral.magnitude_whole (n : Nat) :
    (whole n).decimal.magnitude = Binary64.magnitudeOfRatio n 1 := by
  have hdigits : (whole n).decimal.digits * 10 ^ 0 = n := by
    rw [Nat.pow_zero, Nat.mul_one]
    exact ofDigits_toDigits n
  rw [← Decimal.magnitude_eq (i := 0) (j := 0) rfl, hdigits, Nat.pow_zero]

/-- The text of an integer is read as the binary number nearest to it. -/
theorem read?_intText (n : Int) : Binary64.read? (intText n) = some (.ofInt n) := by
  rw [intText_eq, read?_signed, Numeral.magnitude_whole]
  rfl

/-- The literal of a finite binary number is read as the number. -/
theorem read?_literal {x : Binary64} (hx : x.isFinite = true) :
    Binary64.read? x.literal.toList = some x := by
  obtain ⟨n, htext, hmagnitude, -⟩ := exists_literal hx
  rw [htext, read?_signed, hmagnitude, Binary64.ofMagnitude_self]

/-- No integer is read from the literal of a binary number. -/
theorem readInteger_literal {x : Binary64} (hx : x.isFinite = true) :
    ∃ e, readInteger .signed64 x.literal.toList = .error e := by
  obtain ⟨n, htext, -, hpoint⟩ := exists_literal hx
  rw [htext]
  exact readInteger_error rfl x.negative hpoint

end Number

namespace JsonNumber

open RowSieve.Number

/-- A number is written as a numeral, behind a minus sign or not. -/
theorem exists_numeral (n : JsonNumber) :
    ∃ (neg : Bool) (k : Numeral), n.text.toList = signed neg k.text := by
  cases n with
  | integer n _ => exact ⟨_, _, String.toList_ofList.trans (intText_eq n)⟩
  | real x hx =>
    obtain ⟨k, htext, -⟩ := exists_literal hx
    exact ⟨_, k, htext⟩

/-- Nothing is trimmed from the text of a number. -/
theorem trim_text (n : JsonNumber) : Text.trim n.text.toList = n.text.toList := by
  obtain ⟨neg, k, htext⟩ := n.exists_numeral
  have hblank : ∀ c ∈ n.text.toList, Text.isBlank c = false := fun c hc =>
    isBlank_of_isNumeric (isNumeric_of_mem_signed (htext ▸ hc))
  exact Text.trim_of_noBlanks hblank

end JsonNumber

end RowSieve
