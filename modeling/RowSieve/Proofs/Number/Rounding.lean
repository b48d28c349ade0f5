/-
Rounding keeps the order of ratios, and a number of at most 53 bits over a power of two is not
rounded at all. So a number that is calculated from others lies between bounds that are calculated
from theirs, as long as the bounds have no more bits than that.
-/
import Mathlib.Algebra.Order.Ring.Nat
import Mathlib.Data.Nat.Log
import RowSieve.Number.Binary64

namespace RowSieve.Binary64

theorem unit_eq {e : Nat} (he : 1074 = e) : unit = 2 ^ e := by
  unfold unit
  generalize 1074 = k at *
  rw [he, Nat.pow_eq]

theorem unit_pos : 0 < unit := by
  obtain ⟨e, he⟩ : ∃ e, 1074 = e := ⟨_, rfl⟩
  rw [unit_eq he]
  exact Nat.two_pow_pos e

theorem exponentBit_eq : exponentBit = 2 ^ 52 := rfl

theorem infinityMagnitude_eq : infinityMagnitude = 2047 * 2 ^ 52 := rfl

/-! ## Quotients -/

section Quotients

variable {a b den k : Nat}

theorem le_roundQuotient (a den : Nat) :
    a / den ≤ roundQuotient a den ∧ roundQuotient a den ≤ a / den + 1 := by
  simp only [roundQuotient]
  split
  · omega
  · split <;> omega

theorem roundQuotient_mono (h : a ≤ b) : roundQuotient a den ≤ roundQuotient b den := by
  have hq : a / den ≤ b / den := Nat.div_le_div_right h
  by_cases he : a / den = b / den
  · have ha := Nat.div_add_mod a den
    have hb := Nat.div_add_mod b den
    rw [he] at ha
    have hr : a % den ≤ b % den := by omega
    simp only [roundQuotient, he]
    split
    · split
      · omega
      · split <;> omega
    · split
      · rw [if_neg (by omega), if_pos (by omega)]
      · rw [if_neg (by omega)]
        split <;> omega
  · have hlt : a / den < b / den := Nat.lt_of_le_of_ne hq he
    have := le_roundQuotient a den
    have := le_roundQuotient b den
    omega

theorem roundQuotient_mul_right (hk : 0 < k) :
    roundQuotient (a * k) (den * k) = roundQuotient a den := by
  have hlt : ∀ m n : Nat, 2 * (m * k) < n * k ↔ 2 * m < n := fun m n => by
    rw [← Nat.mul_assoc, Nat.mul_lt_mul_right hk]
  have hgt : ∀ m n : Nat, n * k < 2 * (m * k) ↔ n < 2 * m := fun m n => by
    rw [← Nat.mul_assoc, Nat.mul_lt_mul_right hk]
  simp only [roundQuotient, Nat.mul_div_mul_right _ _ hk, Nat.mul_mod_mul_right, hlt, hgt]

theorem roundQuotient_mul_self (a : Nat) (hden : 0 < den) : roundQuotient (a * den) den = a := by
  simp [roundQuotient, Nat.mul_div_cancel _ hden, hden]

end Quotients

/-! ## Magnitudes -/

section Magnitudes

variable {num num' den den' : Nat}

theorem magnitudeOfRatio_mul_right {k : Nat} (hk : 0 < k) :
    magnitudeOfRatio (num * k) (den * k) = magnitudeOfRatio num den := by
  have hunits : num * k * unit = num * unit * k := Nat.mul_right_comm num k unit
  have hden : ∀ p, den * k * p = den * p * k := fun p => Nat.mul_right_comm den k p
  simp only [magnitudeOfRatio, hunits, hden, Nat.mul_div_mul_right _ _ hk,
    roundQuotient_mul_right hk]

/-- A greater exponent leaves room for all significands of a smaller one. -/
theorem magnitudeOfRatio_le (h : num ≤ num') :
    magnitudeOfRatio num den ≤ magnitudeOfRatio num' den := by
  have hunits : num * unit ≤ num' * unit := Nat.mul_le_mul_right unit h
  have hq : num * unit / den ≤ num' * unit / den := Nat.div_le_div_right hunits
  have hlog : (num * unit / den).log2 ≤ (num' * unit / den).log2 := by
    simpa only [Nat.log2_eq_log_two] using Nat.log_mono_right hq
  simp only [magnitudeOfRatio]
  obtain ⟨e, he⟩ : ∃ e, e = (num * unit / den).log2 - 52 := ⟨_, rfl⟩
  obtain ⟨e', he'⟩ : ∃ e', e' = (num' * unit / den).log2 - 52 := ⟨_, rfl⟩
  rw [← he, ← he']
  refine min_le_min_right _ ?_
  -- A significand of 53 bits is rounded to at most `2 ^ 53`, which is the next exponent's least.
  rcases Nat.eq_or_lt_of_le (show e ≤ e' by omega) with heq | hlt
  · rw [heq]
    exact Nat.add_le_add_left (roundQuotient_mono hunits) _
  · have hup : roundQuotient (num * unit) (den * Nat.pow 2 e) ≤ 2 ^ 53 := by
      have hlt : num * unit / den < 2 ^ (53 + e) :=
        Nat.lt_of_lt_of_le Nat.lt_log2_self (Nat.pow_le_pow_right (by decide) (by omega))
      have := (le_roundQuotient (num * unit) (den * Nat.pow 2 e)).2
      rw [← Nat.div_div_eq_div_mul] at this
      have hdiv : num * unit / den / 2 ^ e < 2 ^ 53 := by
        rw [Nat.div_lt_iff_lt_mul (Nat.two_pow_pos e), ← Nat.pow_add]
        exact hlt
      exact Nat.le_trans this hdiv
    have hlow : 2 ^ 52 ≤ roundQuotient (num' * unit) (den * Nat.pow 2 e') := by
      have hne : num' * unit / den ≠ 0 := by
        intro h0
        rw [h0, Nat.log2_zero] at he'
        omega
      have hle : 2 ^ (52 + e') ≤ num' * unit / den := by
        have := Nat.log2_self_le hne
        rwa [show (num' * unit / den).log2 = 52 + e' by omega] at this
      have := (le_roundQuotient (num' * unit) (den * Nat.pow 2 e')).1
      rw [← Nat.div_div_eq_div_mul] at this
      refine Nat.le_trans ?_ this
      rw [Nat.pow_add] at hle
      exact (Nat.le_div_iff_mul_le (Nat.two_pow_pos e')).2 hle
    have hroom : (e + 1) * 2 ^ 52 ≤ e' * 2 ^ 52 := Nat.mul_le_mul_right _ hlt
    rw [exponentBit_eq]
    omega

/-- Rounding keeps the order of ratios. -/
theorem magnitudeOfRatio_mono (hden : 0 < den) (hden' : 0 < den')
    (h : num * den' ≤ num' * den) : magnitudeOfRatio num den ≤ magnitudeOfRatio num' den' := by
  calc magnitudeOfRatio num den = magnitudeOfRatio (num * den') (den * den') :=
        (magnitudeOfRatio_mul_right hden').symm
    _ ≤ magnitudeOfRatio (num' * den) (den * den') := magnitudeOfRatio_le h
    _ = magnitudeOfRatio num' den' := by rw [Nat.mul_comm den den', magnitudeOfRatio_mul_right hden]

/-! ## Exact values -/

theorem scaleOf_lt (m : Nat) : scaleOf m < exponentBit * 2 ^ (m / exponentBit) := by
  have hf : m % exponentBit < exponentBit := Nat.mod_lt _ (by decide)
  simp only [scaleOf]
  split
  case isTrue h => simpa [h] using hf
  case isFalse h =>
    obtain ⟨e, he⟩ := Nat.exists_eq_succ_of_ne_zero h
    rw [he, Nat.pow_succ, Nat.succ_sub_one, Nat.mul_comm (2 ^ e) 2, ← Nat.mul_assoc]
    exact Nat.mul_lt_mul_of_pos_right (by omega) (Nat.two_pow_pos e)

/-- Values grow with magnitudes. -/
theorem scaleOf_mono {m m' : Nat} (h : m ≤ m') : scaleOf m ≤ scaleOf m' := by
  have hq : m / exponentBit ≤ m' / exponentBit := Nat.div_le_div_right h
  rcases Nat.eq_or_lt_of_le hq with heq | hlt
  · have hm := Nat.div_add_mod m exponentBit
    have hm' := Nat.div_add_mod m' exponentBit
    rw [heq] at hm
    have hf : m % exponentBit ≤ m' % exponentBit := by omega
    simp only [scaleOf, heq]
    split
    · exact hf
    · exact Nat.mul_le_mul_right _ (Nat.add_le_add_left hf _)
  · have hne : m' / exponentBit ≠ 0 := Nat.ne_of_gt (Nat.zero_lt_of_lt hlt)
    calc scaleOf m ≤ exponentBit * 2 ^ (m / exponentBit) := Nat.le_of_lt (scaleOf_lt m)
      _ ≤ exponentBit * 2 ^ (m' / exponentBit - 1) :=
        Nat.mul_le_mul_left _ (Nat.pow_le_pow_right (by decide) (by omega))
      _ ≤ scaleOf m' := by
        simp only [scaleOf, if_neg hne]
        exact Nat.mul_le_mul_right _ (Nat.le_add_right _ _)

variable {n s : Nat}

/-- A number of at most 53 bits, moved up to have all of them. -/
theorem significand_bounds (h0 : 0 < n) (hn : n < 2 ^ 53) :
    n.log2 ≤ 52 ∧ 2 ^ 52 ≤ n * 2 ^ (52 - n.log2) ∧ n * 2 ^ (52 - n.log2) < 2 ^ 53 := by
  have hlog : n.log2 ≤ 52 := Nat.le_of_lt_succ ((Nat.log2_lt (by omega)).2 hn)
  have hpos : 0 < 2 ^ (52 - n.log2) := Nat.two_pow_pos _
  refine ⟨hlog, ?_, ?_⟩
  · calc 2 ^ 52 = 2 ^ n.log2 * 2 ^ (52 - n.log2) := by rw [← Nat.pow_add]; congr 1; omega
      _ ≤ n * 2 ^ (52 - n.log2) := Nat.mul_le_mul_right _ (Nat.log2_self_le (by omega))
  · calc n * 2 ^ (52 - n.log2) < 2 ^ (n.log2 + 1) * 2 ^ (52 - n.log2) :=
        Nat.mul_lt_mul_of_pos_right Nat.lt_log2_self hpos
      _ = 2 ^ 53 := by rw [← Nat.pow_add]; congr 1; omega

/-- Its place among magnitudes is below infinity. -/
theorem encoded_lt (h0 : 0 < n) (hn : n < 2 ^ 53) :
    (n.log2 + 1022 - s) * exponentBit + n * 2 ^ (52 - n.log2) < infinityMagnitude := by
  obtain ⟨hlog, -, hhigh⟩ := significand_bounds h0 hn
  have hle : (n.log2 + 1022 - s) * 2 ^ 52 ≤ 1074 * 2 ^ 52 := Nat.mul_le_mul_right _ (by omega)
  rw [exponentBit_eq, infinityMagnitude_eq]
  omega

theorem magnitudeOfRatio_exact (h0 : 0 < n) (hn : n < 2 ^ 53) (hs : s ≤ 1000) :
    magnitudeOfRatio n (2 ^ s) =
      (n.log2 + 1022 - s) * exponentBit + n * 2 ^ (52 - n.log2) := by
  obtain ⟨hlog, hlow, -⟩ := significand_bounds h0 hn
  have hquot : n * unit / 2 ^ s = n * 2 ^ (1074 - s) := by
    have hunit : unit = 2 ^ (1074 - s) * 2 ^ s := by
      rw [← Nat.pow_add]
      exact unit_eq (by omega)
    rw [hunit, ← Nat.mul_assoc, Nat.mul_div_cancel _ (Nat.two_pow_pos s)]
  have hlog2 : (n * 2 ^ (1074 - s)).log2 = n.log2 + (1074 - s) := by
    have hpos : 0 < 2 ^ (1074 - s) := Nat.two_pow_pos _
    rw [Nat.log2_eq_iff (Nat.mul_ne_zero (by omega) (by omega)), Nat.pow_add, Nat.add_right_comm,
      Nat.pow_add]
    exact ⟨Nat.mul_le_mul_right _ (Nat.log2_self_le (by omega)),
      Nat.mul_lt_mul_of_pos_right Nat.lt_log2_self hpos⟩
  have hexp : n.log2 + (1074 - s) - 52 = n.log2 + 1022 - s := by omega
  have hround : roundQuotient (n * unit) (2 ^ s * Nat.pow 2 (n.log2 + 1022 - s)) =
      n * 2 ^ (52 - n.log2) := by
    have hden : 2 ^ s * Nat.pow 2 (n.log2 + 1022 - s) = 2 ^ (n.log2 + 1022) := by
      show 2 ^ s * 2 ^ (n.log2 + 1022 - s) = _
      rw [← Nat.pow_add, Nat.add_sub_cancel' (by omega)]
    have hnum : n * unit = n * 2 ^ (52 - n.log2) * 2 ^ (n.log2 + 1022) := by
      rw [Nat.mul_assoc, ← Nat.pow_add]
      exact congrArg (n * ·) (unit_eq (by omega))
    rw [hden, hnum, roundQuotient_mul_self _ (Nat.two_pow_pos _)]
  simp only [magnitudeOfRatio, hquot, hlog2, hexp, hround]
  exact min_eq_left (Nat.le_of_lt (encoded_lt h0 hn))

/-- What is not rounded has its exact value, which is finite. -/
theorem scaleOf_magnitudeOfRatio (hn : n < 2 ^ 53) (hs : s ≤ 1000) :
    scaleOf (magnitudeOfRatio n (2 ^ s)) * 2 ^ s = n * unit ∧
      magnitudeOfRatio n (2 ^ s) < infinityMagnitude := by
  rcases Nat.eq_zero_or_pos n with rfl | h0
  · simp [magnitudeOfRatio, roundQuotient, scaleOf, infinityMagnitude]
  · obtain ⟨hlog, hlow, hhigh⟩ := significand_bounds h0 hn
    rw [magnitudeOfRatio_exact h0 hn hs]
    refine ⟨?_, encoded_lt h0 hn⟩
    obtain ⟨e, he⟩ : ∃ e, e = n.log2 + 1022 - s := ⟨_, rfl⟩
    obtain ⟨g, hg⟩ : ∃ g, g = n * 2 ^ (52 - n.log2) := ⟨_, rfl⟩
    rw [← hg] at hlow hhigh
    have hq : (e * exponentBit + g) / exponentBit = e + 1 := by
      rw [exponentBit_eq]
      omega
    have hr : exponentBit + (e * exponentBit + g) % exponentBit = g := by
      rw [exponentBit_eq]
      omega
    rw [← he, ← hg]
    simp only [scaleOf, hq, hr, Nat.add_one_ne_zero, if_false, Nat.add_sub_cancel]
    show g * 2 ^ e * 2 ^ s = n * unit
    rw [hg, Nat.mul_assoc, Nat.mul_assoc, ← Nat.pow_add, ← Nat.pow_add]
    exact congrArg (n * ·) (unit_eq (by omega)).symm

end Magnitudes

/-! ## Bounds of numbers -/

theorem infinityMagnitude_lt : infinityMagnitude < signBit := by decide

theorem ofMagnitude_fields (neg : Bool) {m : Nat} (h : m < signBit) :
    (ofMagnitude neg m).magnitude = m ∧ (ofMagnitude neg m).negative = neg := by
  have hsign : signBit = 2 ^ 63 := rfl
  have hbits : (ofMagnitude neg m).bits.toNat = (if neg then signBit else 0) + m := by
    show (UInt64.ofNat _).toNat = _
    rw [UInt64.toNat_ofNat']
    refine Nat.mod_eq_of_lt ?_
    rw [hsign] at h ⊢
    split <;> omega
  cases neg
  · simp only [magnitude, negative, hbits, Bool.false_eq_true, if_false, Nat.zero_add]
    exact ⟨Nat.mod_eq_of_lt h, decide_eq_false (by omega)⟩
  · simp only [magnitude, negative, hbits, if_true, Nat.add_mod_left]
    exact ⟨Nat.mod_eq_of_lt h, decide_eq_true (by omega)⟩

/-- Integers of 64 bits, with a sign or without, are finite as binary numbers. -/
theorem isFinite_ofInt {n : Int} (h : n.natAbs ≤ 2 ^ 64) : (ofInt n).isFinite = true := by
  have hle : magnitudeOfRatio n.natAbs 1 ≤ magnitudeOfRatio (2 ^ 64) 1 := magnitudeOfRatio_le h
  have hlt : magnitudeOfRatio (2 ^ 64) 1 < infinityMagnitude := by decide +kernel
  have hfinite : magnitudeOfRatio n.natAbs 1 < infinityMagnitude := Nat.lt_of_le_of_lt hle hlt
  rw [ofInt, ofRatio, isFinite, (ofMagnitude_fields _ (hfinite.trans infinityMagnitude_lt)).1]
  exact decide_eq_true hfinite

theorem signedScale_ofInt_neg {m : Nat} (h0 : 0 < m) (hm : m < 2 ^ 53) :
    (ofInt (-m)).signedScale = -((m * unit : Nat) : Int) := by
  obtain ⟨hexact, hinf⟩ := scaleOf_magnitudeOfRatio hm (Nat.zero_le 1000)
  obtain ⟨hmag, hneg⟩ := ofMagnitude_fields true (Nat.lt_trans hinf infinityMagnitude_lt)
  rw [Nat.pow_zero, Nat.mul_one] at hexact
  rw [Nat.pow_zero] at hmag hneg
  have hlt : decide (-(m : Int) < 0) = true := decide_eq_true (by omega)
  rw [ofInt, hlt, Int.natAbs_neg, Int.natAbs_natCast, ofRatio, signedScale, hneg, if_pos rfl, scale,
    hmag, hexact]

/-- A number that is finite and not below zero, from `lo` to `hi` steps of `2 ^ -s`. -/
structure Between (s lo hi : Nat) (x : Binary64) : Prop where
  negative : x.negative = false
  finite : x.isFinite = true
  low : lo * unit ≤ x.scale * 2 ^ s
  high : x.scale * 2 ^ s ≤ hi * unit

namespace Between

variable {s t a b c d n m : Nat} {x y : Binary64}

/-- A ratio is rounded to between the bounds that it lies between. -/
theorem ofRatio {num den : Nat} (hs : s ≤ 1000) (hb : b < 2 ^ 53) (hden : 0 < den)
    (hlow : a * den ≤ num * 2 ^ s) (hhigh : num * 2 ^ s ≤ b * den) :
    Between s a b (ofRatio false num den) := by
  have hab : a ≤ b := Nat.le_of_mul_le_mul_right (Nat.le_trans hlow hhigh) hden
  have hpow : 0 < 2 ^ s := Nat.two_pow_pos s
  obtain ⟨ha, -⟩ := scaleOf_magnitudeOfRatio (Nat.lt_of_le_of_lt hab hb) hs
  obtain ⟨hb, hinf⟩ := scaleOf_magnitudeOfRatio hb hs
  have hmlow : magnitudeOfRatio a (2 ^ s) ≤ magnitudeOfRatio num den :=
    magnitudeOfRatio_mono hpow hden hlow
  have hmhigh : magnitudeOfRatio num den ≤ magnitudeOfRatio b (2 ^ s) :=
    magnitudeOfRatio_mono hden hpow hhigh
  have hfinite : magnitudeOfRatio num den < infinityMagnitude := Nat.lt_of_le_of_lt hmhigh hinf
  obtain ⟨hmag, hneg⟩ := ofMagnitude_fields false (Nat.lt_trans hfinite infinityMagnitude_lt)
  refine ⟨hneg, ?_, ?_, ?_⟩
  · rw [Binary64.ofRatio, isFinite, hmag]
    exact decide_eq_true hfinite
  · rw [← ha, Binary64.ofRatio, scale, hmag]
    exact Nat.mul_le_mul_right _ (scaleOf_mono hmlow)
  · rw [← hb, Binary64.ofRatio, scale, hmag]
    exact Nat.mul_le_mul_right _ (scaleOf_mono hmhigh)

theorem ofNat (hn : n < 2 ^ 53) : Between 0 n n (.ofInt n) := by
  have h : Between 0 n n (.ofRatio false n 1) :=
    ofRatio (by decide) hn (by decide) (by omega) (by omega)
  have hneg : decide ((n : Int) < 0) = false := decide_eq_false (by omega)
  rwa [ofInt, hneg, Int.natAbs_natCast]

theorem zero : Between 0 0 0 .zero := by
  have h : Between 0 0 0 (.ofInt (0 : Nat)) := ofNat (by decide)
  have hzero : ofInt (0 : Nat) = .zero := by
    simp [ofInt, Binary64.ofRatio, magnitudeOfRatio, roundQuotient, Binary64.zero]
  rwa [hzero] at h

theorem scale_eq (h : Between 0 n n x) : x.scale = n * unit := by
  have hlow := h.low
  have hhigh := h.high
  omega

theorem signedScale_eq (h : Between s a b x) : x.signedScale = x.scale := by
  rw [signedScale, h.negative]
  rfl

/-- Smaller steps. -/
theorem finer (h : Between s a b x) (t : Nat) : Between (s + t) (a * 2 ^ t) (b * 2 ^ t) x where
  negative := h.negative
  finite := h.finite
  low := by
    rw [Nat.pow_add, ← Nat.mul_assoc, Nat.mul_right_comm a]
    exact Nat.mul_le_mul_right _ h.low
  high := by
    rw [Nat.pow_add, ← Nat.mul_assoc, Nat.mul_right_comm b]
    exact Nat.mul_le_mul_right _ h.high

theorem add (hx : Between s a b x) (hy : Between s c d y) (hs : s ≤ 1000) (h : b + d < 2 ^ 53) :
    Between s (a + c) (b + d) (x.add y) := by
  have hsum : (x.scale : Int) + y.scale = ((x.scale + y.scale : Nat) : Int) := rfl
  have hneg : decide (((x.scale + y.scale : Nat) : Int) < 0) = false :=
    decide_eq_false (by omega)
  rw [Binary64.add, hx.signedScale_eq, hy.signedScale_eq, hsum]
  simp only [hneg, Int.natAbs_natCast]
  refine ofRatio hs h unit_pos ?_ ?_
  · rw [Nat.add_mul, Nat.add_mul]
    exact Nat.add_le_add hx.low hy.low
  · rw [Nat.add_mul, Nat.add_mul]
    exact Nat.add_le_add hx.high hy.high

/-- A whole number less. -/
theorem addNeg (hx : Between 0 n n x) (hn : n < 2 ^ 53) (hm : 0 < m) (hle : m ≤ n) :
    Between 0 (n - m) (n - m) (x.add (.ofInt (-m))) := by
  have hsum : ((n * unit : Nat) : Int) + -((m * unit : Nat) : Int) =
      (((n - m) * unit : Nat) : Int) := by
    rw [Nat.sub_mul, Int.natCast_sub (Nat.mul_le_mul_right _ hle), Int.sub_eq_add_neg]
  have hneg : decide ((((n - m) * unit : Nat) : Int) < 0) = false :=
    decide_eq_false (Int.not_lt.2 (Int.natCast_nonneg _))
  rw [Binary64.add, hx.signedScale_eq, hx.scale_eq,
    signedScale_ofInt_neg hm (Nat.lt_of_le_of_lt hle hn), hsum]
  simp only [hneg, Int.natAbs_natCast]
  refine ofRatio (by decide) (Nat.lt_of_le_of_lt (Nat.sub_le n m) hn) unit_pos ?_ ?_
  · rw [Nat.pow_zero, Nat.mul_one]
  · rw [Nat.pow_zero, Nat.mul_one]

theorem mul (hx : Between s a b x) (hy : Between t c d y) (hs : s + t ≤ 1000)
    (h : b * d < 2 ^ 53) : Between (s + t) (a * c) (b * d) (x.mul y) := by
  have hpow : x.scale * y.scale * 2 ^ (s + t) = x.scale * 2 ^ s * (y.scale * 2 ^ t) := by
    rw [Nat.pow_add, Nat.mul_mul_mul_comm]
  rw [Binary64.mul, hx.negative, hy.negative]
  refine ofRatio hs h (Nat.mul_pos unit_pos unit_pos) ?_ ?_
  · rw [hpow, Nat.mul_mul_mul_comm a]
    exact Nat.mul_le_mul hx.low hy.low
  · rw [hpow, Nat.mul_mul_mul_comm b]
    exact Nat.mul_le_mul hx.high hy.high

/-- The quotient of whole numbers. -/
theorem div (hx : Between 0 n n x) (hy : Between 0 m m y) (hm : 0 < m) (hs : s ≤ 1000)
    (hb : b < 2 ^ 53) (hlow : a * m ≤ n * 2 ^ s) (hhigh : n * 2 ^ s ≤ b * m) :
    Between s a b (x.div y) := by
  rw [Binary64.div, hx.negative, hy.negative, hx.scale_eq, hy.scale_eq]
  refine ofRatio hs hb (Nat.mul_pos hm unit_pos) ?_ ?_
  · rw [← Nat.mul_assoc, Nat.mul_right_comm n]
    exact Nat.mul_le_mul_right _ hlow
  · rw [← Nat.mul_assoc, Nat.mul_right_comm n]
    exact Nat.mul_le_mul_right _ hhigh

/-- The whole part of a number lies between those of its bounds. -/
theorem wholePart (h : Between s a b x) (hlow : m * 2 ^ s ≤ a) (hhigh : b < (n + 1) * 2 ^ s) :
    m ≤ x.wholePart ∧ x.wholePart ≤ n := by
  have hpow : 0 < 2 ^ s := Nat.two_pow_pos s
  constructor
  · refine (Nat.le_div_iff_mul_le unit_pos).2 (Nat.le_of_mul_le_mul_right ?_ hpow)
    rw [Nat.mul_right_comm]
    exact Nat.le_trans (Nat.mul_le_mul_right _ hlow) h.low
  · refine Nat.le_of_lt_succ ((Nat.div_lt_iff_lt_mul unit_pos).2
      (Nat.lt_of_mul_lt_mul_right (a := 2 ^ s) ?_))
    rw [Nat.mul_right_comm]
    exact Nat.lt_of_le_of_lt h.high (Nat.mul_lt_mul_of_pos_right hhigh unit_pos)

end Between

end RowSieve.Binary64
