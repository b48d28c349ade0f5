/-
The shortest decimal of a binary number reads back as the number. A ratio that is off a number by
less than one part in `2 ^ 54` is rounded to it; of the two neighbours of a number on a grid of
seventeen digits one is as near as that, so that the search for the fewest digits ends with a hit;
and trailing zeros of a hit can be moved into its exponent.
-/
import RowSieve.Number.Decimal
import RowSieve.Proofs.Number.Digits
import RowSieve.Proofs.Number.Rounding

namespace RowSieve

namespace Binary64

/-! ## Ratios near a number -/

section Near

variable {a den n num e g m : Nat}

theorem roundQuotient_eq_of_near (hlow : 2 * (n * den) < 2 * a + den)
    (hhigh : 2 * a < 2 * (n * den) + den) : roundQuotient a den = n := by
  have hden : 0 < den := by omega
  have hdiv := Nat.div_add_mod a den
  -- The quotient is the number itself, or one less with more than half left over.
  by_cases h : n * den ≤ a
  · have hq : a / den = n :=
      Nat.div_eq_of_lt_le h (by rw [Nat.add_mul, Nat.one_mul]; omega)
    rw [hq, Nat.mul_comm] at hdiv
    simp only [roundQuotient, hq]
    rw [if_pos (by omega)]
  · obtain ⟨n, rfl⟩ : ∃ k, n = k + 1 := Nat.exists_eq_succ_of_ne_zero fun h0 => by
      rw [h0, Nat.zero_mul] at h
      omega
    rw [Nat.add_mul, Nat.one_mul] at hlow hhigh h
    have hq : a / den = n :=
      Nat.div_eq_of_lt_le (by omega) (by rw [Nat.add_mul, Nat.one_mul]; omega)
    rw [hq, Nat.mul_comm] at hdiv
    simp only [roundQuotient, hq]
    rw [if_neg (by omega), if_pos (by omega)]

theorem log2_sub_eq (hhigh : n < 2 ^ (53 + e)) (hlow : e = 0 ∨ 2 ^ (52 + e) ≤ n) :
    n.log2 - 52 = e := by
  rcases Nat.eq_zero_or_pos n with rfl | hn
  · rcases hlow with rfl | hlow
    · rw [Nat.log2_zero]
    · exact absurd hlow (Nat.not_le.2 (Nat.two_pow_pos _))
  · have hlog : n.log2 < 53 + e := (Nat.log2_lt (by omega)).2 hhigh
    rcases hlow with rfl | hlow
    · omega
    · have := (Nat.le_log2 (by omega)).2 hlow
      omega

/-- A ratio less than half a step of `2 ^ e` off a significand is rounded to it, if it has the
exponent of the step. -/
theorem magnitudeOfRatio_eq_of_near (hden : 0 < den) (hbelow : num * unit < 2 ^ 53 * (den * 2 ^ e))
    (habove : e = 0 ∨ 2 ^ 52 * (den * 2 ^ e) ≤ num * unit)
    (hlow : 2 * (g * (den * 2 ^ e)) < 2 * (num * unit) + den * 2 ^ e)
    (hhigh : 2 * (num * unit) < 2 * (g * (den * 2 ^ e)) + den * 2 ^ e) :
    magnitudeOfRatio num den = min (e * exponentBit + g) infinityMagnitude := by
  have hexp : (num * unit / den).log2 - 52 = e := by
    apply log2_sub_eq
    · rw [Nat.div_lt_iff_lt_mul hden, Nat.pow_add, Nat.mul_assoc, Nat.mul_comm (2 ^ e)]
      exact hbelow
    · refine habove.imp_right fun h => ?_
      rw [Nat.le_div_iff_mul_le hden, Nat.pow_add, Nat.mul_assoc, Nat.mul_comm (2 ^ e)]
      exact h
  have hround : roundQuotient (num * unit) (den * Nat.pow 2 e) = g :=
    roundQuotient_eq_of_near hlow hhigh
  simp only [magnitudeOfRatio, hexp, hround]

/-- A magnitude is a significand and an exponent; only the least exponent goes with significands of
fewer than 53 bits. -/
theorem exists_significand (m : Nat) : ∃ e g, m = e * exponentBit + g ∧ scaleOf m = g * 2 ^ e ∧
    g < 2 ^ 53 ∧ (e = 0 ∨ 2 ^ 52 ≤ g) := by
  have hsplit := Nat.div_add_mod m exponentBit
  have hlt : m % exponentBit < exponentBit := Nat.mod_lt _ (by decide)
  rw [exponentBit_eq] at hsplit hlt
  by_cases h : m / exponentBit = 0
  · refine ⟨0, m % exponentBit, ?_, ?_, ?_, .inl rfl⟩
    · rw [exponentBit_eq] at h ⊢
      omega
    · simp [scaleOf, h]
    · rw [exponentBit_eq]
      omega
  · refine ⟨m / exponentBit - 1, exponentBit + m % exponentBit, ?_, ?_, ?_, .inr ?_⟩
    · rw [exponentBit_eq] at h ⊢
      omega
    · simp only [scaleOf, if_neg h]
      rfl
    · rw [exponentBit_eq]
      omega
    · rw [exponentBit_eq]
      omega

theorem scaleOf_pos {m : Nat} (h0 : 0 < m) : 0 < scaleOf m := by
  obtain ⟨e, g, rfl, hscale, -, hnormal⟩ := exists_significand m
  rw [hscale]
  refine Nat.mul_pos ?_ (Nat.two_pow_pos e)
  rcases hnormal with rfl | hg
  · simpa using h0
  · omega

/-- A ratio that is off a number by less than one part in `2 ^ 54` is rounded to it. -/
theorem magnitudeOfRatio_of_near (hm : m < infinityMagnitude) (hden : 0 < den)
    (hlow : scaleOf m * den * 2 ^ 54 < num * unit * 2 ^ 54 + scaleOf m * den)
    (hhigh : num * unit * 2 ^ 54 < scaleOf m * den * 2 ^ 54 + scaleOf m * den) :
    magnitudeOfRatio num den = m := by
  obtain ⟨e, g, rfl, hscale, hg, hnormal⟩ := exists_significand m
  have hpow : 0 < 2 ^ e := Nat.two_pow_pos e
  obtain ⟨D, hD⟩ : ∃ D, D = den * 2 ^ e := ⟨_, rfl⟩
  have hpos : 0 < D := hD ▸ Nat.mul_pos hden hpow
  have hvalue : scaleOf (e * exponentBit + g) * den = g * D := by
    rw [hscale, hD, Nat.mul_assoc, Nat.mul_comm (2 ^ e)]
  rw [hvalue] at hlow hhigh
  obtain ⟨u, hu⟩ : ∃ u, u = num * unit := ⟨_, rfl⟩
  have hsmall : g * D ≤ 2 ^ 53 * D - D := by
    have := Nat.mul_le_mul_right D (Nat.le_sub_one_of_lt hg)
    rwa [Nat.sub_mul, Nat.one_mul] at this
  rw [← hu] at hlow hhigh
  by_cases hstep : e ≠ 0 ∧ u < 2 ^ 52 * D
  · -- Below a power of two the steps are half as long, and a rounding up leads to it.
    obtain ⟨he, hstep⟩ := hstep
    obtain ⟨e, rfl⟩ := Nat.exists_eq_succ_of_ne_zero he
    have hhalf : D = 2 * (den * 2 ^ e) := by
      rw [hD, Nat.pow_succ, Nat.mul_comm (2 ^ e), Nat.mul_left_comm]
    have hg52 : g = 2 ^ 52 := by
      have hge : 2 ^ 52 ≤ g := hnormal.resolve_left he
      by_contra hne
      have hgt : (2 ^ 52 + 1) * D ≤ g * D := Nat.mul_le_mul_right D (by omega)
      omega
    subst hg52
    rw [magnitudeOfRatio_eq_of_near (e := e) (g := 2 ^ 53) hden]
    · rw [min_eq_left]
      · rw [exponentBit_eq]
        omega
      · rw [exponentBit_eq] at hm ⊢
        omega
    · omega
    · right
      omega
    · omega
    · omega
  · rw [magnitudeOfRatio_eq_of_near (e := e) (g := g) hden]
    · exact min_eq_left (Nat.le_of_lt hm)
    · omega
    · rw [← hD, ← hu]
      omega
    · rw [← hD, ← hu]
      omega
    · rw [← hD, ← hu]
      omega

end Near

theorem ofMagnitude_self (x : Binary64) : ofMagnitude x.negative x.magnitude = x := by
  have hlt : x.bits.toNat < 2 ^ 64 := x.bits.toNat_lt
  have hsign : signBit = 2 ^ 63 := rfl
  have hbits : (if x.negative then signBit else 0) + x.magnitude = x.bits.toNat := by
    unfold negative magnitude
    by_cases h : signBit ≤ x.bits.toNat
    · rw [if_pos (decide_eq_true h), hsign]
      rw [hsign] at h
      omega
    · rw [if_neg (by simpa using h), Nat.zero_add]
      exact Nat.mod_eq_of_lt (Nat.not_le.1 h)
  rw [ofMagnitude, hbits, UInt64.ofNat_toNat]

end Binary64

namespace Number

open Binary64 (magnitudeOfRatio scaleOf scaleOf_pos unit infinityMagnitude)

/-! ## Digits -/

theorem digitCount_pos (n : Nat) : 0 < digitCount n :=
  List.length_pos_iff.2 (toDigits_ne_nil n)

theorem lt_pow_digitCount (n : Nat) : n < 10 ^ digitCount n := by
  unfold digitCount
  induction n using toDigits.induct with
  | case1 n hn =>
    rw [toDigits, if_pos hn]
    exact hn
  | case2 n hn ih =>
    rw [toDigits, if_neg hn, List.length_append, List.length_singleton, Nat.pow_succ]
    omega

theorem pow_digitCount_le {n : Nat} (h0 : 0 < n) : 10 ^ (digitCount n - 1) ≤ n := by
  unfold digitCount
  induction n using toDigits.induct with
  | case1 n hn =>
    rw [toDigits, if_pos hn]
    exact h0
  | case2 n hn ih =>
    have hlen : (toDigits (n / 10)).length = (toDigits (n / 10)).length - 1 + 1 :=
      (Nat.succ_pred_eq_of_pos (digitCount_pos _)).symm
    rw [toDigits, if_neg hn, List.length_append, List.length_singleton, Nat.add_sub_cancel, hlen,
      Nat.pow_succ]
    have := ih (by omega)
    omega

/-! ## Decimals -/

namespace Decimal

/-- The magnitude nearest to a decimal. -/
def magnitude (d : Decimal) : Nat := magnitudeOfRatio d.ratio.1 d.ratio.2

/-- Powers of ten can be moved from one side of a ratio to the other. -/
theorem magnitude_eq {d : Decimal} {i j : Nat} (h : (i : Int) - j = d.exponent) :
    magnitudeOfRatio (d.digits * 10 ^ i) (10 ^ j) = d.magnitude := by
  obtain ⟨k, hi, hj⟩ : ∃ k, i = d.exponent.toNat + k ∧ j = (-d.exponent).toNat + k :=
    ⟨i - d.exponent.toNat, by omega, by omega⟩
  rw [hi, hj, Nat.pow_add, Nat.pow_add, ← Nat.mul_assoc,
    Binary64.magnitudeOfRatio_mul_right (Nat.pow_pos (by decide))]
  rfl

theorem magnitude_of_zero (e : Int) : magnitude ⟨0, e⟩ = 0 := by
  simp [magnitude, ratio, magnitudeOfRatio, Binary64.roundQuotient]

theorem magnitude_stripZeros (steps : Nat) (d : Decimal) :
    (stripZeros steps d).magnitude = d.magnitude := by
  induction steps generalizing d with
  | zero => rfl
  | succ steps ih =>
    rw [stripZeros]
    split
    · rename_i hd
      obtain ⟨i, j, hij⟩ : ∃ i j : Nat, (i : Int) - j = d.exponent :=
        ⟨d.exponent.toNat, (-d.exponent).toNat, by omega⟩
      have hdigits : d.digits / 10 * 10 ^ (i + 1) = d.digits * 10 ^ i := by
        rw [Nat.pow_succ, Nat.mul_comm (10 ^ i), ← Nat.mul_assoc,
          Nat.div_mul_cancel (Nat.dvd_of_mod_eq_zero hd.2)]
      rw [ih, ← magnitude_eq hij, ← hdigits]
      exact (magnitude_eq (by push_cast; omega)).symm
    · rfl

end Decimal

/-! ## The power of ten below a ratio -/

/-- Powers of ten can be moved from one side of a comparison to the other. -/
theorem pow_le_iff {num den i j : Nat} {e : Int} (h : (i : Int) - j = e) :
    den * 10 ^ i ≤ num * 10 ^ j ↔ den * 10 ^ e.toNat ≤ num * 10 ^ (-e).toNat := by
  obtain ⟨k, hi, hj⟩ : ∃ k, i = e.toNat + k ∧ j = (-e).toNat + k :=
    ⟨i - e.toNat, by omega, by omega⟩
  rw [hi, hj, Nat.pow_add, Nat.pow_add, ← Nat.mul_assoc, ← Nat.mul_assoc]
  exact Nat.mul_le_mul_right_iff (Nat.pow_pos (by decide))

/-- A ratio that is not zero is at least the power of ten that is found below it. -/
theorem log10Floor_le {num den : Nat} (hnum : 0 < num) :
    den * 10 ^ (log10Floor num den).toNat ≤ num * 10 ^ (-log10Floor num den).toNat := by
  obtain ⟨guess, hguess⟩ : ∃ g : Int, g = digitCount num - digitCount den := ⟨_, rfl⟩
  have hreached : (if 0 ≤ guess then den * Nat.pow 10 guess.toNat ≤ num
      else den ≤ num * Nat.pow 10 (-guess).toNat) ↔
        den * 10 ^ guess.toNat ≤ num * 10 ^ (-guess).toNat := by
    split
    · rename_i hg
      rw [show (-guess).toNat = 0 by omega, Nat.pow_zero, Nat.mul_one]
      exact Iff.rfl
    · rename_i hg
      rw [show guess.toNat = 0 by omega, Nat.pow_zero, Nat.mul_one]
      exact Iff.rfl
  simp only [log10Floor, ← hguess, hreached]
  split
  · assumption
  · -- The counts of digits alone bound the ratio from below by a power of ten less.
    have hcount := digitCount_pos num
    have hij : ((digitCount num - 1 : Nat) : Int) - digitCount den = guess - 1 := by omega
    rw [← pow_le_iff hij]
    calc den * 10 ^ (digitCount num - 1) ≤ 10 ^ digitCount den * num :=
          Nat.mul_le_mul (Nat.le_of_lt (lt_pow_digitCount den)) (pow_digitCount_le hnum)
      _ = num * 10 ^ digitCount den := Nat.mul_comm _ _

/-! ## The search -/

/-- Of the neighbours on a grid one that reads back is found, unless neither does. -/
theorem onGrid?_cases (m : Nat) (e : Int) :
    (∃ d, onGrid? m e = some d ∧ d.magnitude = m) ∨
      onGrid? m e = none ∧
        let below := scaleOf m * 10 ^ (-e).toNat / (unit * 10 ^ e.toNat)
        Decimal.magnitude ⟨below, e⟩ ≠ m ∧ Decimal.magnitude ⟨below + 1, e⟩ ≠ m := by
  obtain ⟨below, hbelow⟩ : ∃ b, b = scaleOf m * 10 ^ (-e).toNat / (unit * 10 ^ e.toNat) := ⟨_, rfl⟩
  have hfound : onGrid? m e =
      if (Decimal.magnitude ⟨below, e⟩ == m) && (Decimal.magnitude ⟨below + 1, e⟩ == m) then
        if 2 * (scaleOf m * 10 ^ (-e).toNat % (unit * 10 ^ e.toNat)) < unit * 10 ^ e.toNat ∨
            2 * (scaleOf m * 10 ^ (-e).toNat % (unit * 10 ^ e.toNat)) = unit * 10 ^ e.toNat ∧
              below % 2 = 0 then some ⟨below, e⟩
        else some ⟨below + 1, e⟩
      else if Decimal.magnitude ⟨below, e⟩ == m then some ⟨below, e⟩
      else if Decimal.magnitude ⟨below + 1, e⟩ == m then some ⟨below + 1, e⟩
      else none := by
    rw [hbelow]
    rfl
  simp only [← hbelow]
  rw [hfound]
  by_cases hlower : Decimal.magnitude ⟨below, e⟩ = m
  · by_cases hupper : Decimal.magnitude ⟨below + 1, e⟩ = m
    · left
      simp only [hlower, hupper, beq_self_eq_true, Bool.and_self, if_true]
      split
      · exact ⟨_, rfl, hlower⟩
      · exact ⟨_, rfl, hupper⟩
    · exact .inl ⟨_, by simp [hlower, hupper], hlower⟩
  · by_cases hupper : Decimal.magnitude ⟨below + 1, e⟩ = m
    · exact .inl ⟨_, by simp [hlower, hupper], hupper⟩
    · exact .inr ⟨by simp [hlower, hupper], hlower, hupper⟩

/-- On a grid of at most one part in `10 ^ 16` a neighbour reads back. -/
theorem exists_onGrid? {m : Nat} {e : Int} (hm : m < infinityMagnitude) (h0 : 0 < scaleOf m)
    (hfine : unit * 10 ^ e.toNat * 10 ^ 16 ≤ scaleOf m * 10 ^ (-e).toNat) :
    ∃ d, onGrid? m e = some d ∧ d.magnitude = m := by
  refine (onGrid?_cases m e).resolve_right fun ⟨_, hlower, hupper⟩ => ?_
  have hup : 0 < 10 ^ (-e).toNat := Nat.pow_pos (by decide)
  obtain ⟨units, hunits⟩ : ∃ u, u = scaleOf m * 10 ^ (-e).toNat := ⟨_, rfl⟩
  obtain ⟨step, hstep⟩ : ∃ s, s = unit * 10 ^ e.toNat := ⟨_, rfl⟩
  have hunitsPos : 0 < units := hunits ▸ Nat.mul_pos h0 hup
  have hstepPos : 0 < step :=
    hstep ▸ Nat.mul_pos Binary64.unit_pos (Nat.pow_pos (by decide))
  rw [← hunits, ← hstep] at hfine hlower hupper
  have hreads (n : Nat) (hlow : units * 2 ^ 54 < n * step * 2 ^ 54 + units)
      (hhigh : n * step * 2 ^ 54 < units * 2 ^ 54 + units) :
      Decimal.magnitude ⟨n, e⟩ = m := by
    have hvalue : n * 10 ^ e.toNat * unit = n * step := by
      rw [hstep, Nat.mul_assoc, Nat.mul_comm (10 ^ e.toNat)]
    rw [← hvalue, hunits] at hlow hhigh
    exact Binary64.magnitudeOfRatio_of_near hm hup hlow hhigh
  -- The nearer neighbour is off by half a step at most, and a step is small beside the number.
  have hsplit := Nat.div_add_mod units step
  have hrest : units % step < step := Nat.mod_lt units hstepPos
  rw [Nat.mul_comm] at hsplit
  by_cases hhalf : 2 * (units % step) ≤ step
  · exact hlower (hreads _ (by omega) (by omega))
  · have hnext : (units / step + 1) * step = units / step * step + step := by
      rw [Nat.add_mul, Nat.one_mul]
    exact hupper (hreads _ (by omega) (by omega))

/-- A search that comes to a grid with a hit ends with a decimal that reads back. -/
theorem magnitude_shortestFrom {m : Nat} {top : Int} {last more count : Nat}
    (hlast : onGrid? m (top - last + 1) ≠ none) (hle : count ≤ last) (hlt : last < count + more) :
    (shortestFrom m top more count).magnitude = m := by
  induction more generalizing count with
  | zero => omega
  | succ more ih =>
    rw [shortestFrom]
    rcases onGrid?_cases m (top - count + 1) with ⟨d, hd, hback⟩ | ⟨hnone, -⟩
    · rw [hd]
      exact hback
    · rw [hnone, Option.getD_none]
      have hne : count ≠ last := by
        rintro rfl
        exact hlast hnone
      exact ih (by omega) (by omega)

/-- The shortest decimal of a finite number reads back as the number. -/
theorem magnitude_shortest {m : Nat} (hm : m < infinityMagnitude) : (shortest m).magnitude = m := by
  unfold shortest
  split
  · rename_i h
    rw [h]
    exact Decimal.magnitude_of_zero 0
  · rename_i h
    have h0 : 0 < scaleOf m := scaleOf_pos (Nat.pos_of_ne_zero h)
    obtain ⟨top, htop⟩ : ∃ t, t = log10Floor (scaleOf m) unit := ⟨_, rfl⟩
    have hpow : unit * 10 ^ top.toNat ≤ scaleOf m * 10 ^ (-top).toNat :=
      htop ▸ log10Floor_le h0
    simp only [← htop]
    rw [Decimal.magnitude_stripZeros]
    -- Seventeen digits make a grid that is fine enough.
    have hfine : unit * 10 ^ (top - 16).toNat * 10 ^ 16 ≤ scaleOf m * 10 ^ (-(top - 16)).toNat := by
      rw [Nat.mul_assoc, ← Nat.pow_add]
      exact (pow_le_iff (by omega)).2 hpow
    have hlast : onGrid? m (top - (17 : Nat) + 1) ≠ none := by
      obtain ⟨d, hd, -⟩ := exists_onGrid? hm h0 hfine
      rw [show top - (17 : Nat) + 1 = top - 16 by omega, hd]
      exact nofun
    exact magnitude_shortestFrom hlast (by decide) (by decide)

/-! ## Decimals read -/

theorem magnitudeOfRatio_below_decades : magnitudeOfRatio 1 (10 ^ decadeLimit) = 0 := by
  decide +kernel

theorem magnitudeOfRatio_above_decades :
    magnitudeOfRatio (10 ^ decadeLimit) 1 = infinityMagnitude := by decide +kernel

/-- The limits of decades decide nothing that rounding would not. -/
theorem ofDecimal_eq (neg : Bool) (d : Decimal) :
    ofDecimal neg d.digits d.exponent = Binary64.ofMagnitude neg d.magnitude := by
  have hden : 0 < 10 ^ (-d.exponent).toNat := Nat.pow_pos (by decide)
  have hlimit : 0 < 10 ^ decadeLimit := Nat.pow_pos (by decide)
  simp only [ofDecimal]
  split
  · rename_i h
    by_cases h0 : d.digits = 0
    · obtain ⟨digits, e⟩ := d
      obtain rfl : digits = 0 := h0
      rw [Decimal.magnitude_of_zero]
    · -- Rounding keeps the order, and the limit itself is rounded to zero.
      have htop : digitCount d.digits + d.exponent < -(decadeLimit : Int) := h.resolve_left h0
      have hle : d.magnitude ≤ magnitudeOfRatio 1 (10 ^ decadeLimit) := by
        refine Binary64.magnitudeOfRatio_mono hden hlimit ?_
        show d.digits * 10 ^ d.exponent.toNat * 10 ^ decadeLimit ≤ 1 * 10 ^ (-d.exponent).toNat
        rw [show d.exponent.toNat = 0 by omega, Nat.pow_zero, Nat.mul_one, Nat.one_mul]
        calc d.digits * 10 ^ decadeLimit ≤ 10 ^ digitCount d.digits * 10 ^ decadeLimit :=
              Nat.mul_le_mul_right _ (Nat.le_of_lt (lt_pow_digitCount _))
          _ = 10 ^ (digitCount d.digits + decadeLimit) := (Nat.pow_add 10 _ _).symm
          _ ≤ 10 ^ (-d.exponent).toNat := Nat.pow_le_pow_right (by decide) (by omega)
      rw [Nat.le_zero.1 (hle.trans_eq magnitudeOfRatio_below_decades)]
  · rename_i h
    obtain ⟨h0, -⟩ := not_or.1 h
    split
    · rename_i htop
      have hcount := digitCount_pos d.digits
      have hle : magnitudeOfRatio (10 ^ decadeLimit) 1 ≤ d.magnitude := by
        refine Binary64.magnitudeOfRatio_mono Nat.one_pos hden ?_
        show 10 ^ decadeLimit * 10 ^ (-d.exponent).toNat ≤ d.digits * 10 ^ d.exponent.toNat * 1
        rw [Nat.mul_one]
        calc 10 ^ decadeLimit * 10 ^ (-d.exponent).toNat =
              10 ^ (decadeLimit + (-d.exponent).toNat) := (Nat.pow_add 10 _ _).symm
          _ ≤ 10 ^ (digitCount d.digits - 1 + d.exponent.toNat) :=
              Nat.pow_le_pow_right (by decide) (by omega)
          _ = 10 ^ (digitCount d.digits - 1) * 10 ^ d.exponent.toNat := Nat.pow_add 10 _ _
          _ ≤ d.digits * 10 ^ d.exponent.toNat :=
              Nat.mul_le_mul_right _ (pow_digitCount_le (Nat.pos_of_ne_zero h0))
      have hinf : d.magnitude = infinityMagnitude :=
        Nat.le_antisymm (min_le_right _ _) (magnitudeOfRatio_above_decades ▸ hle)
      rw [hinf]
      rfl
    · rfl

end Number

end RowSieve
