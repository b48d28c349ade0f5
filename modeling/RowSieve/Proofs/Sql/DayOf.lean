/-
The day of a stored text. A stored day is its own, and a stored instant has the day it begins
with: up to the 28th whatever the time, as long as the second is not a leap second, and past the
28th unless the last second of the day has a fraction that is rounded to the next.
-/
import Mathlib.Data.List.TakeWhile
import RowSieve.Proofs.Calendar.DayCount
import RowSieve.Proofs.Calendar.Order
import RowSieve.Proofs.Number.Rounding
import RowSieve.Sql.DayOf

namespace RowSieve.Sql.DayOf

open RowSieve.Number (isDigit number? ofDigits padded takeDigits)

/-! ## Fractions of a second -/

section Fractions

open Binary64 (Between)

variable {n nano sec : Nat} {ds : List Char}

theorem digit_of_isDigit {c : Char} (h : isDigit c = true) :
    48 ≤ c.toNat ∧ c.toNat ≤ 57 ∧ (Number.digit? c).getD 0 = c.toNat - 48 := by
  unfold isDigit Number.digit? at *
  split at h
  case isTrue hc =>
    rw [if_pos hc]
    exact ⟨hc.1, hc.2, rfl⟩
  case isFalse hc => cases h

/-- A digit more is exact as long as the number is. -/
theorem between_grow {x : Binary64} {c : Char} (hx : Between 0 n n x) (hc : isDigit c = true)
    (hn : n * 10 + 57 < 2 ^ 53) :
    Between 0 (n * 10 + (Number.digit? c).getD 0) (n * 10 + (Number.digit? c).getD 0)
      (grow x c) := by
  obtain ⟨hlow, hhigh, hvalue⟩ := digit_of_isDigit hc
  have htenfold := hx.mul (Between.ofNat (n := 10) (by decide)) (by decide) (by omega)
  have hsum := htenfold.add (Between.ofNat (n := c.toNat) (by omega)) (by decide) (by omega)
  have hdiff := hsum.addNeg (by omega) (show 0 < 48 by decide) (by omega)
  rw [hvalue, ← Nat.add_sub_assoc hlow]
  unfold grow
  rw [if_pos hx.finite]
  exact (if_pos htenfold.finite).symm ▸ hdiff

/-- Digits are gathered exactly while there are at most nine. -/
theorem between_foldl_grow : ∀ {ds : List Char} {x : Binary64} {n k : Nat}, Between 0 n n x →
    (∀ c ∈ ds, isDigit c = true) → n < 10 ^ k → k + ds.length ≤ 9 →
    Between 0 (ofDigits n ds) (ofDigits n ds) (ds.foldl grow x)
  | [], x, n, k, hx, _, _, _ => hx
  | c :: ds, x, n, k, hx, hds, hn, hk => by
    obtain ⟨hc, hds⟩ := List.forall_mem_cons.1 hds
    rw [List.length_cons] at hk
    obtain ⟨-, hhigh, hvalue⟩ := digit_of_isDigit hc
    have hpow : 10 ^ (k + 1) = 10 ^ k * 10 := Nat.pow_succ 10 k
    have hsmall : 10 ^ k ≤ 10 ^ 9 := Nat.pow_le_pow_right (by decide) (by omega)
    have hgrown := between_grow hx hc (by omega)
    rw [ofDigits, List.foldl_cons]
    exact between_foldl_grow (k := k + 1) hgrown hds (by omega) (by omega)

theorem between_foldl_tenfold : ∀ {ds : List Char} {x : Binary64} {n k : Nat}, Between 0 n n x →
    n ≤ 10 ^ k → k + ds.length ≤ 9 →
    Between 0 (n * 10 ^ ds.length) (n * 10 ^ ds.length)
      (ds.foldl (fun x _ => if x.isFinite then x.mul (.ofInt 10) else x) x)
  | [], x, n, k, hx, _, _ => by simpa using hx
  | c :: ds, x, n, k, hx, hn, hk => by
    rw [List.length_cons] at hk ⊢
    have hpow : 10 ^ (k + 1) = 10 ^ k * 10 := Nat.pow_succ 10 k
    have hsmall : 10 ^ k ≤ 10 ^ 9 := Nat.pow_le_pow_right (by decide) (by omega)
    have htenfold := hx.mul (Between.ofNat (n := 10) (by decide)) (by decide) (by omega)
    rw [Nat.pow_succ', ← Nat.mul_assoc, List.foldl_cons, if_pos hx.finite]
    exact between_foldl_tenfold (k := k + 1) htenfold (by omega) (by omega)

/-- The fraction that at most nine digits write lies between the bounds that their ratio does. -/
theorem ofFraction?_between {s a b : Nat} (hds : ∀ c ∈ ds, isDigit c = true) (hlen : ds.length ≤ 9)
    (hs : s ≤ 1000) (hb : b < 2 ^ 53) (hlow : a * 10 ^ ds.length ≤ ofDigits 0 ds * 2 ^ s)
    (hhigh : ofDigits 0 ds * 2 ^ s ≤ b * 10 ^ ds.length) :
    ∃ x, ofFraction? ds = some x ∧ Between s a b x := by
  have hpart := between_foldl_grow (k := 0) Between.zero hds (by decide)
    (by omega)
  have hwhole := @between_foldl_tenfold ds (.ofInt 1) 1 0 (Between.ofNat (n := 1) (by decide))
    (by decide) (by omega)
  rw [Nat.one_mul] at hwhole
  have hpos : 0 < 10 ^ ds.length := Nat.pow_pos (by decide)
  refine ⟨_, ?_, hpart.div hwhole hpos hs hb hlow hhigh⟩
  show ofFraction? ds = _
  unfold ofFraction?
  exact (if_pos hwhole.finite).trans (if_pos hpart.finite)

/-- Bounds of a fraction in steps of `2 ^ -31` of a second, on the side of 999.5 milliseconds that
it lies on. -/
def fractionStart (nano : Nat) : Nat := if 999500000 < nano then 2146409907 else 0
def fractionEnd (nano : Nat) : Nat := if nano < 999500000 then 2146409906 else 2 ^ 31

theorem fraction_bounds {n p q : Nat} (hpq : p * q = 10 ^ 9) (hq : 0 < q) (hn : n * q = nano)
    (hnano : nano < nanosPerSecond) :
    fractionStart nano * p ≤ n * 2 ^ 31 ∧ n * 2 ^ 31 ≤ fractionEnd nano * p := by
  constructor
  · refine Nat.le_of_mul_le_mul_right ?_ hq
    rw [Nat.mul_assoc, hpq, Nat.mul_right_comm, hn]
    unfold fractionStart
    split <;> omega
  · refine Nat.le_of_mul_le_mul_right ?_ hq
    rw [Nat.mul_right_comm, hn, Nat.mul_assoc, hpq]
    unfold fractionEnd nanosPerSecond at *
    split <;> omega

theorem wholePart_of_steps {l e : Nat} {x : Binary64}
    (hx : Between 31 ((sec * 2 ^ 31 + l) * 1000 + 2 ^ 30) ((sec * 2 ^ 31 + e) * 1000 + 2 ^ 30) x)
    (he : e ≤ 2 ^ 31) : sec * 1000 ≤ x.wholePart ∧ x.wholePart ≤ sec * 1000 + 1000 ∧
      (e ≤ 2146409906 → x.wholePart < sec * 1000 + 1000) ∧
      (2146409907 ≤ l → sec * 1000 + 1000 ≤ x.wholePart) := by
  have hbelow : e ≤ 2146409906 →
      (sec * 2 ^ 31 + e) * 1000 + 2 ^ 30 < (sec * 1000 + 999 + 1) * 2 ^ 31 := by omega
  have habove : 2146409907 ≤ l →
      (sec * 1000 + 1000) * 2 ^ 31 ≤ (sec * 2 ^ 31 + l) * 1000 + 2 ^ 30 := by omega
  have hhigh : (sec * 2 ^ 31 + e) * 1000 + 2 ^ 30 < (sec * 1000 + 1000 + 1) * 2 ^ 31 := by omega
  have hlow : sec * 1000 * 2 ^ 31 ≤ (sec * 2 ^ 31 + l) * 1000 + 2 ^ 30 := by omega
  obtain ⟨hfrom, hto⟩ := hx.wholePart hlow hhigh
  exact ⟨hfrom, hto, fun h => Nat.lt_succ_of_le (hx.wholePart hlow (hbelow h)).2,
    fun h => (hx.wholePart (habove h) hhigh).1⟩

/-- The milliseconds of a second and its fraction: below 999.5 milliseconds the fraction does not
come out as a second of its own, and above it does. -/
theorem milliseconds?_bounds (hsec : sec < 60) (hds : ∀ c ∈ ds, isDigit c = true)
    (hlen : ds.length ≤ 9) (hvalue : ofDigits 0 ds * 10 ^ (9 - ds.length) = nano)
    (hnano : nano < nanosPerSecond) :
    ∃ ms, milliseconds? sec ds = some ms ∧ sec * 1000 ≤ ms ∧ ms ≤ sec * 1000 + 1000 ∧
      (nano < 999500000 → ms < sec * 1000 + 1000) ∧
      (999500000 < nano → sec * 1000 + 1000 ≤ ms) := by
  have hpow : 10 ^ ds.length * 10 ^ (9 - ds.length) = 10 ^ 9 := by
    rw [← Nat.pow_add, Nat.add_sub_cancel' hlen]
  have hpos : 0 < 10 ^ (9 - ds.length) := Nat.pow_pos (by decide)
  -- The grid is fine enough to keep 999.5 milliseconds apart from what is a nanosecond off, and
  -- coarse enough that no bound of the sums and products below has more than 53 bits.
  obtain ⟨hstart, hend⟩ := fraction_bounds hpow hpos hvalue hnano
  have hsmall : fractionEnd nano ≤ 2 ^ 31 := by
    unfold fractionEnd
    split <;> omega
  obtain ⟨x, hx, hfraction⟩ := ofFraction?_between hds hlen (by decide)
    (Nat.lt_of_le_of_lt hsmall (by decide)) hstart hend
  have hseconds := ((Between.ofNat (n := sec) (by omega)).finer 31).add hfraction (by decide)
    (by omega)
  -- The seconds in milliseconds, half of one more, and the whole part of that.
  have hmillis := hseconds.mul (Between.ofNat (n := 1000) (by decide)) (by decide) (by omega)
  have hhalf : Between (0 + 31 + 0) (2 ^ 30) (2 ^ 30) (.ofRatio false 1 2) :=
    Between.ofRatio (by decide) (by decide) (by decide) (by decide) (by decide)
  have hrounded : Between 31 _ _ _ := hmillis.add hhalf (by decide) (by omega)
  have hms : milliseconds? sec ds = some ((((Binary64.ofInt sec).add x).mul (.ofInt 1000)).add
      (.ofRatio false 1 2)).wholePart := by
    unfold milliseconds?
    rw [hx]
    rfl
  obtain ⟨hlow, hhigh, hbelow, habove⟩ := wholePart_of_steps hrounded hsmall
  exact ⟨_, hms, hlow, hhigh, fun hlt => hbelow (Nat.le_of_eq (if_pos hlt)),
    fun hgt => habove (Nat.le_of_eq (if_pos hgt).symm)⟩

end Fractions

/-! ## Stored texts as they are read -/

section Reading

variable {d : Day} {c : Clock}

theorem two?_padded {lo hi n : Nat} (h : lo ≤ n ∧ n ≤ hi) (hhi : hi < 100) (rest : List Char) :
    two? lo hi (padded 2 n ++ rest) = some (n, rest) := by
  unfold two?
  rw [Number.number?_padded (by decide) (Nat.lt_of_le_of_lt h.2 hhi)]
  exact if_pos h

/-- A stored day is read field by field, whatever stands behind it. -/
theorem dayPart?_dayText (h : d.Unsigned) (rest : List Char) :
    dayPart? (Calendar.dayText d ++ rest) = some ((d.year, d.month, d.day), rest) := by
  have hyear : d.year.toNat < 10 ^ 4 := by
    have := h.2
    omega
  obtain ⟨x, xs, hx, hdigit⟩ := Number.exists_padded_eq_cons 4 d.year.toNat
  have hsign : x ≠ '-' := by
    rintro rfl
    exact absurd hdigit (by decide)
  have hnumber := Number.number?_padded (by decide) hyear
    ('-' :: (padded 2 d.month ++ '-' :: (padded 2 d.day ++ rest)))
  rw [Calendar.dayText_append, Calendar.yearText_plain h]
  rw [hx, List.cons_append] at hnumber ⊢
  have hcast : ((d.year.toNat : Nat) : Int) = d.year := Int.toNat_of_nonneg h.1
  unfold dayPart?
  simp [hsign, hnumber, mark?, two?_padded d.month_mem, two?_padded ⟨d.day_mem.1, d.day_le⟩, hcast]

/-- The digits of a stored fraction, with the zeros that are left out, are its nanoseconds. -/
theorem fractionDigits_fractionText {n : Nat} (h : n < nanosPerSecond) :
    ∃ ds, fractionDigits (Calendar.fractionText n) = (ds, []) ∧ (∀ c ∈ ds, isDigit c = true) ∧
      ds.length ≤ 9 ∧ ofDigits 0 ds * 10 ^ (9 - ds.length) = n := by
  rcases Nat.eq_zero_or_pos n with rfl | hpos
  · exact ⟨[], rfl, by simp, by decide, rfl⟩
  · obtain ⟨ds, htext, hds, hne, hlen, hvalue⟩ := Calendar.exists_fraction_digits hpos h
    have htake : takeDigits ds.length ds = (ds, []) := by
      simpa using Number.takeDigits_append [] hds
    refine ⟨ds, ?_, hds, hlen, hvalue⟩
    rw [htext]
    simp [fractionDigits, htake, hne]

/-- Halfway to the next second the fraction comes out as that. -/
theorem milliseconds?_half {ds : List Char} {ms : Nat}
    (hds : fractionDigits (Calendar.fractionText 999500000) = (ds, []))
    (hms : milliseconds? 59 ds = some ms) : ms = 60000 := by
  have hdigits : fractionDigits (Calendar.fractionText 999500000) =
      (['9', '9', '9', '5', '0', '0'], []) := by decide +kernel
  have hhalf : milliseconds? 59 ['9', '9', '9', '5', '0', '0'] = some 60000 := by decide +kernel
  rw [hdigits] at hds
  cases hds
  rw [hhalf] at hms
  cases hms
  rfl

/-- A stored time is read back to the nearest millisecond, which may be one past its second. -/
theorem time?_clockText (h : c.nano < nanosPerSecond) :
    ∃ ms, time? (Calendar.clockText c) = some ⟨some ms, none⟩ ∧ c.second * 1000 ≤ ms ∧
      ms ≤ c.second * 1000 + 1000 ∧ (c.nano < 999500000 → ms < c.second * 1000 + 1000) ∧
      (c.second = 86399 → 999500000 ≤ c.nano → ms = 86400000) := by
  have hlt := c.second_lt
  have hsecond : c.shownSecond = c.second % 60 := by
    rw [Clock.shownSecond, Nat.div_eq_of_lt h, Nat.add_zero]
  have hnano : c.shownNano = c.nano := Nat.mod_eq_of_lt h
  have hparts : c.hour * 3600000 + c.minute * 60000 + c.second % 60 * 1000 = c.second * 1000 := by
    unfold Clock.hour Clock.minute
    omega
  obtain ⟨ds, hfraction, hds, hlen, hvalue⟩ := fractionDigits_fractionText h
  have hsec : c.second % 60 < 60 := Nat.mod_lt _ (by decide)
  obtain ⟨ms, hms, hlow, hhigh, hbelow, habove⟩ := milliseconds?_bounds hsec hds hlen hvalue h
  refine ⟨c.hour * 3600000 + c.minute * 60000 + ms, ?_, ?_⟩
  case refine_2 =>
    have hlast : c.second = 86399 → 999500000 ≤ c.nano →
        ms = c.second % 60 * 1000 + 1000 := by
      intro hend hle
      rcases Nat.eq_or_lt_of_le hle with heq | hgt
      · rw [← heq] at hfraction
        have h59 : c.second % 60 = 59 := by rw [hend]
        rw [h59] at hms ⊢
        rw [milliseconds?_half hfraction hms]
      · exact Nat.le_antisymm hhigh (habove hgt)
    refine ⟨?_, ?_, fun h => ?_, fun hend hle => ?_⟩
    · rw [← hparts]
      exact Nat.add_le_add_left hlow _
    · rw [← hparts, Nat.add_assoc _ _ 1000]
      exact Nat.add_le_add_left hhigh _
    · rw [← hparts, Nat.add_assoc _ _ 1000]
      exact Nat.add_lt_add_left (hbelow h) _
    · rw [hlast hend hle, ← Nat.add_assoc, hparts, hend]
  have htext : Calendar.clockText c = padded 2 c.hour ++ ':' :: (padded 2 c.minute ++
      ':' :: (padded 2 (c.second % 60) ++ Calendar.fractionText c.nano)) := by
    simp [Calendar.clockText, hsecond, hnano]
  have hhour : 0 ≤ c.hour ∧ c.hour ≤ 24 := by
    unfold Clock.hour secondsPerDay at *
    omega
  have hminute : 0 ≤ c.minute ∧ c.minute ≤ 59 := by
    unfold Clock.minute
    omega
  rw [htext]
  unfold time?
  simp [two?_padded hhour, two?_padded hminute, two?_padded ⟨Nat.zero_le _, Nat.le_of_lt_succ hsec⟩,
    mark?, hfraction, hms, offset?, skipSpaces]

end Reading

/-! ## Days of moments -/

section Moments

variable {d : Day} {n now : Int} {ms : Nat}

/-- A moment of a day has the day of that number. -/
theorem ofMoment?_of_lt (hn : 1 ≤ n) (hn' : n ≤ 5373484) (h : ms < 86400000) :
    ofMoment? (n * msPerDay - msPerDay / 2 + ms) =
      some (dayText (Calendar.ofDayNumber n).1 (Calendar.ofDayNumber n).2.1
        (Calendar.ofDayNumber n).2.2) := by
  have hquot : (n * msPerDay - msPerDay / 2 + ms + msPerDay / 2) / msPerDay = n := by
    unfold msPerDay
    omega
  unfold ofMoment?
  rw [if_pos (by unfold msPerDay countEnd; omega), hquot]

theorem exists_ofMoment? (hn : 1 ≤ n) (hn' : n ≤ 5373483) (h : ms ≤ 86400000) :
    ∃ s, ofMoment? (n * msPerDay - msPerDay / 2 + ms) = some s := by
  unfold ofMoment?
  rw [if_pos (by unfold msPerDay countEnd; omega)]
  exact ⟨_, rfl⟩

theorem dayText_eq (h : d.Unsigned) : dayText d.year d.month d.day = Calendar.dayText d := by
  have hsign : ¬d.year < 0 := not_lt.2 h.1
  have habs : d.year.natAbs = d.year.toNat := by
    have := h.1
    omega
  rw [dayText, if_neg hsign, Calendar.dayText, Calendar.yearText_plain h, habs]
  rfl

/-- A stored day with a time that is not past its end is found again. -/
theorem ofMoment?_startOf (h : d.Unsigned) (hms : ms < 86400000 ∨ d.day ≤ 28 ∧ ms ≤ 86400000) :
    ∃ s, ofMoment? (startOf d.year d.month d.day + ms) = some s ∧
      (28 < d.day → s = Calendar.dayText d) := by
  have hle := d.day_le
  obtain ⟨hlow, hhigh⟩ := Calendar.dayNumber_bounds h d.month_mem ⟨d.day_mem.1, hle⟩
  -- Only past the 28th is the day of the moment looked at; before, any will do.
  by_cases hlast : 28 < d.day
  · refine ⟨_, ofMoment?_of_lt (by omega) (by omega) (by omega), fun _ => ?_⟩
    rw [Calendar.ofDayNumber_dayNumber h d.month_mem ⟨hlast, d.day_mem.2⟩, dayText_eq h]
  · obtain ⟨s, hs⟩ := exists_ofMoment? (n := Calendar.dayNumber d.year d.month d.day)
      (by omega) (by omega) (show ms ≤ 86400000 by omega)
    exact ⟨s, hs, fun h => absurd h hlast⟩

/-- The day of a stored day with a time that can be told: past the 28th it is that of the moment. -/
theorem ofText?_dayText {rest time : List Char} (h : d.Unsigned)
    (hrest : (rest.dropWhile fun c => isSpace c || c == 'T') = time)
    (htime : time = [] ∧ ms = 0 ∨ time.isEmpty = false ∧ time? time = some ⟨some ms, none⟩) :
    ofText? now (Calendar.dayText d ++ rest) = (ofMoment? (startOf d.year d.month d.day + ms)).map
      fun s => if 28 < d.day then s else Calendar.dayText d := by
  have hyear : ¬d.year < -4713 := by
    have := h.1
    omega
  have hmoved : ((0 : Int) ≠ 0 ∨ 28 < d.day) = (28 < d.day) := by simp
  have hday : ofDay? (Calendar.dayText d ++ rest) =
      some ((ofMoment? (startOf d.year d.month d.day + ms)).map
        fun s => if 28 < d.day then s else Calendar.dayText d) := by
    unfold ofDay?
    rcases htime with ⟨rfl, rfl⟩ | ⟨hne, htime⟩
    · simp only [dayPart?_dayText h, Option.bind_eq_bind, Option.bind_some, hrest, if_neg hyear,
        List.isEmpty_nil, if_true, Option.getD_none, Int.zero_mul, Int.sub_zero, dayText_eq h,
        hmoved]
      cases ofMoment? _ <;> rfl
    · simp only [dayPart?_dayText h, Option.bind_eq_bind, Option.bind_some, hrest, if_neg hyear,
        hne, Bool.false_eq_true, if_false, htime, Option.getD_none, Int.zero_mul, Int.sub_zero,
        dayText_eq h, hmoved]
      cases ofMoment? _ <;> rfl
  unfold ofText?
  rw [hday]

/-- A stored day with a time that is not past its end has that day. -/
theorem ofText?_dayText_of_le {rest time : List Char} (h : d.Unsigned)
    (hrest : (rest.dropWhile fun c => isSpace c || c == 'T') = time)
    (htime : time = [] ∧ ms = 0 ∨ time.isEmpty = false ∧ time? time = some ⟨some ms, none⟩)
    (hms : ms < 86400000 ∨ d.day ≤ 28 ∧ ms ≤ 86400000) :
    ofText? now (Calendar.dayText d ++ rest) = some (Calendar.dayText d) := by
  obtain ⟨s, hs, hlast⟩ := ofMoment?_startOf h hms
  rw [ofText?_dayText h hrest htime, hs, Option.map_some]
  split
  case isTrue hpast => rw [hlast hpast]
  case isFalse => rfl

theorem dayText_ne {y : Int} {m k : Nat} (hk : k < 10 ^ 2) (hne : k ≠ d.day) :
    dayText y m k ≠ Calendar.dayText d := by
  intro h
  have hends : '-' :: padded 2 k = '-' :: padded 2 d.day := by
    refine List.append_inj_right' h ?_
    simp [Number.length_padded _ hk, Number.length_padded _ (Calendar.day_lt d)]
  have hvalues := congrArg (ofDigits 0) (List.cons.inj hends).2
  rw [Number.ofDigits_padded, Number.ofDigits_padded] at hvalues
  exact hne hvalues

/-- Past the 28th the end of a day is not found in it. -/
theorem ofMoment?_end_ne (h : d.Unsigned) (hlast : 28 < d.day) :
    ofMoment? (startOf d.year d.month d.day + 86400000) ≠ some (Calendar.dayText d) := by
  obtain ⟨hne, hlt⟩ := Calendar.ofDayNumber_dayNumber_succ h d.month_mem ⟨hlast, d.day_mem.2⟩
  have hquot : (startOf d.year d.month d.day + 86400000 + msPerDay / 2) / msPerDay =
      Calendar.dayNumber d.year d.month d.day + 1 := by
    unfold startOf msPerDay
    omega
  unfold ofMoment?
  rw [hquot]
  split
  · exact fun heq => dayText_ne hlt hne (Option.some.inj heq)
  · exact nofun

end Moments

/-! ## Days of stored texts -/

section Stored

variable {d : Day} {t : Instant} {now : Int}

/-- Characters of stored days and times. -/
def isStored (c : Char) : Bool := isDigit c || c == '-' || c == ':' || c == '.'

theorem isSpace_of_isDigit {c : Char} (h : isDigit c = true) : isSpace c = false := by
  obtain ⟨hlow, hhigh, -⟩ := digit_of_isDigit h
  have hspace : c ≠ ' ' := by rintro rfl; exact absurd hlow (by decide)
  have hcontrol : ¬c ≤ '\r' := fun hle => absurd (Nat.le_trans hlow hle) (by decide)
  simp [isSpace, hspace, hcontrol]

theorem isSpace_of_isStored {c : Char} (h : isStored c = true) : isSpace c = false := by
  unfold isStored at h
  simp only [Bool.or_eq_true, beq_iff_eq] at h
  rcases h with ((h | rfl) | rfl) | rfl
  · exact isSpace_of_isDigit h
  all_goals decide

theorem ne_zero_of_isStored {c : Char} (h : isStored c = true) : c ≠ '\x00' := by
  rintro rfl
  exact absurd h (by decide)

theorem isStored_dayText (h : d.Unsigned) : ∀ c ∈ Calendar.dayText d, isStored c = true := by
  intro c hc
  rw [Calendar.dayText, Calendar.yearText_plain h] at hc
  simp only [List.append_assoc, List.cons_append, List.mem_append, List.mem_cons] at hc
  rcases hc with hc | rfl | hc | rfl | hc
  case inl | inr.inr.inl | inr.inr.inr.inr =>
    simp [isStored, Number.isDigit_of_mem_padded hc]
  all_goals decide

theorem isStored_clockText (c : Clock) : ∀ x ∈ Calendar.clockText c, isStored x = true := by
  intro x hx
  have hfraction : x ∈ Calendar.fractionText c.shownNano → isStored x = true := by
    rcases Nat.eq_zero_or_pos c.shownNano with h0 | hpos
    · rw [h0, Calendar.fractionText, if_pos rfl]
      exact fun h => absurd h (List.not_mem_nil)
    · obtain ⟨ds, -, htext, -, hds⟩ := Calendar.exists_fraction hpos
      rw [htext, List.mem_cons]
      rintro (rfl | h)
      · decide
      · simp [isStored, hds x h]
  simp only [Calendar.clockText, List.append_assoc, List.cons_append, List.mem_append,
    List.mem_cons] at hx
  rcases hx with hx | rfl | hx | rfl | hx | hx
  case inr.inr.inr.inr.inr => exact hfraction hx
  case inl | inr.inr.inl | inr.inr.inr.inr.inl =>
    simp [isStored, Number.isDigit_of_mem_padded hx]
  all_goals decide

/-- A stored time begins with a digit, so blanks in front of it end there. -/
theorem dropWhile_clockText (c : Clock) :
    (' ' :: Calendar.clockText c).dropWhile (fun x => isSpace x || x == 'T') =
        Calendar.clockText c ∧ (Calendar.clockText c).isEmpty = false := by
  obtain ⟨x, xs, hx, hdigit⟩ := Number.exists_padded_eq_cons 2 c.hour
  have hmark : x ≠ 'T' := by
    rintro rfl
    exact absurd hdigit (by decide)
  have hkept : (isSpace x || x == 'T') = false := by
    simp [isSpace_of_isDigit hdigit, hmark]
  obtain ⟨rest, htext⟩ : ∃ rest, Calendar.clockText c = x :: rest := by
    simp [Calendar.clockText, hx]
  rw [htext, List.dropWhile_cons_of_pos (by decide), List.dropWhile_cons_of_neg (by simp [hkept])]
  exact ⟨rfl, rfl⟩

/-- The characters of a stored instant: none of them ends the text. -/
theorem ne_zero_of_mem_text (h : t.day.Unsigned) : ∀ c ∈ t.text, c ≠ '\x00' := by
  intro c hc
  rcases List.mem_append.1 hc with hc | hc
  · exact ne_zero_of_isStored (isStored_dayText h c hc)
  · rcases List.mem_cons.1 hc with rfl | hc
    · decide
    · exact ne_zero_of_isStored (isStored_clockText t.clock c hc)

/-! ### Leap seconds -/

theorem two?_padded_of_lt {lo hi n : Nat} (h : hi < n) (hn : n < 100) (rest : List Char) :
    two? lo hi (padded 2 n ++ rest) = none := by
  unfold two?
  rw [Number.number?_padded (by decide) hn]
  exact if_neg fun hle => absurd hle.2 (Nat.not_le.2 h)

/-- The second 60 is not read. -/
theorem time?_clockText_leap {c : Clock} (h : nanosPerSecond ≤ c.nano) :
    time? (Calendar.clockText c) = none := by
  have hsecond : c.shownSecond = 60 := by
    have := c.leap h
    have := c.nano_lt
    unfold Clock.shownSecond nanosPerSecond at *
    omega
  have hhour : 0 ≤ c.hour ∧ c.hour ≤ 24 := by
    have := c.second_lt
    unfold Clock.hour secondsPerDay at *
    omega
  have hminute : 0 ≤ c.minute ∧ c.minute ≤ 59 := by
    unfold Clock.minute
    omega
  have htext : Calendar.clockText c = padded 2 c.hour ++ ':' :: (padded 2 c.minute ++
      ':' :: (padded 2 60 ++ Calendar.fractionText c.shownNano)) := by
    simp [Calendar.clockText, hsecond]
  rw [htext]
  unfold time?
  simp [two?_padded hhour, two?_padded hminute, mark?,
    two?_padded_of_lt (show 59 < 60 by decide) (by decide)]

/-- No time begins with the four digits of a year. -/
theorem time?_dayText (h : d.Unsigned) (rest : List Char) :
    time? (Calendar.dayText d ++ rest) = none := by
  have hlen : (padded 4 d.year.toNat).length = 4 := by
    refine Number.length_padded (by decide) ?_
    have := h.2
    omega
  obtain ⟨a, b, x, y, htext⟩ : ∃ a b x y, padded 4 d.year.toNat = [a, b, x, y] := by
    rcases hp : padded 4 d.year.toNat with _ | ⟨a, _ | ⟨b, _ | ⟨x, _ | ⟨y, _ | ⟨z, zs⟩⟩⟩⟩⟩ <;>
      simp [hp] at hlen ⊢
  have hdigits : ∀ c ∈ [a, b, x, y], isDigit c = true := fun c hc =>
    Number.isDigit_of_mem_padded (htext ▸ hc)
  simp only [List.forall_mem_cons] at hdigits
  obtain ⟨ha, hb, hx, -⟩ := hdigits
  have hcolon : x ≠ ':' := by
    rintro rfl
    exact absurd hx (by decide)
  rw [Calendar.dayText_append, Calendar.yearText_plain h, htext]
  unfold time? two?
  by_cases hhour : ofDigits 0 [a, b] ≤ 24
  · simp [number?, takeDigits, ha, hb, hhour, mark?, hcolon]
  · simp [number?, takeDigits, ha, hb, hhour]

/-- A stored day with more behind it is not read as a number. -/
theorem read?_dayText (h : d.Unsigned) (rest : List Char) :
    Binary64.read? (Calendar.dayText d ++ rest) = none := by
  obtain ⟨x, xs, hx, hdigit⟩ := Number.exists_padded_eq_cons 4 d.year.toNat
  obtain ⟨tail, htail⟩ : ∃ tail, Calendar.dayText d ++ rest = x :: (xs ++ '-' :: tail) := by
    rw [Calendar.dayText_append, Calendar.yearText_plain h, hx]
    exact ⟨_, rfl⟩
  have hdigits : ∀ c ∈ x :: xs, isDigit c = true := fun c hc =>
    Number.isDigit_of_mem_padded (hx ▸ hc)
  have htake : takeDigits (x :: (xs ++ '-' :: tail)).length (x :: (xs ++ '-' :: tail)) =
      (x :: xs, '-' :: tail) :=
    Number.takeDigits_append_of_le (by rintro c ⟨⟩; decide) hdigits (by simp)
  have hminus : x ≠ '-' := by rintro rfl; exact absurd hdigit (by decide)
  have hplus : x ≠ '+' := by rintro rfl; exact absurd hdigit (by decide)
  have hunsigned : Number.unsigned? false (x :: (xs ++ '-' :: tail)) = none := by
    unfold Number.unsigned?
    simp only [htake]
    rfl
  rw [htail]
  unfold Binary64.read?
  simp [hminus, hplus, hunsigned]

/-- A stored instant begins with a digit. -/
theorem exists_text_eq_cons (h : t.day.Unsigned) :
    ∃ x rest, t.text = x :: rest ∧ isDigit x = true := by
  obtain ⟨x, xs, hx, hdigit⟩ := Number.exists_padded_eq_cons 4 t.day.year.toNat
  rw [Instant.text, Calendar.dayText_append, Calendar.yearText_plain h, hx]
  exact ⟨x, _, rfl, hdigit⟩

/-- No word for the present begins with a digit. -/
theorem isPresent_text (h : t.day.Unsigned) : isPresent t.text = false := by
  obtain ⟨x, rest, htext, hdigit⟩ := exists_text_eq_cons h
  have hletter : ∀ word ∈ presentWords, word.toList.head?.any isDigit = false := by decide
  refine List.any_eq_false.2 fun word hword hsame => ?_
  have hhead : word.toList.head? = some x := by
    rw [← beq_iff_eq.1 hsame, htext, List.map_cons, Number.foldCase_of_isDigit hdigit]
    rfl
  have hany := hletter word hword
  rw [hhead, Option.any_some, hdigit] at hany
  cases hany

/-- Neither end of a stored instant is blank. -/
theorem trimmed_text (h : t.day.Unsigned) :
    ((skipSpaces t.text).reverse.dropWhile isSpace).reverse = t.text := by
  obtain ⟨x, tail, hfront, hdigit⟩ := exists_text_eq_cons h
  obtain ⟨init, z, hlast⟩ : ∃ init z, Calendar.clockText t.clock = init ++ [z] :=
    (List.eq_nil_or_concat' _).resolve_left
      fun hnil => by simpa [hnil] using (dropWhile_clockText t.clock).2
  have hz : isSpace z = false := isSpace_of_isStored
    (isStored_clockText t.clock z (hlast ▸ List.mem_append_right init List.mem_cons_self))
  obtain ⟨back, hback⟩ : ∃ back, t.text.reverse = z :: back := by
    rw [Instant.text, hlast]
    simp
  have hskip : skipSpaces t.text = t.text := by
    rw [hfront, skipSpaces, List.dropWhile_cons_of_neg (by simp [isSpace_of_isDigit hdigit])]
  rw [hskip, hback, List.dropWhile_cons_of_neg (by simp [hz]), ← hback, List.reverse_reverse]

theorem ofText?_leap (h : t.day.Unsigned) (hleap : nanosPerSecond ≤ t.clock.nano) :
    ofText? now t.text = none := by
  obtain ⟨hdrop, hne⟩ := dropWhile_clockText t.clock
  have hday : ofDay? t.text = none := by
    unfold ofDay? Instant.text
    simp only [dayPart?_dayText h, Option.bind_eq_bind, Option.bind_some, hdrop, hne,
      Bool.false_eq_true, if_false, time?_clockText_leap hleap, Option.bind_none]
  have htime : time? t.text = none := time?_dayText h _
  have hcount : count? t.text = none := by
    unfold count?
    simp only [trimmed_text h]
    split
    · exact read?_dayText h _
    · rfl
  unfold ofText?
  rw [hday, htime, isPresent_text h, hcount]
  rfl

end Stored

end RowSieve.Sql.DayOf

namespace RowSieve

open RowSieve.Sql RowSieve.Sql.DayOf

/-- Whether an instant shows in its day: its second is not a leap second, and past the 28th of a
month a fraction of the day's last second is not rounded up to the next day. -/
def Instant.KeepsDay (t : Instant) : Prop :=
  t.clock.nano < nanosPerSecond ∧
    (t.day.day ≤ 28 ∨ t.clock.second + 1 < secondsPerDay ∨ t.clock.nano < 999500000)

instance (t : Instant) : Decidable t.KeepsDay := inferInstanceAs (Decidable (_ ∧ _))

namespace Sql.Cell

variable {now : Int}

theorem day_text {s : List Char} (hs : ∀ c ∈ s, c ≠ '\x00') :
    (text (String.ofList s)).day now =
      match ofText? now s with
      | some d => text (String.ofList d)
      | none => null := by
  have hchars : untilZero (String.ofList s).toList = s := by
    rw [String.toList_ofList]
    exact List.takeWhile_eq_self_iff.2 fun c hc => decide_eq_true (hs c hc)
  unfold day
  dsimp only
  rewrite [hchars]
  cases ofText? now s <;> rfl

/-- A stored day is its own day. -/
theorem day_stored {d : Day} (h : d.Unsigned) : (text d.stored).day now = text d.stored := by
  have hmidnight : 0 < 86400000 ∨ d.day ≤ 28 ∧ 0 ≤ 86400000 := .inl (by decide)
  have hread := @ofText?_dayText_of_le d now 0 [] [] h rfl (.inl ⟨rfl, rfl⟩) hmidnight
  rw [List.append_nil] at hread
  rw [Day.stored, day_text fun c hc => ne_zero_of_isStored (isStored_dayText h c hc), hread]

/-- A stored instant has the day it is stored with. -/
theorem day_stored_instant {t : Instant} (h : t.day.Unsigned) (hk : t.KeepsDay) :
    (text t.stored).day now = text t.day.stored := by
  obtain ⟨ms, htime, hlow, hhigh, hsharp, -⟩ := time?_clockText hk.1
  obtain ⟨hdrop, hne⟩ := dropWhile_clockText t.clock
  have hsecond := t.clock.second_lt
  have hms : ms < 86400000 ∨ t.day.day ≤ 28 ∧ ms ≤ 86400000 := by
    have hkeeps := hk.2
    unfold secondsPerDay at *
    rcases hkeeps with hday | hbefore | hnano
    · exact .inr ⟨hday, by omega⟩
    · exact .inl (by omega)
    · have := hsharp hnano
      exact .inl (by omega)
  have hread : ofText? now t.text = some (Calendar.dayText t.day) :=
    ofText?_dayText_of_le h hdrop (.inr ⟨hne, htime⟩) hms
  have htext := @day_text now t.text (ne_zero_of_mem_text h)
  rw [hread] at htext
  exact htext

/-- An instant whose fraction is rounded up to the next day is not stored with its day. -/
theorem ofText?_text_ne {t : Instant} (h : t.day.Unsigned) (hlast : 28 < t.day.day)
    (hsecond : t.clock.second = 86399) (hlow : 999500000 ≤ t.clock.nano)
    (hnano : t.clock.nano < nanosPerSecond) :
    ofText? now t.text ≠ some (Calendar.dayText t.day) := by
  obtain ⟨ms, htime, -, -, -, hend⟩ := time?_clockText hnano
  obtain rfl := hend hsecond hlow
  obtain ⟨hdrop, hne⟩ := dropWhile_clockText t.clock
  have hread := @ofText?_dayText t.day now _ _ _ h hdrop (.inr ⟨hne, htime⟩)
  simp only [hlast, if_true, Option.map_id'] at hread
  exact fun heq => ofMoment?_end_ne h hlast (hread.symm.trans heq)

/-- A stored leap second has no day. -/
theorem day_stored_leap {t : Instant} (h : t.day.Unsigned) (hleap : nanosPerSecond ≤ t.clock.nano) :
    (text t.stored).day now = null := by
  have htext := @day_text now t.text (ne_zero_of_mem_text h)
  rw [ofText?_leap h hleap] at htext
  exact htext

/-- Just the instants that show in their day are found in it. -/
theorem day_stored_instant_iff {t : Instant} (h : t.day.Unsigned) :
    (text t.stored).day now = text t.day.stored ↔ t.KeepsDay := by
  refine ⟨fun hday => ?_, day_stored_instant h⟩
  by_cases hleap : nanosPerSecond ≤ t.clock.nano
  · rw [day_stored_leap h hleap] at hday
    cases hday
  · by_contra hnot
    have hsecond := t.clock.second_lt
    have hpast : 28 < t.day.day ∧ t.clock.second = 86399 ∧ 999500000 ≤ t.clock.nano := by
      unfold Instant.KeepsDay secondsPerDay at *
      omega
    have htext : (text t.stored).day now = match ofText? now t.text with
        | some d => text (String.ofList d)
        | none => null := day_text (ne_zero_of_mem_text h)
    refine @ofText?_text_ne now t h hpast.1 hpast.2.1 hpast.2.2 (Nat.not_le.1 hleap) ?_
    rw [hday] at htext
    cases hread : ofText? now t.text with
    | none =>
      rw [hread] at htext
      cases htext
    | some d =>
      rw [hread] at htext
      exact congrArg some (String.ofList_injective (Cell.text.inj htext)).symm

end Sql.Cell

end RowSieve
