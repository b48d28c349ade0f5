/-
Stored days and instants stand in the order of time. Where years are written without a sign every
field has its width, a leap second is the sixtieth of its minute, and a fraction that ends sooner
comes first; so texts compare as days do, and as instants do. A minus comes before all digits, so
a year before the year 0 compares with these as well; but with another one it compares the wrong
way, and so does a plus with all that has none.
-/
import RowSieve.Calendar.Storage
import RowSieve.Proofs.Calendar.DayCount
import RowSieve.Proofs.Number.Padded
import RowSieve.Proofs.Sql.Order

namespace RowSieve

open RowSieve.Calendar
open RowSieve.Number (padded padded_lt padded_append_lt length_padded)
open RowSieve.Sql.Cell (compareTexts compares_texts)

/-! ## The order of time -/

theorem Day.ext_fields {a b : Day} (hy : a.year = b.year) (hm : a.month = b.month)
    (hd : a.day = b.day) : a = b := by
  cases a; cases b; cases hy; cases hm; cases hd; rfl

theorem Day.eq_or_before (a b : Day) : a = b ∨ a.before b ∨ b.before a := by
  by_cases h : a.year = b.year ∧ a.month = b.month ∧ a.day = b.day
  · exact .inl (ext_fields h.1 h.2.1 h.2.2)
  · unfold before
    omega

theorem Instant.ext_fields {s t : Instant} (hd : s.day = t.day)
    (hs : s.clock.second = t.clock.second) (hn : s.clock.nano = t.clock.nano) : s = t := by
  obtain ⟨day, clock⟩ := s
  obtain ⟨day', clock'⟩ := t
  cases hd
  cases clock; cases clock'; cases hs; cases hn; rfl

theorem Instant.eq_or_before (s t : Instant) : s = t ∨ s.before t ∨ t.before s := by
  rcases Day.eq_or_before s.day t.day with hd | hd | hd
  · by_cases h : s.clock.second = t.clock.second ∧ s.clock.nano = t.clock.nano
    · exact .inl (ext_fields hd h.1 h.2)
    · right
      simp only [before, hd, true_and]
      omega
  · exact .inr (.inl (.inl hd))
  · exact .inr (.inr (.inl hd))

/-- How two days compare. -/
def Day.order (a b : Day) : Ordering := if a = b then .eq else if a.before b then .lt else .gt

theorem Day.order_self (d : Day) : d.order d = .eq := if_pos rfl

instance (s t : Instant) : Decidable (s.before t) :=
  inferInstanceAs (Decidable (_ ∨ _ ∧ (_ ∨ _ ∧ _)))

/-- How two instants compare. -/
def Instant.order (s t : Instant) : Ordering :=
  if s = t then .eq else if s.before t then .lt else .gt

theorem Clock.fields_le (c : Clock) :
    c.hour ≤ 23 ∧ c.minute ≤ 59 ∧ c.shownSecond ≤ 60 ∧ c.shownNano < nanosPerSecond := by
  have hs := c.second_lt
  have hn := c.nano_lt
  simp only [hour, minute, shownSecond, shownNano, secondsPerDay, nanosPerSecond] at *
  omega

/-- Whether the year is written without a sign, in four digits. -/
def Day.Unsigned (d : Day) : Prop := 0 ≤ d.year ∧ d.year ≤ 9999

instance (d : Day) : Decidable d.Unsigned := inferInstanceAs (Decidable (_ ∧ _))

/-- Whether the years are the same, or neither is past 9999 and at most one lies before the
year 0. -/
def Day.Comparable (a b : Day) : Prop :=
  a.year = b.year ∨ a.year ≤ 9999 ∧ b.year ≤ 9999 ∧ (0 ≤ a.year ∨ 0 ≤ b.year)

instance (a b : Day) : Decidable (a.Comparable b) := inferInstanceAs (Decidable (_ ∨ _))

/-- Whether just one year is past 9999, or the years are two of four digits before the year 0. -/
def Day.Clash (a b : Day) : Prop :=
  (a.year ≤ 9999 ↔ 9999 < b.year) ∨
    a.year ≠ b.year ∧ (-9999 ≤ a.year ∧ a.year < 0) ∧ -9999 ≤ b.year ∧ b.year < 0

instance (a b : Day) : Decidable (a.Clash b) := inferInstanceAs (Decidable (_ ∨ _))

theorem Day.Comparable.symm {a b : Day} (h : a.Comparable b) : b.Comparable a := by
  unfold Comparable at *
  omega

theorem Day.Clash.symm {a b : Day} (h : a.Clash b) : b.Clash a := by
  unfold Clash at *
  omega

theorem Day.Clash.year_ne {a b : Day} (h : a.Clash b) : a.year ≠ b.year := by
  unfold Clash at h
  omega

namespace Calendar

/-! ## Years -/

section Years

variable {y z : Int} {v w : List Char}

theorem yearText_plain (h : 0 ≤ y ∧ y ≤ 9999) : yearText y = padded 4 y.toNat := if_pos h

theorem yearText_minus (h : y < 0) : yearText y = '-' :: padded 4 y.natAbs := by
  rw [yearText, if_neg (by omega), if_pos h]

theorem yearText_plus (h : 9999 < y) : yearText y = '+' :: padded 4 y.natAbs := by
  rw [yearText, if_neg (by omega), if_neg (by omega)]

/-- A sign comes before every digit. -/
theorem sign_lt_yearText {c : Char} (hc : c < '0') (h : 0 ≤ y ∧ y ≤ 9999) :
    c :: v < yearText y ++ w := by
  obtain ⟨d, ds, hd, hdigit⟩ := Number.exists_padded_eq_cons 4 y.toNat
  rw [yearText_plain h, hd, List.cons_append]
  exact List.cons_lt_cons_iff.2 (.inl (lt_of_lt_of_le hc (Number.zero_le_of_isDigit hdigit)))

theorem yearText_append_lt (hz : z ≤ 9999) (hsign : 0 ≤ y ∨ 0 ≤ z) (h : y < z) :
    yearText y ++ v < yearText z ++ w := by
  have hplain : 0 ≤ z ∧ z ≤ 9999 := by omega
  by_cases hy : y < 0
  · rw [yearText_minus hy]
    exact sign_lt_yearText (by decide) hplain
  · have hyplain : 0 ≤ y ∧ y ≤ 9999 := by omega
    rw [yearText_plain hyplain, yearText_plain hplain]
    exact padded_append_lt (by decide) (by omega) (.inl (by omega))

/-- A plus comes before a minus and before every digit. -/
theorem yearText_append_lt_of_plus (hy : y ≤ 9999) (hz : 9999 < z) :
    yearText z ++ w < yearText y ++ v := by
  rw [yearText_plus hz]
  by_cases h : y < 0
  · rw [yearText_minus h]
    exact List.cons_lt_cons_iff.2 (.inl (by decide))
  · exact sign_lt_yearText (by decide) ⟨by omega, hy⟩

/-- Behind a minus the later year has the smaller number. -/
theorem yearText_append_lt_of_minus (hy : -9999 ≤ y) (h : y < z) (hz : z < 0) :
    yearText z ++ w < yearText y ++ v := by
  have hyminus : y < 0 := by omega
  rw [yearText_minus hz, yearText_minus hyminus]
  exact List.cons_lt_cons_self.2 (padded_append_lt (by decide) (by omega) (.inl (by omega)))

end Years

/-! ## Days -/

section Days

variable {a b : Day} {v w : List Char}

theorem month_lt (d : Day) : d.month < 10 ^ 2 := by
  have := d.month_mem
  omega

theorem day_lt (d : Day) : d.day < 10 ^ 2 := by
  have := d.day_le
  omega

theorem dayText_append (d : Day) (v : List Char) : dayText d ++ v =
    yearText d.year ++ '-' :: (padded 2 d.month ++ '-' :: (padded 2 d.day ++ v)) := by
  simp [dayText]

/-- Of one year, month and day decide. -/
theorem monthText_lt (h : a.month < b.month ∨ a.month = b.month ∧ a.day < b.day) :
    padded 2 a.month ++ '-' :: (padded 2 a.day ++ v) <
      padded 2 b.month ++ '-' :: (padded 2 b.day ++ w) := by
  refine padded_append_lt (by decide) (month_lt b) (h.imp_right fun ⟨hm, hd⟩ => ⟨hm, ?_⟩)
  exact List.cons_lt_cons_self.2 (padded_append_lt (by decide) (day_lt b) (.inl hd))

theorem dayText_append_lt (hc : a.Comparable b) (h : a.before b) :
    dayText a ++ v < dayText b ++ w := by
  rw [dayText_append, dayText_append]
  rcases h with hy | ⟨hy, h⟩
  · obtain heq | ⟨-, hb, hsign⟩ := hc
    · omega
    · exact yearText_append_lt hb hsign hy
  · rw [hy]
    exact List.append_left_lt (List.cons_lt_cons_self.2 (monthText_lt h))

theorem dayText_append_lt_of_clash (hc : a.Clash b) (h : a.before b) :
    dayText b ++ w < dayText a ++ v := by
  have hlt : a.year < b.year := by
    have := hc.year_ne
    unfold Day.before at h
    omega
  rw [dayText_append, dayText_append]
  rcases hc with hpast | ⟨-, ha, hb⟩
  · exact yearText_append_lt_of_plus (by omega) (by omega)
  · exact yearText_append_lt_of_minus ha.1 hlt hb.2

end Days

/-! ## Fractions -/

section Fractions

variable {m n : Nat}

/-- A fraction in nine digits is the digits that are written and zeros. -/
theorem exists_fraction (hn : 0 < n) : ∃ s k, fractionText n = '.' :: s ∧
    s ++ List.replicate k '0' = padded 9 n ∧ ∀ c ∈ s, Number.isDigit c = true := by
  unfold fractionText
  rw [if_neg (by omega)]
  split
  · refine ⟨_, 6, rfl, ?_, fun c => Number.isDigit_of_mem_padded⟩
    have hzeros : n / 1000000 * 10 ^ 6 = n := by omega
    rw [← Number.padded_mul_pow (by decide), hzeros]
  · split
    · refine ⟨_, 3, rfl, ?_, fun c => Number.isDigit_of_mem_padded⟩
      have hzeros : n / 1000 * 10 ^ 3 = n := by omega
      rw [← Number.padded_mul_pow (by decide), hzeros]
    · exact ⟨_, 0, rfl, by simp, fun c => Number.isDigit_of_mem_padded⟩

/-- The digits of a fraction, with the zeros that are left out, are its nanoseconds. -/
theorem exists_fraction_digits (hpos : 0 < n) (hn : n < nanosPerSecond) :
    ∃ ds, fractionText n = '.' :: ds ∧ (∀ c ∈ ds, Number.isDigit c = true) ∧ ds ≠ [] ∧
      ds.length ≤ 9 ∧ Number.ofDigits 0 ds * 10 ^ (9 - ds.length) = n := by
  obtain ⟨ds, k, htext, hzeros, hds⟩ := exists_fraction hpos
  have hlen := congrArg List.length hzeros
  rw [List.length_append, List.length_replicate, length_padded (by decide) hn] at hlen
  have hvalue := congrArg (Number.ofDigits 0) hzeros
  rw [Number.ofDigits_append, Number.ofDigits_zeros, Number.ofDigits_padded] at hvalue
  have hne : ds ≠ [] := by
    rintro rfl
    rw [Number.ofDigits, Nat.zero_mul] at hvalue
    omega
  exact ⟨ds, htext, hds, hne, by omega, by rw [show 9 - ds.length = k by omega, hvalue]⟩

theorem fractionText_lt (hn : n < nanosPerSecond) (h : m < n) :
    fractionText m < fractionText n := by
  obtain ⟨t, j, ht, htj, -⟩ := exists_fraction (n := n) (by omega)
  by_cases hm : m = 0
  · rw [hm, ht, fractionText, if_pos rfl]
    exact List.nil_lt_cons _ _
  · obtain ⟨s, i, hs, hsi, hdigits⟩ := exists_fraction (n := m) (by omega)
    have hlt : padded 9 m < padded 9 n := padded_lt (by decide) hn h
    have hlen := congrArg List.length hsi
    have hlen' := congrArg List.length htj
    rw [length_padded (by decide) (h.trans hn), List.length_append, List.length_replicate] at hlen
    rw [length_padded (by decide) hn, List.length_append, List.length_replicate] at hlen'
    rw [← hsi, ← htj] at hlt
    rw [hs, ht]
    exact List.cons_lt_cons_self.2 (Number.lt_of_append_zeros
      (fun c hc => Number.zero_le_of_isDigit (hdigits c hc)) (by omega) hlt)

end Fractions

/-! ## Times of day -/

section Clocks

variable {c c' : Clock}

theorem clock_fields_lt (c : Clock) : c.hour < 10 ^ 2 ∧ c.minute < 10 ^ 2 ∧
    c.shownSecond < 10 ^ 2 ∧ c.shownNano < nanosPerSecond := by
  obtain ⟨hhour, hminute, hsecond, hnano⟩ := c.fields_le
  exact ⟨by omega, by omega, by omega, hnano⟩

/-- A leap second is shown as the sixtieth, which no other second of its minute comes behind. -/
theorem clockText_lt
    (h : c.second < c'.second ∨ c.second = c'.second ∧ c.nano < c'.nano) :
    clockText c < clockText c' := by
  obtain ⟨hh, hm, hs, hn⟩ := clock_fields_lt c'
  have hleap := c.leap
  have hnano := c'.nano_lt
  simp only [clockText, List.append_assoc, List.cons_append]
  simp only [Clock.hour, Clock.minute, Clock.shownSecond, Clock.shownNano, nanosPerSecond] at *
  -- The first of the fields that differ decides; the nanoseconds of a leap second are not shown as
  -- they are counted, but only other leap seconds share its field of seconds.
  refine padded_append_lt (by decide) hh ?_
  by_cases hh' : c.second / 3600 = c'.second / 3600
  · refine .inr ⟨hh', List.cons_lt_cons_self.2 (padded_append_lt (by decide) hm ?_)⟩
    by_cases hm' : c.second / 60 % 60 = c'.second / 60 % 60
    · refine .inr ⟨hm', List.cons_lt_cons_self.2 (padded_append_lt (by decide) hs ?_)⟩
      by_cases hs' : c.second % 60 + c.nano / 1000000000 = c'.second % 60 + c'.nano / 1000000000
      · exact .inr ⟨hs', fractionText_lt hn (by omega)⟩
      · exact .inl (by omega)
    · exact .inl (by omega)
  · exact .inl (by omega)

end Clocks

end Calendar

/-! ## Stored texts -/

theorem compareTexts_of_lt {s t : List Char} (h : s < t) :
    compareTexts (String.ofList s) (String.ofList t) = .lt ∧
      compareTexts (String.ofList t) (String.ofList s) = .gt := by
  have hst := compares_texts (String.ofList s) (String.ofList t)
  have hts := compares_texts (String.ofList t) (String.ofList s)
  simp only [String.toList_ofList] at hst hts
  exact ⟨hst.eq_lt.2 h, hts.eq_gt.2 h⟩

theorem compareTexts_self (s : String) : compareTexts s s = .eq := if_pos rfl

theorem Day.not_before_of_before {a b : Day} (h : a.before b) : ¬ b.before a ∧ a ≠ b := by
  refine ⟨?_, ?_⟩
  · unfold before at *
    omega
  · rintro rfl
    unfold before at h
    omega

theorem Instant.not_before_of_before {s t : Instant} (h : s.before t) : ¬ t.before s ∧ s ≠ t := by
  rcases h with h | ⟨hd, hc⟩
  · obtain ⟨hnot, hne⟩ := Day.not_before_of_before h
    refine ⟨fun h' => ?_, fun he => hne (congrArg Instant.day he)⟩
    rcases h' with h' | ⟨hd, -⟩
    · exact hnot h'
    · exact hne hd.symm
  · refine ⟨fun h' => ?_, ?_⟩
    · rcases h' with h' | ⟨-, hc'⟩
      · exact (Day.not_before_of_before h').2 hd.symm
      · omega
    · rintro rfl
      omega

theorem Day.order_cases (a b : Day) : a.order b = .eq ∧ a = b ∨ a.order b = .lt ∧ a.before b ∨
    a.order b = .gt ∧ b.before a := by
  unfold order
  rcases eq_or_before a b with h | h | h
  · exact .inl ⟨if_pos h, h⟩
  · rw [if_neg (not_before_of_before h).2, if_pos h]
    exact .inr (.inl ⟨rfl, h⟩)
  · rw [if_neg (not_before_of_before h).2.symm, if_neg (not_before_of_before h).1]
    exact .inr (.inr ⟨rfl, h⟩)

theorem Instant.order_cases (s t : Instant) : s.order t = .eq ∧ s = t ∨
    s.order t = .lt ∧ s.before t ∨ s.order t = .gt ∧ t.before s := by
  unfold order
  rcases eq_or_before s t with h | h | h
  · exact .inl ⟨if_pos h, h⟩
  · rw [if_neg (not_before_of_before h).2, if_pos h]
    exact .inr (.inl ⟨rfl, h⟩)
  · rw [if_neg (not_before_of_before h).2.symm, if_neg (not_before_of_before h).1]
    exact .inr (.inr ⟨rfl, h⟩)

section Stored

variable {a b : Day} {s t : Instant}

/-- Stored days compare as the days do. -/
theorem Day.compareTexts_stored (hc : a.Comparable b) :
    compareTexts a.stored b.stored = a.order b := by
  have hlt {a b : Day} (hc : a.Comparable b) (h : a.before b) : dayText a < dayText b := by
    simpa using @dayText_append_lt a b [] [] hc h
  rcases Day.order_cases a b with ⟨ho, rfl⟩ | ⟨ho, h⟩ | ⟨ho, h⟩
  · rw [ho, compareTexts_self]
  · rw [ho]
    exact (compareTexts_of_lt (hlt hc h)).1
  · rw [ho]
    exact (compareTexts_of_lt (hlt hc.symm h)).2

/-- Stored days whose signs clash compare the other way. -/
theorem Day.compareTexts_stored_of_clash (hc : a.Clash b) :
    compareTexts a.stored b.stored = (a.order b).swap := by
  have hlt {a b : Day} (hc : a.Clash b) (h : a.before b) : dayText b < dayText a := by
    simpa using @dayText_append_lt_of_clash a b [] [] hc h
  rcases Day.order_cases a b with ⟨ho, rfl⟩ | ⟨ho, h⟩ | ⟨ho, h⟩
  · exact absurd rfl hc.year_ne
  · rw [ho]
    exact (compareTexts_of_lt (hlt hc h)).2
  · rw [ho]
    exact (compareTexts_of_lt (hlt hc.symm h)).1

/-- The text of an instant. -/
def Instant.text (t : Instant) : List Char := dayText t.day ++ ' ' :: clockText t.clock

theorem Instant.text_lt (hc : s.day.Comparable t.day) (h : s.before t) : s.text < t.text := by
  unfold text
  rcases h with h | ⟨hd, h⟩
  · exact dayText_append_lt hc h
  · rw [hd]
    exact List.append_left_lt (List.cons_lt_cons_self.2 (clockText_lt h))

/-- Stored instants compare as the instants do. -/
theorem Instant.compareTexts_stored (hc : s.day.Comparable t.day) :
    compareTexts s.stored t.stored = s.order t := by
  rcases Instant.order_cases s t with ⟨ho, rfl⟩ | ⟨ho, h⟩ | ⟨ho, h⟩
  · rw [ho, compareTexts_self]
  · rw [ho]
    exact (compareTexts_of_lt (text_lt hc h)).1
  · rw [ho]
    exact (compareTexts_of_lt (text_lt hc.symm h)).2

theorem Instant.text_lt_of_clash (hc : s.day.Clash t.day) (h : s.before t) : t.text < s.text := by
  rcases h with h | ⟨hd, -⟩
  · exact dayText_append_lt_of_clash hc h
  · exact absurd (congrArg Day.year hd) hc.year_ne

/-- Stored instants of days whose signs clash compare the other way. -/
theorem Instant.compareTexts_stored_of_clash (hc : s.day.Clash t.day) :
    compareTexts s.stored t.stored = (s.order t).swap := by
  rcases Instant.order_cases s t with ⟨ho, rfl⟩ | ⟨ho, h⟩ | ⟨ho, h⟩
  · exact absurd rfl hc.year_ne
  · rw [ho]
    exact (compareTexts_of_lt (text_lt_of_clash hc h)).2
  · rw [ho]
    exact (compareTexts_of_lt (text_lt_of_clash hc.symm h)).1

end Stored

end RowSieve
