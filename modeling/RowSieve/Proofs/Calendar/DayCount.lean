/-
Days found again from their numbers. From the year 0 to the year 9999 the last days of each month,
which are the ones that are looked up by number, are found again as they were counted.
-/
import RowSieve.Calendar.Day

namespace RowSieve.Calendar

/-! ## Quotients towards zero -/

theorem tdiv_bounds (x : Int) {b : Int} (hb : 0 < b) :
    (0 ≤ x → b * x.tdiv b ≤ x ∧ x < b * x.tdiv b + b) ∧
      (x < 0 → b * x.tdiv b - b < x ∧ x ≤ b * x.tdiv b) := by
  have hmul := Int.mul_tdiv_add_tmod x b
  constructor
  · intro hx
    have hnonneg := Int.tmod_nonneg b hx
    have hlt := Int.tmod_lt_of_pos x hb
    omega
  · intro hx
    have hnonneg := Int.tmod_nonneg b (a := -x) (by omega)
    have hlt := Int.tmod_lt_of_pos (-x) hb
    rw [Int.neg_tmod] at hnonneg hlt
    omega

/-- How days are numbered from the year 0 to the year 9999. -/
theorem dayNumber_bounds {y : Int} {m d : Nat} (hy : 0 ≤ y ∧ y ≤ 9999) (hm : 1 ≤ m ∧ m ≤ 12)
    (hd : 1 ≤ d ∧ d ≤ 31) : 1721060 ≤ dayNumber y m d ∧ dayNumber y m d ≤ 5373453 + d := by
  obtain ⟨shifted, hs⟩ : ∃ s, s = if m ≤ 2 then y - 1 else y := ⟨_, rfl⟩
  obtain ⟨hnonneg, hneg⟩ := tdiv_bounds shifted (b := 100) (by decide)
  obtain ⟨hnonneg4, hneg4⟩ := tdiv_bounds (shifted.tdiv 100) (b := 4) (by decide)
  simp only [dayNumber]
  rw [← hs]
  split <;> rename_i h <;> simp only [h, if_true, if_false] at hs <;> omega

/-! ## Counting from March -/

/-- The number of a day counted from March: `a` centuries and `r` years have gone by, and `e` days
of the year, of which the first 122 are none. -/
def numberFromMarch (a r e : Int) : Int :=
  36525 * (100 * a + r + 4716) / 100 + e + (2 - a + a / 4) - 1524

section March

variable {a r e : Int}

theorem numberFromMarch_eq : numberFromMarch a r e =
    36525 * a + 365 * r + r / 4 + e - a + a / 4 + 1720997 := by
  unfold numberFromMarch
  omega

/-- The number lies strictly between those with which two centuries begin. -/
theorem numberFromMarch_bounds (hr : 0 ≤ r ∧ r ≤ 99) (he : 151 ≤ e ∧ e ≤ 488)
    (hleap : e = 488 → r = 99 → a % 4 = 3) :
    146097 * (a - 4) < 4 * numberFromMarch a r e - 7468865 ∧
      4 * numberFromMarch a r e - 7468865 < 146097 * (a - 3) := by
  rw [numberFromMarch_eq]
  omega

/-- The number shows how many centuries have gone by. -/
theorem tdiv_century {x : Int} (hlow : 146097 * (a - 4) < x) (hhigh : x < 146097 * (a - 3)) :
    x.tdiv 146097 = if 4 ≤ a then a - 4 else a - 3 := by
  obtain ⟨hnonneg, hneg⟩ := tdiv_bounds x (b := 146097) (by decide)
  split <;> omega

/-- The next number may show one century more. -/
theorem tdiv_century_succ {x : Int} (hlow : 146097 * (a - 4) < x)
    (hhigh : x < 146097 * (a - 3)) :
    4 ≤ a ∧ (x + 4).tdiv 146097 = a - 4 ∨ (x + 4).tdiv 146097 = a - 3 ∨
      a < 4 ∧ (x + 4).tdiv 146097 = a - 2 := by
  obtain ⟨hnonneg, hneg⟩ := tdiv_bounds (x + 4) (b := 146097) (by decide)
  omega

/-- So the leap days that centuries leave out are put back. -/
theorem leapDays_put_back (ha : 0 ≤ a) (hr : 0 ≤ r ∧ r ≤ 99) (he : 151 ≤ e ∧ e ≤ 488)
    (hleap : e = 488 → r = 99 → a % 4 = 3) :
    let century := (4 * numberFromMarch a r e - 7468865).tdiv 146097
    numberFromMarch a r e + 1 + century - century.tdiv 4 + 1524 =
      36525 * (100 * a + r + 4716) / 100 + e := by
  obtain ⟨hlow, hhigh⟩ := numberFromMarch_bounds hr he hleap
  intro century
  have hcentury : century = if 4 ≤ a then a - 4 else a - 3 := tdiv_century hlow hhigh
  obtain ⟨hnonneg4, hneg4⟩ := tdiv_bounds century (b := 4) (by decide)
  clear_value century
  rw [numberFromMarch]
  split at hcentury <;> omega

/-- The next number is put back to the next day, or to the one after where a century leaves out a
leap day. -/
theorem leapDays_put_back_succ (ha : 0 ≤ a) (hr : 0 ≤ r ∧ r ≤ 99) (he : 151 ≤ e ∧ e ≤ 488)
    (hleap : e = 488 → r = 99 → a % 4 = 3) :
    let century := (4 * (numberFromMarch a r e + 1) - 7468865).tdiv 146097
    let shifted := numberFromMarch a r e + 1 + 1 + century - century.tdiv 4 + 1524
    ∃ k : Nat, (k = 1 ∨ k = 2) ∧ shifted = 36525 * (100 * a + r + 4716) / 100 + (e + k) := by
  obtain ⟨hlow, hhigh⟩ := numberFromMarch_bounds hr he hleap
  intro century shifted
  have hcentury : 4 ≤ a ∧ century = a - 4 ∨ century = a - 3 ∨ a < 4 ∧ century = a - 2 := by
    have hnext : 4 * (numberFromMarch a r e + 1) - 7468865 =
        4 * numberFromMarch a r e - 7468865 + 4 := by omega
    unfold century
    rw [hnext]
    exact tdiv_century_succ hlow hhigh
  have hleft : century - century.tdiv 4 = a - a / 4 - 3 ∨
      century - century.tdiv 4 = a - a / 4 - 2 := by
    obtain ⟨hnonneg4, hneg4⟩ := tdiv_bounds century (b := 4) (by decide)
    clear_value century
    clear hlow hhigh
    omega
  have hshifted : shifted = 36525 * (100 * a + r + 4716) / 100 + e + 4 - a + a / 4 +
      (century - century.tdiv 4) := by
    unfold shifted numberFromMarch
    omega
  rw [hshifted]
  rcases hleft with hleft | hleft
  · exact ⟨1, .inl rfl, by rw [hleft]; omega⟩
  · exact ⟨2, .inr rfl, by rw [hleft]; omega⟩

end March

/-- The year and the days of it are told apart. -/
theorem year_of_shifted {y e : Int} (he : 151 ≤ e ∧ e ≤ 488) (hleap : e = 488 → y % 4 = 3) :
    (20 * (36525 * y / 100 + e) - 2442) / 7305 = y := by
  omega

/-- The month of a year that begins in March; January and February are its last two. -/
def shiftedMonth (m : Nat) : Int := if m ≤ 2 then (m : Int) + 12 else m

/-- The days of a year that begins in March, up to a day of a month. -/
def daysFromMarch (m d : Nat) : Int := 306001 * (shiftedMonth m + 1) / 10000 + d

theorem daysFromMarch_bounds : ∀ m < 13, ∀ d < 32, 1 ≤ m ∧ 29 ≤ d ∧ d ≤ daysInMonth 4 m →
    151 ≤ daysFromMarch m d ∧ daysFromMarch m d ≤ 488 := by decide

theorem last_daysFromMarch : ∀ m < 13, ∀ d < 32, daysFromMarch m d = 488 → m = 2 ∧ d = 29 := by
  decide

/-- Month and day are told apart. -/
theorem month_of_days : ∀ m < 13, ∀ d < 32, 1 ≤ m ∧ 29 ≤ d ∧ d ≤ daysInMonth 4 m →
    10000 * daysFromMarch m d / 306001 = shiftedMonth m + 1 := by decide

theorem daysInMonth_le (y : Int) (m : Nat) : daysInMonth y m ≤ daysInMonth 4 m := by
  unfold daysInMonth
  split
  · split <;> decide
  all_goals exact Nat.le_refl _

theorem daysInMonth_lt (y : Int) (m : Nat) : daysInMonth y m < 32 := by
  unfold daysInMonth
  split
  · split <;> decide
  all_goals decide

/-- The days of a year up to one past the 28th of a month; the last of them is the 29th of
February. -/
theorem last_days {m d : Nat} {leap : Prop} (hm : 1 ≤ m ∧ m ≤ 12)
    (hd : 29 ≤ d ∧ d ≤ daysInMonth 4 m) (hleap : m = 2 → d = 29 → leap) :
    d < 32 ∧ (151 ≤ daysFromMarch m d ∧ daysFromMarch m d ≤ 488) ∧
      (daysFromMarch m d = 488 → leap) := by
  have hm13 : m < 13 := Nat.lt_succ_of_le hm.2
  have hd32 : d < 32 := Nat.lt_of_le_of_lt hd.2 (daysInMonth_lt 4 m)
  refine ⟨hd32, daysFromMarch_bounds m hm13 d hd32 ⟨hm.1, hd⟩, fun h => ?_⟩
  obtain ⟨rfl, rfl⟩ := last_daysFromMarch m hm13 d hd32 h
  exact hleap rfl rfl

/-- A day is found from its number as its year and the days of it are told apart. -/
theorem ofDayNumber_numberFromMarch {a r : Int} {m d : Nat} (ha : 0 ≤ a) (hr : 0 ≤ r ∧ r ≤ 99)
    (hm : 1 ≤ m ∧ m ≤ 12) (hd : 29 ≤ d ∧ d ≤ daysInMonth 4 m)
    (hleap : m = 2 → d = 29 → r % 4 = 3 ∧ (r = 99 → a % 4 = 3)) :
    ofDayNumber (numberFromMarch a r (daysFromMarch m d)) =
      (if m ≤ 2 then 100 * a + r + 1 else 100 * a + r, m, d) := by
  obtain ⟨hd32, he, hlast⟩ := last_days hm hd hleap
  have hm13 : m < 13 := Nat.lt_succ_of_le hm.2
  have hmonth := month_of_days m hm13 d hd32 ⟨hm.1, hd⟩
  have hshifted := leapDays_put_back ha hr he fun h => (hlast h).2
  have hyear := year_of_shifted (y := 100 * a + r + 4716) he (by omega)
  have hday : daysFromMarch m d - 306001 * (shiftedMonth m + 1) / 10000 = d := by
    unfold daysFromMarch
    omega
  have hback : (if shiftedMonth m + 1 < 14 then shiftedMonth m + 1 - 1
      else shiftedMonth m + 1 - 13) = m := by
    unfold shiftedMonth
    split <;> split <;> omega
  have hcancel : ∀ q e : Int, q + e - q = e := fun q e => by omega
  unfold ofDayNumber
  simp only [hshifted, hyear, hcancel, hmonth, hday, hback, Int.toNat_natCast]
  congr 1
  split <;> split <;> omega

/-- The day of a month that the days of a year end in. -/
def dayOfDays (e : Int) : Int := e - 306001 * (10000 * e / 306001) / 10000

theorem daysFromMarch_le : ∀ m < 13, ∀ d < 32, 1 ≤ m ∧ m ≠ 2 → daysFromMarch m d ≤ 459 := by
  decide

/-- One day on or two, the day of the month is another one. -/
theorem dayOfDays_add {k : Nat} (hk : k = 1 ∨ k = 2) :
    ∀ m < 13, ∀ d < 32, 1 ≤ m ∧ 29 ≤ d ∧ m ≠ 2 →
      (dayOfDays (daysFromMarch m d + k)).toNat ≠ d ∧
        (dayOfDays (daysFromMarch m d + k)).toNat < 100 := by
  rcases hk with rfl | rfl <;> decide

/-- The day after one past the 28th is another day of a month. -/
theorem ofDayNumber_succ_ne {a r : Int} {m d : Nat} (ha : 0 ≤ a) (hr : 0 ≤ r ∧ r ≤ 99)
    (hm : 1 ≤ m ∧ m ≤ 12) (hd : 29 ≤ d ∧ d ≤ daysInMonth 4 m)
    (hleap : m = 2 → d = 29 → r % 4 = 3 ∧ (r = 99 → a % 4 = 3)) :
    (ofDayNumber (numberFromMarch a r (daysFromMarch m d) + 1)).2.2 ≠ d ∧
      (ofDayNumber (numberFromMarch a r (daysFromMarch m d) + 1)).2.2 < 100 := by
  obtain ⟨hd32, he, hlast⟩ := last_days hm hd hleap
  have hm13 : m < 13 := Nat.lt_succ_of_le hm.2
  obtain ⟨k, hk, hshifted⟩ := leapDays_put_back_succ ha hr he fun h => (hlast h).2
  unfold ofDayNumber
  simp only [hshifted]
  by_cases hm2 : m = 2
  · -- After the 29th of February another year begins, with March.
    subst hm2
    obtain rfl : d = 29 := Nat.le_antisymm hd.2 hd.1
    have he488 : daysFromMarch 2 29 = 488 := by decide
    have hr4 := (hleap rfl rfl).1
    have hyear : (20 * (36525 * (100 * a + r + 4716) / 100 + (488 + k)) - 2442) / 7305 =
        100 * a + r + 4716 + 1 := by omega
    have hdays : 36525 * (100 * a + r + 4716) / 100 + (488 + (k : Int)) -
        36525 * (100 * a + r + 4716 + 1) / 100 = 122 + k := by omega
    have hfirst : (dayOfDays (122 + k)).toNat ≠ 29 ∧ (dayOfDays (122 + k)).toNat < 100 := by
      rcases hk with rfl | rfl <;> decide
    simp only [he488, hyear, hdays]
    exact hfirst
  · have hend := daysFromMarch_le m hm13 d hd32 ⟨hm.1, hm2⟩
    obtain ⟨hne, hlt⟩ := dayOfDays_add hk m hm13 d hd32 ⟨hm.1, hd.1, hm2⟩
    have hyear := year_of_shifted (y := 100 * a + r + 4716) (e := daysFromMarch m d + k)
      (by omega) (by omega)
    have hcancel : ∀ q e : Int, q + e - q = e := fun q e => by omega
    simp only [hyear, hcancel]
    exact ⟨hne, hlt⟩

/-- A day is counted from the March with which its year begins. -/
theorem dayNumber_eq {y shifted : Int} {m d : Nat} (hs : shifted = if m ≤ 2 then y - 1 else y)
    (h : 0 ≤ shifted) :
    dayNumber y m d = numberFromMarch (shifted / 100) (shifted % 100) (daysFromMarch m d) := by
  have hcentury : shifted.tdiv 100 = shifted / 100 := Int.tdiv_eq_ediv_of_nonneg h
  have hleap : (shifted / 100).tdiv 4 = shifted / 100 / 4 :=
    Int.tdiv_eq_ediv_of_nonneg (by omega)
  have hyear : 100 * (shifted / 100) + shifted % 100 = shifted := by omega
  unfold dayNumber numberFromMarch daysFromMarch shiftedMonth
  rw [← hs, hyear]
  simp only [hcentury, hleap]
  omega

theorem isLeapYear_iff {y : Int} :
    isLeapYear y = true ↔ y % 4 = 0 ∧ (y % 100 ≠ 0 ∨ y % 400 = 0) := by
  simp [isLeapYear]

/-- A day past the 28th is counted from a March after the year 0, but for the first two months. -/
theorem exists_numberFromMarch {y : Int} {m d : Nat} (hy : 0 ≤ y ∧ y ≤ 9999)
    (hd : 29 ≤ d ∧ d ≤ daysInMonth y m) (hfirst : ¬(y = 0 ∧ m ≤ 2)) :
    ∃ a r : Int, 0 ≤ a ∧ (0 ≤ r ∧ r ≤ 99) ∧
      (m = 2 → d = 29 → r % 4 = 3 ∧ (r = 99 → a % 4 = 3)) ∧
      y = (if m ≤ 2 then 100 * a + r + 1 else 100 * a + r) ∧
      dayNumber y m d = numberFromMarch a r (daysFromMarch m d) := by
  have hleap : m = 2 → d = 29 → y % 4 = 0 ∧ (y % 100 ≠ 0 ∨ y % 400 = 0) := by
    rintro rfl rfl
    rw [← isLeapYear_iff]
    have h29 : 29 ≤ if isLeapYear y then 29 else 28 := hd.2
    split at h29
    · assumption
    · omega
  obtain ⟨shifted, hs⟩ : ∃ s, s = if m ≤ 2 then y - 1 else y := ⟨_, rfl⟩
  have hnonneg : 0 ≤ shifted := by
    split at hs <;> omega
  refine ⟨shifted / 100, shifted % 100, by omega, by omega, ?_, ?_, dayNumber_eq hs hnonneg⟩
  · intro h2 h29
    have := hleap h2 h29
    rw [if_pos (by omega)] at hs
    omega
  · split at hs <;> rename_i h <;> simp only [h, if_true, if_false] <;> omega

theorem first_days : ∀ m < 3, ∀ d < 32, 1 ≤ m ∧ 29 ≤ d ∧ d ≤ daysInMonth 4 m →
    ofDayNumber (dayNumber 0 m d) = (0, m, d) := by decide

theorem first_days_succ : ∀ m < 3, ∀ d < 32, 1 ≤ m ∧ 29 ≤ d →
    (ofDayNumber (dayNumber 0 m d + 1)).2.2 ≠ d ∧
      (ofDayNumber (dayNumber 0 m d + 1)).2.2 < 100 := by decide

section Last

variable {y : Int} {m d : Nat}

/-- The last days of months from the year 0 to the year 9999 are found again. -/
theorem ofDayNumber_dayNumber (hy : 0 ≤ y ∧ y ≤ 9999) (hm : 1 ≤ m ∧ m ≤ 12)
    (hd : 29 ≤ d ∧ d ≤ daysInMonth y m) : ofDayNumber (dayNumber y m d) = (y, m, d) := by
  have hd4 : d ≤ daysInMonth 4 m := Nat.le_trans hd.2 (daysInMonth_le y m)
  by_cases hfirst : y = 0 ∧ m ≤ 2
  · rw [hfirst.1]
    exact first_days m (by omega) d (Nat.lt_of_le_of_lt hd.2 (daysInMonth_lt y m))
      ⟨hm.1, hd.1, hd4⟩
  · obtain ⟨a, r, ha, hr, hleap, hyear, hnumber⟩ := exists_numberFromMarch hy hd hfirst
    rw [hnumber, ofDayNumber_numberFromMarch ha hr hm ⟨hd.1, hd4⟩ hleap, ← hyear]

/-- After them comes another day of a month. -/
theorem ofDayNumber_dayNumber_succ (hy : 0 ≤ y ∧ y ≤ 9999) (hm : 1 ≤ m ∧ m ≤ 12)
    (hd : 29 ≤ d ∧ d ≤ daysInMonth y m) : (ofDayNumber (dayNumber y m d + 1)).2.2 ≠ d ∧
      (ofDayNumber (dayNumber y m d + 1)).2.2 < 100 := by
  have hd4 : d ≤ daysInMonth 4 m := Nat.le_trans hd.2 (daysInMonth_le y m)
  by_cases hfirst : y = 0 ∧ m ≤ 2
  · rw [hfirst.1]
    exact first_days_succ m (by omega) d (Nat.lt_of_le_of_lt hd.2 (daysInMonth_lt y m))
      ⟨hm.1, hd.1⟩
  · obtain ⟨a, r, ha, hr, hleap, -, hnumber⟩ := exists_numberFromMarch hy hd hfirst
    rw [hnumber]
    exact ofDayNumber_succ_ne ha hr hm ⟨hd.1, hd4⟩ hleap

end Last

end RowSieve.Calendar

namespace RowSieve.Day

theorem day_le (d : Day) : d.day ≤ 31 :=
  Nat.le_of_lt_succ (Nat.lt_of_le_of_lt d.day_mem.2 (Calendar.daysInMonth_lt d.year d.month))

end RowSieve.Day
