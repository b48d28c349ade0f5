/-
Days and instants read back from their stored texts. Every field of a stored text has its full
width, which each form of reading allows; a stored instant ends before an offset, so it is read in
a form without one, and a stored day ends before a time.
-/
import RowSieve.Proofs.Calendar.Forms
import RowSieve.Proofs.Calendar.Order

namespace RowSieve

/-! ## Times of day by their fields -/

namespace Clock

theorem ext_fields {a b : Clock} (hs : a.second = b.second) (hn : a.nano = b.nano) : a = b := by
  cases a; cases b; cases hs; cases hn; rfl

/-- A leap second is written as the sixtieth of its minute and found again as one. -/
theorem of?_fields (c : Clock) :
    of? c.hour c.minute c.shownSecond c.shownNano = some c := by
  obtain ⟨hhour, hminute, hsecond, hnano⟩ := c.fields_le
  have hshown :
      c.shownSecond < 60 ∧ c.hour * 3600 + c.minute * 60 + c.shownSecond = c.second ∧
        c.shownNano = c.nano ∨
      c.shownSecond = 60 ∧ c.hour * 3600 + c.minute * 60 + 59 = c.second ∧
        nanosPerSecond + c.shownNano = c.nano := by
    have hn := c.nano_lt
    have hleap := c.leap
    unfold hour minute shownSecond shownNano nanosPerSecond at *
    omega
  unfold of?
  rw [dif_pos ⟨Nat.lt_succ_of_le hhour, Nat.lt_succ_of_le hminute, hsecond, hnano⟩]
  rcases hshown with ⟨hs, hsum, hn⟩ | ⟨hs, hsum, hn⟩
  · rw [dif_neg (Nat.ne_of_lt hs)]
    exact congrArg some (ext_fields hsum hn)
  · rw [dif_pos hs]
    exact congrArg some (ext_fields hsum hn)

end Clock

namespace Calendar

open RowSieve.Number
open RowSieve.Text (isBlank trim trimStart)

/-! ## Fields -/

theorem trimStart_padded (w n : Nat) (rest : List Char) :
    trimStart (padded w n ++ rest) = padded w n ++ rest := by
  obtain ⟨c, cs, hc, hdigit⟩ := exists_padded_eq_cons w n
  rw [hc, List.cons_append]
  exact trimStart_cons (isBlank_of_isNumeric (isNumeric_of_isDigit hdigit)) _

theorem field?_padded {lo hi n : Nat} (h : lo ≤ n ∧ n ≤ hi) (hhi : hi < 100) (rest : List Char) :
    field? lo hi (padded 2 n ++ rest) = some (n, rest) := by
  unfold field?
  rw [trimStart_padded, number?_padded_of_le (by decide) (by decide) (by omega)]
  exact if_pos h

/-- A year of four digits is read without a sign, any other up to the dash behind it. -/
theorem year?_yearText (y : Int) (rest : List Char) :
    year? (yearText y ++ '-' :: rest) = some (y, '-' :: rest) := by
  by_cases hplain : 0 ≤ y ∧ y ≤ 9999
  · obtain ⟨c, cs, hc, hdigit⟩ := exists_padded_eq_cons 4 y.toNat
    have hminus : c ≠ '-' := ne_of_isDigit hdigit (by decide)
    have hplus : c ≠ '+' := ne_of_isDigit hdigit (by decide)
    have hnumber : number? 1 4 (padded 4 y.toNat ++ '-' :: rest) = some (y.toNat, '-' :: rest) :=
      number?_padded_of_le (by decide) (by decide) (by omega) _
    rw [yearText_plain hplain, year?, trimStart_padded]
    rw [hc, List.cons_append] at hnumber ⊢
    simp [hminus, hplus, hnumber, hplain.1]
  · have hnumber : number? 1 (padded 4 y.natAbs ++ '-' :: rest).length
        (padded 4 y.natAbs ++ '-' :: rest) = some (y.natAbs, '-' :: rest) :=
      number?_padded_append (by rintro c ⟨⟩; decide) (by simp)
    by_cases hneg : y < 0
    · have habs : -(y.natAbs : Int) = y := by omega
      rw [yearText_minus hneg, year?, List.cons_append, trimStart_cons (by decide)]
      simp only [hnumber, Option.map_some, habs]
    · have habs : (y.natAbs : Int) = y := by omega
      rw [yearText_plus (by omega), year?, List.cons_append, trimStart_cons (by decide)]
      simp only [hnumber, Option.map_some, habs]

/-- The digits of a stored fraction are all of its nanoseconds. -/
theorem fraction?_fractionText {n : Nat} (hn : n < nanosPerSecond) :
    fraction? (fractionText n) = some (n, []) := by
  rcases Nat.eq_zero_or_pos n with rfl | hpos
  · rfl
  · obtain ⟨ds, htext, hds, hne, hlen, hvalue⟩ := exists_fraction_digits hpos hn
    have htake : takeDigits 9 ds = (ds, []) := by
      simpa using @takeDigits_append_of_le [] (by simp) ds 9 hds hlen
    rw [htext, fraction?, nanos?, htake]
    simp [hne, hvalue]

/-! ## Days -/

theorem dayPart?_dayText (d : Day) (rest : List Char) :
    dayPart? (dayText d ++ rest) = some ((d.year, d.month, d.day), rest) := by
  have hmonth := field?_padded d.month_mem (by decide) ('-' :: (padded 2 d.day ++ rest))
  have hday := field?_padded ⟨d.day_mem.1, d.day_le⟩ (by decide) rest
  rw [dayText_append, dayPart?]
  simp [year?_yearText, mark?, hmonth, hday]

theorem plainDay?_dayText (d : Day) : plainDay? (dayText d) = some d := by
  have hpart := dayPart?_dayText d []
  rw [List.append_nil] at hpart
  simp [plainDay?, hpart, whole?, Day.of?_fields]

/-- The characters of a stored day are those of numbers. -/
theorem isNumeric_of_mem_dayText {d : Day} {c : Char} (h : c ∈ dayText d) :
    isNumeric c = true := by
  have hdigit {w n : Nat} (hc : c ∈ padded w n) : isNumeric c = true :=
    isNumeric_of_isDigit (isDigit_of_mem_padded hc)
  have hyear : c ∈ yearText d.year → isNumeric c = true := by
    unfold yearText
    split
    · exact hdigit
    · rw [List.mem_cons]
      rintro (rfl | hc)
      · split <;> rfl
      · exact hdigit hc
  simp only [dayText, List.append_assoc, List.cons_append, List.mem_append, List.mem_cons] at h
  rcases h with h | rfl | h | rfl | h
  · exact hyear h
  · rfl
  · exact hdigit h
  · rfl
  · exact hdigit h

/-! ## Seconds -/

/-- The second of a time and its fraction, as they are stored. -/
def secondText (c : Clock) : List Char := padded 2 c.shownSecond ++ fractionText c.shownNano

theorem clockText_eq (c : Clock) : clockText c =
    padded 2 c.hour ++ ':' :: (padded 2 c.minute ++ ':' :: secondText c) := by
  simp [clockText, secondText]

theorem secondText_ne_nil (c : Clock) : secondText c ≠ [] := by
  obtain ⟨x, xs, hx, -⟩ := exists_padded_eq_cons 2 c.shownSecond
  simp [secondText, hx]

theorem isNumeric_of_mem_secondText {c : Clock} {x : Char} (h : x ∈ secondText c) :
    isNumeric x = true := by
  rcases List.mem_append.1 h with h | h
  · exact isNumeric_of_isDigit (isDigit_of_mem_padded h)
  · rcases Nat.eq_zero_or_pos c.shownNano with hzero | hpos
    · rw [hzero, fractionText, if_pos rfl] at h
      cases h
    · obtain ⟨ds, -, htext, -, hds⟩ := exists_fraction hpos
      rw [htext, List.mem_cons] at h
      rcases h with rfl | h
      · rfl
      · exact isNumeric_of_isDigit (hds x h)

theorem wholeSecond?_secondText (c : Clock) :
    wholeSecond? (':' :: secondText c) = some ((c.shownSecond, c.shownNano), []) := by
  have hfield := field?_padded ⟨Nat.zero_le _, c.fields_le.2.2.1⟩ (by decide)
    (fractionText c.shownNano)
  have hfraction := fraction?_fractionText c.fields_le.2.2.2
  simp [wholeSecond?, secondText, mark?, hfield, hfraction]

theorem hourPart?_clockText (c : Clock) :
    hourPart? (clockText c) = some ((c.hour, c.minute), ':' :: secondText c) := by
  obtain ⟨hhour, hminute, -⟩ := c.fields_le
  have hh := field?_padded ⟨Nat.zero_le _, hhour⟩ (by decide)
    (':' :: (padded 2 c.minute ++ ':' :: secondText c))
  have hm := field?_padded ⟨Nat.zero_le _, hminute⟩ (by decide) (':' :: secondText c)
  simp [clockText_eq, hourPart?, mark?, hh, hm]

/-! ## Instants -/

variable (t : Instant)

/-- A stored instant is in the first of the forms, a blank before its time. -/
theorem instantIn?_text :
    instantIn? (momentForm .blanks (timeForm ++ secondForm)) t.text = some t := by
  rw [instantIn?_seconds read?_blanks, Instant.text, dayPart?_dayText]
  simp only [Option.bind_some, hourPart?_trimStart, hourPart?_blank, hourPart?_clockText,
    wholeSecond?_secondText, whole?, moment?, Day.of?_fields, Clock.of?_fields]
  rfl

theorem plainInstant?_text : plainInstant? t.text = some t := by
  rw [plainInstant?_eq, instantForms, List.findSome?_cons, instantIn?_text]

theorem offsetInstant?_text : offsetInstant? t.text = none := by
  cases h : offsetInstant? t.text with
  | none => rfl
  | some u =>
    have hnone := (plain_of_offset h).1
    rw [plainInstant?_text] at hnone
    cases hnone

/-- Neither end of a stored instant is blank. -/
theorem trim_text : trim t.text = t.text := by
  have hday : dayText t.day ≠ [] := by simp [dayText]
  have hsecond := secondText_ne_nil t.clock
  refine Text.trim_of_ends (fun c hc => ?_) (fun c hc => ?_)
  · rw [Instant.text, List.head?_append_of_ne_nil _ hday] at hc
    exact isBlank_of_isNumeric (isNumeric_of_mem_dayText (List.mem_of_mem_head? hc))
  · have htext : t.text = (dayText t.day ++ ' ' :: padded 2 t.clock.hour ++
        ':' :: (padded 2 t.clock.minute ++ [':'])) ++ secondText t.clock := by
      simp [Instant.text, clockText_eq]
    rw [htext, List.getLast?_append_of_ne_nil _ hsecond] at hc
    exact isBlank_of_isNumeric (isNumeric_of_mem_secondText (List.mem_of_getLast? hc))

end Calendar

open Calendar

/-! ## Stored texts read back -/

theorem Day.read?_stored (d : Day) : read? d.stored = some d := by
  have htrim : Text.trim (dayText d) = dayText d :=
    Text.trim_of_noBlanks fun c hc => Number.isBlank_of_isNumeric (isNumeric_of_mem_dayText hc)
  rw [read?, stored, String.toList_ofList, htrim, plainDay?_dayText]
  rfl

theorem Instant.read?_stored (t : Instant) : read? t.stored = some t := by
  have htext : t.stored.toList = t.text := String.toList_ofList
  simp only [read?, htext, trim_text, offsetInstant?_text, plainInstant?_text, Option.none_or,
    Option.some_or]

/-- A text names a day just when it names an instant, and then the day of that instant. -/
theorem Day.read?_eq (text : String) : read? text = (Instant.read? text).map (·.day) := by
  unfold read?
  cases hday : plainDay? (Text.trim text.toList) with
  | none => rfl
  | some d =>
    have hoffset : offsetInstant? (Text.trim text.toList) = none := by
      cases h : offsetInstant? (Text.trim text.toList) with
      | none => rfl
      | some t => exact absurd (plain_of_offset h).2 (by simp [hday])
    have hplain : plainInstant? (Text.trim text.toList) = none := by
      cases h : plainInstant? (Text.trim text.toList) with
      | none => rfl
      | some t => exact absurd (plainDay?_of_plainInstant? h) (by simp [hday])
    simp only [Instant.read?, hoffset, hplain, hday]
    rfl

end RowSieve
