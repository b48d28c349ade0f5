/-
The forms of moments one by one. A form is a list of parts, each of which is read from the front of
the text. Reading a moment without an offset in one go is trying its four forms in turn; and a text
in one of the three ways of writing, as a day, as a moment, or as a moment with an offset, is in
none of the others, so the order in which these are tried does not matter. Stored texts are written
in forms too, part by part.
-/
import Mathlib.Data.List.DropRight
import RowSieve.Calendar.Reading
import RowSieve.Calendar.Storage
import RowSieve.Proofs.Calendar.DayCount
import RowSieve.Proofs.Number.Literal

namespace RowSieve.Calendar

open RowSieve.Number
open RowSieve.Text (isBlank trimStart)

/-! ## Parts and forms -/

/-- A part of a form. -/
inductive Part where
  | year
  | month
  | day
  | hour
  | minute
  | second
  | fraction
  /-- Any number of blanks, also none. -/
  | blanks
  | mark (c : Char)

/-- The fields that have been read so far. -/
structure Fields where
  year? : Option Int := none
  month? : Option Nat := none
  day? : Option Nat := none
  hour? : Option Nat := none
  minute? : Option Nat := none
  second? : Option Nat := none
  nano? : Option Nat := none

/-- Reads a part from the front of the text. -/
def Part.read? (fs : Fields) (s : List Char) : Part → Option (Fields × List Char)
  | year => (Calendar.year? s).map fun (y, s) => ({ fs with year? := some y }, s)
  | month => (field? 1 12 s).map fun (n, s) => ({ fs with month? := some n }, s)
  | day => (field? 1 31 s).map fun (n, s) => ({ fs with day? := some n }, s)
  | hour => (field? 0 23 s).map fun (n, s) => ({ fs with hour? := some n }, s)
  | minute => (field? 0 59 s).map fun (n, s) => ({ fs with minute? := some n }, s)
  | second => (field? 0 60 s).map fun (n, s) => ({ fs with second? := some n }, s)
  | fraction => (fraction? s).map fun (n, s) => ({ fs with nano? := some n }, s)
  | blanks => some (fs, trimStart s)
  | mark c => (mark? c s).map fun s => (fs, s)

/-- Reads the parts of a form one after another. -/
def parts? (fs : Fields) (s : List Char) : List Part → Option (Fields × List Char)
  | [] => some (fs, s)
  | p :: ps => do
    let (fs, s) ← p.read? fs s
    parts? fs s ps

/-- The fields of a text that is in a form as a whole. -/
def fields? (form : List Part) (s : List Char) : Option Fields := whole? (parts? {} s form)

/-- The day of the fields. -/
def Fields.toDay? (fs : Fields) : Option Day := do
  Day.of? (← fs.year?) (← fs.month?) (← fs.day?)

/-- The time of the fields; seconds and nanoseconds that have not been read are none. -/
def Fields.toClock? (fs : Fields) : Option Clock := do
  Clock.of? (← fs.hour?) (← fs.minute?) (fs.second?.getD 0) (fs.nano?.getD 0)

def Fields.toInstant? (fs : Fields) : Option Instant := do
  let day ← fs.toDay?
  let clock ← fs.toClock?
  pure ⟨day, clock⟩

/-- The day that a text in the form names. -/
def dayIn? (form : List Part) (s : List Char) : Option Day := (fields? form s).bind Fields.toDay?

/-- The moment that a text in the form names. -/
def instantIn? (form : List Part) (s : List Char) : Option Instant :=
  (fields? form s).bind Fields.toInstant?

/-- `YYYY-MM-DD` -/
def dayForm : List Part := [.year, .mark '-', .month, .mark '-', .day]

/-- `HH:MM` -/
def timeForm : List Part := [.hour, .mark ':', .minute]

/-- `:SS` and a fraction. -/
def secondForm : List Part := [.mark ':', .second, .fraction]

/-- A day and a time, with a part between them. -/
def momentForm (between : Part) (time : List Part) : List Part := dayForm ++ between :: time

/-- The forms of moments without an offset, in the order in which they are tried. -/
def instantForms : List (List Part) :=
  [momentForm .blanks (timeForm ++ secondForm), momentForm (.mark 'T') (timeForm ++ secondForm),
    momentForm .blanks timeForm, momentForm (.mark 'T') timeForm]

/-! ## Forms read part by part -/

theorem parts?_append (fs : Fields) (s : List Char) (ps qs : List Part) :
    parts? fs s (ps ++ qs) = (parts? fs s ps).bind fun p => parts? p.1 p.2 qs := by
  induction ps generalizing fs s with
  | nil => rfl
  | cons p ps ih =>
    rw [List.cons_append, parts?, parts?]
    cases p.read? fs s with
    | none => rfl
    | some r => exact ih r.1 r.2

theorem read?_blanks (fs : Fields) (s : List Char) :
    Part.blanks.read? fs s = (some (trimStart s)).map fun s => (fs, s) := rfl

theorem read?_mark (c : Char) (fs : Fields) (s : List Char) :
    (Part.mark c).read? fs s = (mark? c s).map fun s => (fs, s) := rfl

theorem parts?_dayForm (s : List Char) : parts? {} s dayForm =
    (dayPart? s).map fun p =>
      ({ year? := some p.1.1, month? := some p.1.2.1, day? := some p.1.2.2 }, p.2) := by
  simp only [parts?, Part.read?, dayForm, dayPart?, Option.map_bind, Option.bind_map, bind, pure,
    Function.comp_def, Option.map_some]

/-- A day is read in its form. -/
theorem plainDay?_eq (s : List Char) : plainDay? s = dayIn? dayForm s := by
  rw [plainDay?, dayIn?, fields?, parts?_dayForm]
  cases dayPart? s with
  | none => rfl
  | some p =>
    obtain ⟨⟨y, m, d⟩, rest⟩ := p
    cases rest <;> rfl

/-! ## Moments part by part -/

/-- The hour and the minute of a time and the text after them. -/
def hourPart? (s : List Char) : Option ((Nat × Nat) × List Char) := do
  let (h, s) ← field? 0 23 s
  let s ← mark? ':' s
  let (mi, s) ← field? 0 59 s
  pure ((h, mi), s)

/-- The second and the fraction of a time, neither of which is missing. -/
def wholeSecond? (s : List Char) : Option ((Nat × Nat) × List Char) := do
  let s ← mark? ':' s
  let (sec, s) ← field? 0 60 s
  let (nano, s) ← fraction? s
  pure ((sec, nano), s)

/-- The moment of these fields, if there is one. -/
def moment? (date : Int × Nat × Nat) (time second : Nat × Nat) : Option Instant := do
  let day ← Day.of? date.1 date.2.1 date.2.2
  let clock ← Clock.of? time.1 time.2 second.1 second.2
  pure ⟨day, clock⟩

theorem parts?_timeForm (fs : Fields) (s : List Char) : parts? fs s timeForm =
    (hourPart? s).map fun time =>
      ({ fs with hour? := some time.1.1, minute? := some time.1.2 }, time.2) := by
  simp only [parts?, Part.read?, timeForm, hourPart?, Option.map_bind, Option.bind_map, bind, pure,
    Function.comp_def, Option.map_some]

theorem parts?_secondForm (fs : Fields) (s : List Char) : parts? fs s secondForm =
    (wholeSecond? s).map fun second =>
      ({ fs with second? := some second.1.1, nano? := some second.1.2 }, second.2) := by
  simp only [parts?, Part.read?, secondForm, wholeSecond?, Option.map_bind, Option.bind_map, bind,
    pure, Function.comp_def, Option.map_some]

theorem whole?_bind {α β : Type} (x : Option α) (f : α → Option (β × List Char)) :
    whole? (x.bind f) = x.bind fun a => whole? (f a) := by
  cases x <;> rfl

section Moments

variable {skip : List Char → Option (List Char)} {between : Part}

theorem plainInstant?_parts (s : List Char) : plainInstant? s =
    (dayPart? s).bind fun date => (hourPart? ((mark? 'T' date.2).getD date.2)).bind fun time =>
      (whole? (secondPart? time.2)).bind (moment? date.1 time.1) := by
  simp only [plainInstant?, hourPart?, Option.bind_assoc, bind, pure, Option.bind_some]
  rfl

/-- The part between day and time leaves the fields as they are. -/
theorem parts?_momentForm (hb : ∀ fs s, between.read? fs s = (skip s).map fun s => (fs, s))
    (time : List Part) (s : List Char) : parts? {} s (momentForm between time) =
    (dayPart? s).bind fun date => (skip date.2).bind fun s =>
      parts? { year? := some date.1.1, month? := some date.1.2.1, day? := some date.1.2.2 } s
        time := by
  simp [momentForm, parts?_append, parts?_dayForm, parts?, hb, Option.bind_map]

theorem instantIn?_minutes (hb : ∀ fs s, between.read? fs s = (skip s).map fun s => (fs, s))
    (s : List Char) : instantIn? (momentForm between timeForm) s =
    (dayPart? s).bind fun date => (skip date.2).bind fun s => (hourPart? s).bind fun time =>
      (whole? (some ((0, 0), time.2))).bind (moment? date.1 time.1) := by
  simp only [instantIn?, fields?, parts?_momentForm hb, parts?_timeForm, whole?_bind,
    Option.bind_assoc]
  refine Option.bind_congr fun date _ => Option.bind_congr fun s _ => ?_
  rcases hourPart? s with _ | ⟨time, _ | ⟨c, rest⟩⟩ <;> rfl

theorem instantIn?_seconds (hb : ∀ fs s, between.read? fs s = (skip s).map fun s => (fs, s))
    (s : List Char) : instantIn? (momentForm between (timeForm ++ secondForm)) s =
    (dayPart? s).bind fun date => (skip date.2).bind fun s => (hourPart? s).bind fun time =>
      (whole? (wholeSecond? time.2)).bind (moment? date.1 time.1) := by
  simp only [instantIn?, fields?, parts?_momentForm hb, parts?_append, parts?_timeForm,
    parts?_secondForm, whole?_bind, Option.bind_assoc, Option.bind_map, Function.comp_def]
  refine Option.bind_congr fun date _ => Option.bind_congr fun s _ =>
    Option.bind_congr fun time _ => ?_
  rcases wholeSecond? time.2 with _ | ⟨second, _ | ⟨c, rest⟩⟩ <;> rfl

end Moments

/-! ## One form or another -/

theorem trimStart_cons {c : Char} (hc : isBlank c = false) (s : List Char) :
    trimStart (c :: s) = c :: s := List.dropWhile_cons_of_neg (by simp [hc])

theorem eq_cons_of_mark? {c : Char} {s rest : List Char} (h : mark? c s = some rest) :
    s = c :: rest := by
  cases s with
  | nil => cases h
  | cons x s =>
    rw [mark?] at h
    split at h
    · rename_i hx
      cases h
      rw [hx]
    · cases h

/-- An hour may have blanks in front of it. -/
theorem hourPart?_trimStart (s : List Char) : hourPart? (trimStart s) = hourPart? s := by
  have htrim : trimStart (trimStart s) = trimStart s := List.dropWhile_idempotent isBlank s
  simp only [hourPart?, field?, htrim]

theorem hourPart?_blank (s : List Char) : hourPart? (' ' :: s) = hourPart? s := by
  have hblank : trimStart (' ' :: s) = trimStart s := List.dropWhile_cons_of_pos (by decide)
  rw [← hourPart?_trimStart, hblank, hourPart?_trimStart]

/-- No field starts with a character that is neither blank nor a digit. -/
theorem field?_cons {lo hi : Nat} {c : Char} (hblank : isBlank c = false)
    (hdigit : isDigit c = false) (s : List Char) : field? lo hi (c :: s) = none := by
  simp [field?, trimStart_cons hblank, number?, takeDigits, hdigit]

/-- Behind the minute stands a second or nothing. -/
theorem seconds_or_minutes (date : Int × Nat × Nat) (s : List Char) :
    ((hourPart? s).bind fun time => (whole? (secondPart? time.2)).bind (moment? date time.1)) =
    ((hourPart? s).bind fun time => (whole? (wholeSecond? time.2)).bind (moment? date time.1)).or
      ((hourPart? s).bind fun time =>
        (whole? (some ((0, 0), time.2))).bind (moment? date time.1)) := by
  rcases hourPart? s with _ | ⟨time, _ | ⟨c, rest⟩⟩
  · rfl
  · rfl
  · exact (Option.or_none).symm

theorem findSome?_cons_or {α β : Type} (f : α → Option β) (a : α) (l : List α) :
    (a :: l).findSome? f = (f a).or (l.findSome? f) := by
  rw [List.findSome?_cons]
  cases f a <;> rfl

/-- A moment without an offset is read in the first of its forms that the text is in. -/
theorem plainInstant?_eq (s : List Char) :
    plainInstant? s = instantForms.findSome? (instantIn? · s) := by
  simp only [instantForms, findSome?_cons_or, List.findSome?_nil, instantIn?_minutes read?_blanks,
    instantIn?_minutes (read?_mark 'T'), instantIn?_seconds read?_blanks,
    instantIn?_seconds (read?_mark 'T'), plainInstant?_parts, Option.bind_some,
    hourPart?_trimStart, seconds_or_minutes, Option.or_none]
  rcases dayPart? s with _ | ⟨date, rest⟩
  · rfl
  cases hm : mark? 'T' rest with
  | none =>
    simp only [Option.bind_some, Option.bind_none, hm, Option.getD_none, Option.none_or,
      Option.or_none]
  | some time =>
    have hhour : hourPart? rest = none := by
      rw [eq_cons_of_mark? hm, hourPart?, field?_cons (by decide) (by decide)]
      rfl
    simp only [Option.bind_some, Option.bind_none, hm, hhour, Option.getD_some, Option.none_or]

/-! ## One way of writing or another -/

section Ways

variable {s rest : List Char} {t : Instant} {n : Nat}

theorem number?_of_le {least least' most : Nat} (h : number? least most s = some (n, rest))
    (hl : least' ≤ least) : number? least' most s = some (n, rest) := by
  unfold number? at *
  simp only at *
  split at h
  · cases h
  · rw [if_neg (by omega), h]

theorem exists_digit_of_number? {least most : Nat}
    (h : number? (least + 1) most s = some (n, rest)) :
    ∃ c cs, s = c :: cs ∧ isDigit c = true := by
  unfold number? at h
  cases most with
  | zero => simp [takeDigits] at h
  | succ most =>
    cases s with
    | nil => simp [takeDigits] at h
    | cons c cs =>
      cases hc : isDigit c with
      | true => exact ⟨c, cs, rfl, hc⟩
      | false => simp [takeDigits, hc] at h

theorem trimStart_of_number? {least most : Nat}
    (h : number? (least + 1) most s = some (n, rest)) : trimStart s = s := by
  obtain ⟨c, cs, rfl, hc⟩ := exists_digit_of_number? h
  exact trimStart_cons (isBlank_of_isNumeric (isNumeric_of_isDigit hc)) cs

/-- A field of its full width is read as one that may be narrower. -/
theorem field?_of_number? {lo hi : Nat} (h : number? 2 2 s = some (n, rest))
    (hn : lo ≤ n ∧ n ≤ hi) : field? lo hi s = some (n, rest) := by
  unfold field?
  rw [trimStart_of_number? h, number?_of_le h (by decide)]
  exact if_pos hn

theorem year?_of_number? (h : number? 4 4 s = some (n, rest)) :
    year? s = some ((n : Int), rest) := by
  have hnumber := number?_of_le h (show 1 ≤ 4 by decide)
  rw [year?, trimStart_of_number? h]
  obtain ⟨c, cs, rfl, hc⟩ := exists_digit_of_number? h
  have hminus : c ≠ '-' := ne_of_isDigit hc (by decide)
  have hplus : c ≠ '+' := ne_of_isDigit hc (by decide)
  simp [hminus, hplus, hnumber]

theorem day_bounds {y : Int} {m d : Nat} {day : Day} (h : Day.of? y m d = some day) :
    (1 ≤ m ∧ m ≤ 12) ∧ 1 ≤ d ∧ d ≤ 31 := by
  unfold Day.of? at h
  split at h
  · rename_i hfields
    have := Day.day_le ⟨y, m, d, hfields.1, hfields.2.1, hfields.2.2⟩
    exact ⟨hfields.2.1, hfields.2.2.1, this⟩
  · cases h

theorem clock_bounds {h mi sec nano : Nat} {clock : Clock}
    (hc : Clock.of? h mi sec nano = some clock) : h ≤ 23 ∧ mi ≤ 59 ∧ sec ≤ 60 := by
  unfold Clock.of? at hc
  split at hc
  · omega
  · cases hc

/-- Up to its offset a moment is read as one without, and the offset is not empty. -/
theorem parts_of_offsetInstant? (h : offsetInstant? s = some t) :
    ∃ date s₁ s₂ time s₃ second c s₄, dayPart? s = some (date, s₁) ∧ separator? s₁ = some s₂ ∧
      hourPart? s₂ = some (time, s₃) ∧ wholeSecond? s₃ = some (second, c :: s₄) := by
  unfold offsetInstant? at h
  obtain ⟨⟨y, _⟩, hy, h⟩ := Option.bind_eq_some_iff.1 h
  obtain ⟨_, hyend, h⟩ := Option.bind_eq_some_iff.1 h
  obtain ⟨⟨m, _⟩, hm, h⟩ := Option.bind_eq_some_iff.1 h
  obtain ⟨_, hmend, h⟩ := Option.bind_eq_some_iff.1 h
  obtain ⟨⟨d, s₁⟩, hd, h⟩ := Option.bind_eq_some_iff.1 h
  obtain ⟨s₂, hbetween, h⟩ := Option.bind_eq_some_iff.1 h
  obtain ⟨⟨hr, _⟩, hh, h⟩ := Option.bind_eq_some_iff.1 h
  obtain ⟨_, hhend, h⟩ := Option.bind_eq_some_iff.1 h
  obtain ⟨⟨mi, s₃⟩, hmi, h⟩ := Option.bind_eq_some_iff.1 h
  obtain ⟨_, hmiend, h⟩ := Option.bind_eq_some_iff.1 h
  obtain ⟨⟨sec, _⟩, hs, h⟩ := Option.bind_eq_some_iff.1 h
  obtain ⟨⟨nano, offset⟩, hn, h⟩ := Option.bind_eq_some_iff.1 h
  obtain ⟨ahead, hoffset, h⟩ := Option.bind_eq_some_iff.1 h
  obtain ⟨date, hdate, h⟩ := Option.bind_eq_some_iff.1 h
  obtain ⟨clock, hclock, -⟩ := Option.bind_eq_some_iff.1 h
  obtain ⟨hmonth, hday⟩ := day_bounds hdate
  obtain ⟨hhour, hminute, hsecond⟩ := clock_bounds hclock
  have hdate : dayPart? s = some (((y : Int), m, d), s₁) := by
    simp [dayPart?, year?_of_number? hy, hyend, field?_of_number? hm hmonth, hmend,
      field?_of_number? hd hday]
  have htime : hourPart? s₂ = some ((hr, mi), s₃) := by
    simp [hourPart?, field?_of_number? hh ⟨Nat.zero_le _, hhour⟩, hhend,
      field?_of_number? hmi ⟨Nat.zero_le _, hminute⟩]
  have hwhole : wholeSecond? s₃ = some ((sec, nano), offset) := by
    simp [wholeSecond?, hmiend, field?_of_number? hs ⟨Nat.zero_le _, hsecond⟩, hn]
  cases offset with
  | nil => cases hoffset
  | cons c s₄ => exact ⟨_, _, _, _, _, _, c, s₄, hdate, hbetween, htime, hwhole⟩

/-- Behind a small letter there is no time without an offset. -/
theorem hourPart?_of_separator? {s₂ : List Char} (h : separator? s = some s₂) :
    hourPart? ((mark? 'T' s).getD s) = hourPart? s₂ ∨
      hourPart? ((mark? 'T' s).getD s) = none := by
  unfold separator? at h
  split at h <;> cases h
  · exact .inl rfl
  · right
    show hourPart? ('t' :: s₂) = none
    rw [hourPart?, field?_cons (by decide) (by decide)]
    rfl
  · exact .inl (hourPart?_blank s₂)

/-- What is read with an offset is not read without one. -/
theorem plain_of_offset (h : offsetInstant? s = some t) :
    plainInstant? s = none ∧ plainDay? s = none := by
  obtain ⟨date, s₁, s₂, time, s₃, second, c, s₄, hdate, hbetween, htime, hsecond⟩ :=
    parts_of_offsetInstant? h
  constructor
  · have hbehind : whole? (secondPart? s₃) = none := by
      cases s₃ with
      | nil => cases hsecond
      | cons d s₃ => exact (congrArg whole? hsecond :)
    rw [plainInstant?_parts, hdate, Option.bind_some]
    rcases hourPart?_of_separator? hbetween with hhour | hhour
    · simp only [hhour, htime, Option.bind_some, hbehind, Option.bind_none]
    · simp only [hhour, Option.bind_none]
  · cases s₁ with
    | nil => cases hbetween
    | cons x s₁ =>
      rw [plainDay?, hdate]
      rfl

/-- What is read as a moment is not read as a day. -/
theorem plainDay?_of_plainInstant? (h : plainInstant? s = some t) : plainDay? s = none := by
  rw [plainInstant?_parts] at h
  obtain ⟨⟨date, s₁⟩, hdate, h⟩ := Option.bind_eq_some_iff.1 h
  cases s₁ with
  | nil => cases h
  | cons x s₁ =>
    rw [plainDay?, hdate]
    rfl

end Ways

/-! ## Writing in a form -/

/-- A part of a moment as it is written; of blanks one. -/
def Part.write (t : Instant) : Part → List Char
  | year => yearText t.day.year
  | month => padded 2 t.day.month
  | day => padded 2 t.day.day
  | hour => padded 2 t.clock.hour
  | minute => padded 2 t.clock.minute
  | second => padded 2 t.clock.shownSecond
  | fraction => fractionText t.clock.shownNano
  | blanks => [' ']
  | mark c => [c]

/-- A moment in a form. -/
def written (form : List Part) (t : Instant) : List Char := form.flatMap (Part.write t)

/-- `YYYY-MM-DD HH:MM:SS` -/
def wholeSecondForm : List Part := momentForm .blanks (timeForm ++ [.mark ':', .second])

/-- `YYYY-MM-DD HH:MM:SS` and a fraction. -/
def fractionForm : List Part := momentForm .blanks (timeForm ++ secondForm)

theorem written_fractionForm (t : Instant) :
    written fractionForm t = written wholeSecondForm t ++ fractionText t.clock.shownNano := by
  have hform : fractionForm = wholeSecondForm ++ [.fraction] := rfl
  simp only [written, hform, List.flatMap_append, List.flatMap_singleton, Part.write]

/-- A day is stored in its form. -/
theorem stored_eq_written_day (d : Day) :
    d.stored = String.ofList (written dayForm (.midnight d)) := by
  simp [Day.stored, dayText, written, dayForm, Part.write, Instant.midnight]

/-- An instant is stored with a fraction when it is not at the start of a second; at the start of
one the form with a fraction comes to the same. -/
theorem stored_eq_written (t : Instant) : t.stored =
    String.ofList (written (if t.clock.nano = 0 then wholeSecondForm else fractionForm) t) := by
  have htext : t.stored = String.ofList (written fractionForm t) := by
    simp [Instant.stored, dayText, clockText, written, fractionForm, momentForm, dayForm, timeForm,
      secondForm, Part.write]
  split
  · rename_i hnano
    have hnone : fractionText t.clock.shownNano = [] := by
      rw [Clock.shownNano, hnano]
      rfl
    rw [htext, written_fractionForm, hnone, List.append_nil]
  · exact htext

end RowSieve.Calendar
