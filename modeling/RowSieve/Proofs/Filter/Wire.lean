/-
The type that a scalar was sent with does not matter, only its text. A truth value or a number means
the same to every kind of field as the text that it is written as, down to the error that refuses
it: numbers are read back from their texts, the texts of 1 and 0 are the only ones of numbers that
stand for truth values, and no number is written as a day or an instant.
-/
import RowSieve.Proofs.Filter.Acceptance
import RowSieve.Proofs.Filter.Brackets
import RowSieve.Proofs.Number.Literal

namespace RowSieve

/-! ## Numbers are no days and no instants -/

namespace Calendar

open RowSieve.Number
open RowSieve.Text (trimStart)

/-- No dash stands behind digits that are taken from a numeral. -/
theorem mark?_takeDigits {front rest : List Char} (hfront : ∀ c ∈ front, isDigit c = true)
    (hrest : ∀ c ∈ rest.head?, c = '.' ∨ c = 'e') (most : Nat) :
    mark? '-' (takeDigits most (front ++ rest)).2 = none := by
  have hmark : ∀ {c : Char} {s : List Char}, isDigit c = true ∨ c = '.' ∨ c = 'e' →
      mark? '-' (c :: s) = none := by
    intro c s hc
    refine if_neg ?_
    rintro rfl
    exact absurd hc (by decide)
  induction most generalizing front with
  | zero =>
    rw [takeDigits]
    cases front with
    | nil =>
      cases rest with
      | nil => rfl
      | cons c rest => exact hmark (.inr (hrest c rfl))
    | cons c front => exact hmark (.inl (hfront c List.mem_cons_self))
  | succ most ih =>
    cases front with
    | nil =>
      cases rest with
      | nil => rfl
      | cons c rest =>
        have hc : c = '.' ∨ c = 'e' := hrest c rfl
        have hdigit : isDigit c = false := by rcases hc with rfl | rfl <;> decide
        rw [List.nil_append, takeDigits, hdigit, if_neg Bool.false_ne_true]
        exact hmark (.inr hc)
    | cons c front =>
      obtain ⟨hc, hfront⟩ := List.forall_mem_cons.1 hfront
      rw [List.cons_append, takeDigits, if_pos hc]
      exact ih hfront

theorem mark?_of_number? (n : Numeral) {least most : Nat} {k : Nat} {s : List Char}
    (h : number? least most n.text = some (k, s)) : mark? '-' s = none := by
  obtain ⟨front, rest, htext, -, hfront, hrest⟩ := n.exists_front
  rw [htext, number?] at h
  simp only at h
  split at h
  · cases h
  · cases h
    exact mark?_takeDigits hfront hrest most

/-- Behind the year that a number may be taken for no month follows. -/
theorem mark?_of_year? (neg : Bool) (n : Numeral) {y : Int} {s : List Char}
    (h : year? (signed neg n.text) = some (y, s)) : mark? '-' s = none := by
  obtain ⟨c, cs, htext, hc⟩ := n.exists_head
  have hminus : c ≠ '-' := ne_of_isDigit hc (by decide)
  have hplus : c ≠ '+' := ne_of_isDigit hc (by decide)
  cases neg with
  | true =>
    have hstart : trimStart (signed true n.text) = '-' :: n.text :=
      List.dropWhile_cons_of_neg (by decide)
    rw [year?, hstart] at h
    obtain ⟨⟨k, s'⟩, hnumber, heq⟩ := Option.map_eq_some_iff.1 h
    cases heq
    exact mark?_of_number? n hnumber
  | false =>
    have hstart : trimStart (signed false n.text) = n.text := by
      rw [signed, if_neg Bool.false_ne_true, htext]
      exact List.dropWhile_cons_of_neg (by
        simp [isBlank_of_isNumeric (isNumeric_of_isDigit hc)])
    have hyear : year? (signed false n.text) =
        (number? 1 4 n.text).map fun p => ((p.1 : Int), p.2) := by
      rw [year?, hstart, htext]
      simp [hminus, hplus]
    rw [hyear] at h
    obtain ⟨⟨k, s'⟩, hnumber, heq⟩ := Option.map_eq_some_iff.1 h
    cases heq
    exact mark?_of_number? n hnumber

theorem dayPart?_signed (neg : Bool) (n : Numeral) : dayPart? (signed neg n.text) = none := by
  rw [dayPart?]
  cases hyear : year? (signed neg n.text) with
  | none => rfl
  | some p =>
    have hmark : mark? '-' p.2 = none := mark?_of_year? neg n hyear
    show (mark? '-' p.2).bind _ = none
    rw [hmark, Option.bind_none]

theorem offsetInstant?_signed (neg : Bool) (n : Numeral) :
    offsetInstant? (signed neg n.text) = none := by
  rw [offsetInstant?]
  cases hnumber : number? 4 4 (signed neg n.text) with
  | none => rfl
  | some p =>
    cases neg with
    | true => cases hnumber
    | false =>
      have hmark : mark? '-' p.2 = none := mark?_of_number? n hnumber
      show (mark? '-' p.2).bind _ = none
      rw [hmark, Option.bind_none]

end Calendar

theorem Instant.read?_number (n : JsonNumber) : Instant.read? n.text = none := by
  obtain ⟨neg, k, htext⟩ := n.exists_numeral
  simp only [Instant.read?]
  rw [n.trim_text, htext, Calendar.offsetInstant?_signed, Calendar.plainInstant?,
    Calendar.plainDay?, Calendar.dayPart?_signed]
  rfl

theorem Day.read?_number (n : JsonNumber) : Day.read? n.text = none := by
  obtain ⟨neg, k, htext⟩ := n.exists_numeral
  rw [Day.read?, Instant.read?_number, n.trim_text, htext, Calendar.plainDay?,
    Calendar.dayPart?_signed]
  rfl

namespace Filter

open RowSieve.Number

/-! ## Scalars as texts -/

/-- The text of a scalar as a scalar. -/
def Scalar.toText (s : Scalar) : Scalar := .text s.asText

/-- The value with the text of each scalar in its place. -/
def RequestValue.toTexts : RequestValue → RequestValue
  | list items => .list (items.map Scalar.toText)
  | scalar s => .scalar s.toText

/-- The request with the text of each scalar of its value in the scalar's place. -/
def Request.toTexts (r : Request) : Request := { r with value? := r.value?.map .toTexts }

namespace Scalar

/-- The text of a number is read as the number. -/
theorem numberOfText?_text (n : JsonNumber) : numberOfText? n.text = (number n).toNumber? := by
  simp only [numberOfText?, n.trim_text]
  cases n with
  | integer n bounds =>
    have htext : (JsonNumber.integer n bounds).text.toList = intText n := String.toList_ofList
    rw [htext, toNumber?, JsonNumber.toInt64?]
    by_cases hn : n < 0x8000000000000000
    · rw [readInteger_intText bounds.1 hn, if_pos hn]
    · obtain ⟨e, he⟩ := readInteger_intText_error (Int.not_lt.1 hn)
      rw [he, if_neg hn, read?_intText]
      rfl
  | real x hx =>
    have htext : (JsonNumber.real x hx).text = x.literal := rfl
    obtain ⟨e, he⟩ := readInteger_literal hx
    rw [htext, he, read?_literal hx]
    rfl

theorem notMem_text_of_not_isNumeric (n : JsonNumber) {c : Char} (hc : isNumeric c = false) :
    c ∉ n.text.toList := by
  obtain ⟨neg, k, htext⟩ := n.exists_numeral
  intro hmem
  rw [isNumeric_of_mem_signed (htext ▸ hmem)] at hc
  cases hc

/-- Of the texts of numbers only those of one and zero write truth values. -/
theorem writesTruth_text_iff (n : JsonNumber) (b : Bool) :
    (text n.text).WritesTruth b ↔ (number n).WritesTruth b := by
  have hone : intText 1 = ['1'] := by rw [intText, toDigits]; rfl
  have hzero : intText 0 = ['0'] := by rw [intText, toDigits]; rfl
  have hinteger {k : Int} (h : numberOfText? n.text = some (.integer k)) :
      (number n).WritesNumber (.integer k) :=
    toNumber?_eq_some.1 ((numberOfText?_text n).symm.trans h)
  constructor
  · intro h
    generalize htext : n.text = t at h
    -- Words have letters that no number is written with, and a number is read back from its text.
    cases h with
    | trueText =>
      exact absurd (by rw [htext]; decide) (notMem_text_of_not_isNumeric n (c := 't') rfl)
    | falseText =>
      exact absurd (by rw [htext]; decide) (notMem_text_of_not_isNumeric n (c := 'f') rfl)
    | oneText =>
      have h1 : numberOfText? n.text = some (.integer 1) := by rw [htext]; rfl
      cases hinteger h1 with
      | integer bounds _ => exact .one bounds
    | zeroText =>
      have h0 : numberOfText? n.text = some (.integer 0) := by rw [htext]; rfl
      cases hinteger h0 with
      | integer bounds _ => exact .zero bounds
  · intro h
    cases h with
    | one _ =>
      rw [JsonNumber.text, hone]
      exact .oneText
    | zero _ =>
      rw [JsonNumber.text, hzero]
      exact .zeroText

theorem toNumber?_toText (s : Scalar) : s.toText.toNumber? = s.toNumber? := by
  cases s with
  | bool b => cases b <;> rfl
  | number n => exact numberOfText?_text n
  | text s => rfl

theorem toBool?_toText (s : Scalar) : s.toText.toBool? = s.toBool? := by
  cases s with
  | bool b => cases b <;> rfl
  | number n =>
    refine Option.ext fun b => ?_
    rw [toBool?_eq_some, toBool?_eq_some]
    exact writesTruth_text_iff n b
  | text s => rfl

theorem toInstant?_toText (s : Scalar) : s.toText.toInstant? = s.toInstant? := by
  cases s with
  | bool b => cases b <;> rfl
  | number n => exact congrArg (Option.map _) (Instant.read?_number n)
  | text s => rfl

theorem toDay?_toText (s : Scalar) : s.toText.toDay? = s.toDay? := by
  cases s with
  | bool b => cases b <;> rfl
  | number n => exact congrArg (Option.map _) (Day.read?_number n)
  | text s => rfl

end Scalar

theorem RequestValue.shown_toTexts (v : RequestValue) : v.toTexts.shown = v.shown := by
  cases v with
  | scalar s => rfl
  | list items =>
    rw [toTexts, shown, shown, List.map_map]
    rfl

namespace Field

variable (f : Field)

theorem datum_toText (s : Scalar) : f.datum s.toText = f.datum s := by
  unfold datum
  rw [s.toNumber?_toText, s.toBool?_toText, s.toInstant?_toText, s.toDay?_toText]
  rfl

theorem data_toText (ss : List Scalar) : f.data (ss.map .toText) = f.data ss := by
  induction ss with
  | nil => rfl
  | cons s ss ih => rw [List.map_cons, data, data, datum_toText, ih]

theorem operand_toTexts (op : Operator) (value? : Option RequestValue) :
    f.operand op (value?.map .toTexts) = f.operand op value? := by
  unfold operand
  rcases value? with _ | ((_ | ⟨s, rest⟩) | s)
  · rfl
  · rfl
  · have hdata : f.data (s.toText :: rest.map .toText) = f.data (s :: rest) :=
      f.data_toText (s :: rest)
    have hshown : (RequestValue.list (s.toText :: rest.map .toText)).shown =
        (RequestValue.list (s :: rest)).shown := RequestValue.shown_toTexts (.list (s :: rest))
    simp only [Option.map_some, RequestValue.toTexts, List.map_cons]
    cases op.arity <;> simp only [hdata, hshown]
  · simp only [Option.map_some, RequestValue.toTexts]
    cases op.arity
    case scalarOrList | scalar => simp only [datum_toText]
    all_goals rfl

theorem predicate_toTexts (r : Request) : f.predicate r.toTexts = f.predicate r := by
  simp only [predicate, Request.toTexts, operand_toTexts]

end Field

theorem Catalog.predicates_toTexts (c : Catalog) (rs : List Request) :
    c.predicates (rs.map .toTexts) = c.predicates rs := by
  induction rs with
  | nil => rfl
  | cons r rs ih =>
    have hone : c.predicate r.toTexts = c.predicate r := by
      simp only [predicate, Field.predicate_toTexts]
      rfl
    rw [List.map_cons, predicates, predicates, ih, hone]

/-! ## Requests as parameters -/

namespace Request

theorem pairs_toTexts (r : Request) : r.toTexts.pairs = r.pairs := by
  obtain ⟨key, operator, value?⟩ := r
  rcases value? with _ | (items | s)
  · rfl
  · exact List.map_map
  · rfl

theorem isList_toTexts (r : Request) : r.toTexts.isList = r.isList := by
  obtain ⟨key, operator, value?⟩ := r
  rcases value? with _ | (items | s) <;> rfl

theorem merges_toTexts {r r' : Request} : r.toTexts.Merges r'.toTexts ↔ r.Merges r' := by
  unfold Merges
  rw [isList_toTexts, isList_toTexts]
  rfl

end Request

/-- A scalar means the same as its text. For every field, the text of each scalar of a request in
the scalar's place gives the same predicate or the same error; and when requests are written as
parameters, which hold the texts alone, the requests that are read from these give every catalog
the same predicates or the same error. -/
theorem texts_filter_alike :
    (∀ (f : Field) (r : Request), f.predicate r.toTexts = f.predicate r) ∧
    ∀ {limits : Limits} {rs : List Request},
      (∀ r ∈ rs, Bracketable r.key ∧ Bracketable r.operator) →
      (∀ r ∈ rs, Writable r.operator r.toTexts.value?) →
      rs.Pairwise (fun r r' => ¬ r.Merges r') → rs.length ≤ limits.maxRequests →
      ∃ rs', intakeParams limits (rs.flatMap Request.pairs) = .ok rs' ∧
        ∀ c : Catalog, c.predicates rs' = c.predicates rs := by
  refine ⟨Field.predicate_toTexts, ?_⟩
  intro limits rs hnames hvalues hlists hcount
  -- Parameters hold the texts, so these are read from them, and the texts filter as the values do.
  have hpairs : (rs.map Request.toTexts).flatMap Request.pairs = rs.flatMap Request.pairs := by
    rw [List.flatMap_map]
    simp only [Request.pairs_toTexts]
  have hread : readParams [] ((rs.map Request.toTexts).flatMap Request.pairs) =
      .ok (rs.map Request.toTexts) := by
    refine readParams_requests ?_ ?_ (by simp)
    · exact List.forall_mem_map.2 fun r hr =>
        ⟨(hnames r hr).1, (hnames r hr).2, hvalues r hr⟩
    · exact List.pairwise_map.2 (hlists.imp fun h => mt Request.merges_toTexts.1 h)
  refine ⟨rs.map .toTexts, ?_, fun c => c.predicates_toTexts rs⟩
  rw [intakeParams, ← hpairs, hread]
  exact if_neg (by rw [List.length_map]; exact Nat.not_lt.2 hcount)

/-- An integer that is too great for 64 bits with a sign, a truth value and a text in one list. -/
theorem texts_filter_alike_mixed_list :
    let r : Request := ⟨"total_amount", "in", some (.list
      [.number (.integer 0x8000000000000000 (by decide)), .bool true, .text "1e3"])⟩
    (∀ f : Field, f.predicate r.toTexts = f.predicate r) ∧
    ∃ rs', intakeParams .standard r.pairs = .ok rs' ∧
      ∀ c : Catalog, c.predicates rs' = c.predicates [r] := by
  intro r
  obtain ⟨hfield, hparams⟩ := texts_filter_alike
  refine ⟨fun f => hfield f r, ?_⟩
  obtain ⟨rs', hrs', h⟩ := @hparams .standard [r] (by decide)
    (List.forall_mem_singleton.2 (.list _ [_, _])) (List.pairwise_singleton _ _) (by decide)
  rw [List.flatMap_singleton] at hrs'
  exact ⟨rs', hrs', h⟩

end Filter

end RowSieve
