/-
The limits on the filters of a query. The number of requests is compared with the limit behind the
bracket parameters, behind each JSON text, and at the end; on success these come to one comparison
of all requests together. A query that is refused fails the first of the checks in that order, of
which those of a JSON text are its size, its reading, and its number of requests.
-/
import RowSieve.Proofs.Filter.Merging
import RowSieve.Proofs.Sql.Resolution

namespace RowSieve.Filter

variable {limits : Limits} {pairs : List (String × String)} {rs all : List Request} {text : String}
  {e : IntakeError}

theorem limited_eq_error : limited limits rs = .error e ↔
    limits.maxRequests < rs.length ∧ e = .tooMany limits.maxRequests := by
  unfold limited
  split
  · rename_i h
    simp [h, eq_comm]
  · rename_i h
    simp [h]

/-! ## JSON texts -/

/-- The requests that a text of an allowed size writes. -/
def Writes (limits : Limits) (text : String) (rs : List Request) : Prop :=
  text.utf8ByteSize ≤ limits.maxJsonBytes ∧ Request.listOfText text = .ok rs

/-- Why a JSON text is refused by itself. -/
inductive JsonRefused (limits : Limits) (text : String) : IntakeError → Prop where
  | size (h : limits.maxJsonBytes < text.utf8ByteSize) :
      JsonRefused limits text (.jsonTooLarge limits.maxJsonBytes)
  | reading {fault : Json.Fault} (hsize : text.utf8ByteSize ≤ limits.maxJsonBytes)
      (h : Request.listOfText text = .error fault) : JsonRefused limits text (.badJson fault)
  | count {rs : List Request} (hwrites : Writes limits text rs)
      (h : limits.maxRequests < rs.length) :
      JsonRefused limits text (.tooMany limits.maxRequests)

theorem intakeJson_eq_ok : intakeJson limits text = .ok rs ↔
    Writes limits text rs ∧ rs.length ≤ limits.maxRequests := by
  unfold intakeJson Writes
  split
  · rename_i h
    simp [Nat.not_le.2 h]
  · rename_i h
    rw [Nat.not_lt] at h
    cases Request.listOfText text with
    | error fault => simp
    | ok js =>
      simp only [limited_eq_ok, Except.ok.injEq, h, true_and]
      rw [eq_comm (a := js)]
      exact and_congr_right fun h => by rw [h]

theorem intakeJson_eq_error : intakeJson limits text = .error e ↔ JsonRefused limits text e := by
  constructor
  · intro h
    unfold intakeJson at h
    split at h
    · rename_i hsize
      cases h
      exact .size hsize
    · rename_i hsize
      rw [Nat.not_lt] at hsize
      split at h
      · rename_i fault hread
        cases h
        exact .reading hsize hread
      · rename_i js hread
        obtain ⟨hcount, rfl⟩ := limited_eq_error.1 h
        exact .count ⟨hsize, hread⟩ hcount
  · intro h
    unfold intakeJson
    cases h with
    | size h => rw [if_pos h]
    | reading hsize h => rw [if_neg (Nat.not_lt.2 hsize), h]
    | count hwrites h =>
      rw [if_neg (Nat.not_lt.2 hwrites.1), hwrites.2]
      exact limited_eq_error.2 ⟨h, rfl⟩

/-- The JSON texts of a query, in their order. -/
abbrev jsonTexts (pairs : List (String × String)) : List String := textsOf jsonParam pairs

theorem jsonTexts_cons (x : String × String) (pairs : List (String × String)) :
    jsonTexts (x :: pairs) =
      if x.1 = jsonParam then x.2 :: jsonTexts pairs else jsonTexts pairs := by
  rw [jsonTexts, textsOf, List.filter_cons]
  simp only [decide_eq_true_eq]
  split <;> rfl

theorem addJson_eq_ok : addJson limits rs pairs = .ok all ↔ ∃ jss,
    List.Forall₂ (fun text js => intakeJson limits text = .ok js) (jsonTexts pairs) jss ∧
      all = rs ++ jss.flatten := by
  induction pairs generalizing rs with
  | nil => simp [addJson, jsonTexts, textsOf, eq_comm]
  | cons x pairs ih =>
    rw [addJson, jsonTexts_cons]
    split
    · rw [Sql.bind_eq_ok]
      simp only [ih, List.forall₂_cons_left_iff]
      constructor
      · rintro ⟨js, hjs, jss, hjss, rfl⟩
        exact ⟨js :: jss, ⟨js, jss, hjs, hjss, rfl⟩, by simp⟩
      · rintro ⟨-, ⟨js, jss, hjs, hjss, rfl⟩, rfl⟩
        exact ⟨js, hjs, jss, hjss, by simp⟩
    · exact ih

/-- The first JSON text that is refused decides the error. -/
theorem addJson_eq_error : addJson limits rs pairs = .error e ↔ ∃ before text after,
    jsonTexts pairs = before ++ text :: after ∧
      (∀ t ∈ before, ∃ js, intakeJson limits t = .ok js) ∧ intakeJson limits text = .error e := by
  induction pairs generalizing rs with
  | nil => simp [addJson, jsonTexts, textsOf]
  | cons x pairs ih =>
    rw [addJson, jsonTexts_cons]
    split
    · rw [Sql.bind_eq_error]
      simp only [ih]
      constructor
      · rintro (h | ⟨js, hjs, before, text, after, hs, hb, h⟩)
        · exact ⟨[], x.2, _, rfl, by simp, h⟩
        · exact ⟨x.2 :: before, text, after, by rw [hs, List.cons_append],
            List.forall_mem_cons.2 ⟨⟨js, hjs⟩, hb⟩, h⟩
      · rintro ⟨before, text, after, hs, hb, h⟩
        cases before with
        | nil =>
          cases hs
          exact .inl h
        | cons t before =>
          rw [List.cons_append, List.cons.injEq] at hs
          obtain ⟨rfl, hs⟩ := hs
          obtain ⟨⟨js, hjs⟩, hb⟩ := List.forall_mem_cons.1 hb
          exact .inr ⟨js, hjs, before, text, after, hs, hb, h⟩
    · exact ih

/-! ## Bracket parameters -/

theorem find_malformed_iff {name : String} :
    pairs.find? (fun x => ParamName.read x.1 = .malformed) = some (name, text) ↔
      ∃ before after, pairs = before ++ (name, text) :: after ∧
        (∀ x ∈ before, ParamName.Readable x.1) ∧ ¬ParamName.Readable name := by
  rw [List.find?_eq_some_iff_append]
  simp only [ParamName.read_eq_malformed_iff_not_readable, decide_eq_true_eq, Bool.not_eq_true',
    decide_eq_false_iff_not, Classical.not_not]
  constructor
  · rintro ⟨hn, before, after, hs, hb⟩
    exact ⟨before, after, hs, hb, hn⟩
  · rintro ⟨before, after, hs, hb, hn⟩
    exact ⟨hn, before, after, hs, hb⟩

theorem intakeParams_eq_error : intakeParams limits pairs = .error e ↔
    (∃ before name text after, pairs = before ++ (name, text) :: after ∧
      (∀ x ∈ before, ParamName.Readable x.1) ∧ ¬ParamName.Readable name ∧ e = .badParam name) ∨
    ∃ rs, ((∀ x ∈ pairs, ParamName.Readable x.1) ∧ Merged pairs rs) ∧
      limits.maxRequests < rs.length ∧ e = .tooMany limits.maxRequests := by
  constructor
  · intro h
    unfold intakeParams at h
    split at h
    · rename_i name hname
      cases h
      obtain ⟨text, hf⟩ := readParams_eq_error.1 hname
      obtain ⟨before, after, hs, hb, hn⟩ := find_malformed_iff.1 hf
      exact .inl ⟨before, name, text, after, hs, hb, hn, rfl⟩
    · rename_i rs hrs
      exact .inr ⟨rs, readParams_eq_ok.1 hrs, limited_eq_error.1 h⟩
  · unfold intakeParams
    rintro (⟨before, name, text, after, hs, hb, hn, rfl⟩ | ⟨rs, hrs, h⟩)
    · rw [readParams_eq_error.2 ⟨text, find_malformed_iff.2 ⟨before, after, hs, hb, hn⟩⟩]
    · rw [readParams_eq_ok.2 hrs]
      exact limited_eq_error.2 h

/-! ## All checks of a query -/

theorem intake_eq_ok : intake limits pairs = .ok all ↔ ∃ rs, intakeParams limits pairs = .ok rs ∧
    addJson limits rs pairs = .ok all ∧ all.length ≤ limits.maxRequests := by
  unfold intake
  simp only [Sql.bind_eq_ok, limited_eq_ok]
  constructor
  · rintro ⟨rs, hrs, all, hall, rfl, hcount⟩
    exact ⟨rs, hrs, hall, hcount⟩
  · rintro ⟨rs, hrs, hall, hcount⟩
    exact ⟨rs, hrs, all, hall, rfl, hcount⟩

theorem intake_eq_error : intake limits pairs = .error e ↔ intakeParams limits pairs = .error e ∨
    ∃ rs, intakeParams limits pairs = .ok rs ∧ (addJson limits rs pairs = .error e ∨
      ∃ all, addJson limits rs pairs = .ok all ∧ limits.maxRequests < all.length ∧
        e = .tooMany limits.maxRequests) := by
  unfold intake
  simp only [Sql.bind_eq_error, limited_eq_error]

/-- The first check that a query fails, all checks before it having passed, and the error. -/
inductive Refused (limits : Limits) (pairs : List (String × String)) : IntakeError → Prop where
  | name {before after : List (String × String)} {name text : String}
      (hpairs : pairs = before ++ (name, text) :: after)
      (hbefore : ∀ x ∈ before, ParamName.Readable x.1) (h : ¬ParamName.Readable name) :
      Refused limits pairs (.badParam name)
  | params {rs : List Request} (hnames : ∀ x ∈ pairs, ParamName.Readable x.1)
      (hrs : Merged pairs rs) (h : limits.maxRequests < rs.length) :
      Refused limits pairs (.tooMany limits.maxRequests)
  | json {rs : List Request} {before after : List String} {text : String} {e : IntakeError}
      (hnames : ∀ x ∈ pairs, ParamName.Readable x.1) (hrs : Merged pairs rs)
      (hcount : rs.length ≤ limits.maxRequests) (htexts : jsonTexts pairs = before ++ text :: after)
      (hbefore : ∀ t ∈ before, ∀ e, ¬JsonRefused limits t e) (h : JsonRefused limits text e) :
      Refused limits pairs e
  | total {rs : List Request} {jss : List (List Request)}
      (hnames : ∀ x ∈ pairs, ParamName.Readable x.1) (hrs : Merged pairs rs)
      (hcount : rs.length ≤ limits.maxRequests)
      (hjss : List.Forall₂ (Writes limits) (jsonTexts pairs) jss)
      (hcounts : ∀ js ∈ jss, js.length ≤ limits.maxRequests)
      (h : limits.maxRequests < (rs ++ jss.flatten).length) :
      Refused limits pairs (.tooMany limits.maxRequests)

theorem forall₂_intakeJson_iff {texts : List String} {jss : List (List Request)} :
    List.Forall₂ (fun text js => intakeJson limits text = .ok js) texts jss ↔
      List.Forall₂ (Writes limits) texts jss ∧ ∀ js ∈ jss, js.length ≤ limits.maxRequests := by
  simp only [intakeJson_eq_ok]
  constructor
  · intro h
    induction h with
    | nil => simp
    | cons hjs _ ih => exact ⟨.cons hjs.1 ih.1, List.forall_mem_cons.2 ⟨hjs.2, ih.2⟩⟩
  · rintro ⟨h, hcounts⟩
    induction h with
    | nil => exact .nil
    | cons hjs _ ih =>
      obtain ⟨hcount, hcounts⟩ := List.forall_mem_cons.1 hcounts
      exact .cons ⟨hjs, hcount⟩ (ih hcounts)

theorem exists_intakeJson_iff :
    (∃ js, intakeJson limits text = .ok js) ↔ ∀ e, ¬JsonRefused limits text e := by
  simp only [← intakeJson_eq_error]
  cases intakeJson limits text <;> simp

/-- A query fails as the first check that it does not pass. -/
theorem intake_eq_error_iff_refused : intake limits pairs = .error e ↔ Refused limits pairs e := by
  rw [intake_eq_error, intakeParams_eq_error]
  simp only [intakeParams_eq_ok, addJson_eq_error, addJson_eq_ok, forall₂_intakeJson_iff,
    exists_intakeJson_iff, intakeJson_eq_error]
  constructor
  · rintro ((⟨before, name, text, after, hs, hb, hn, rfl⟩ | ⟨rs, ⟨hnames, hm⟩, h, rfl⟩) |
      ⟨rs, ⟨⟨hnames, hm⟩, hcount⟩, ⟨before, text, after, hs, hb, h⟩ |
        ⟨all, ⟨jss, ⟨hjss, hcounts⟩, rfl⟩, h, rfl⟩⟩)
    · exact .name hs hb hn
    · exact .params hnames hm h
    · exact .json hnames hm hcount hs hb h
    · exact .total hnames hm hcount hjss hcounts h
  · intro h
    cases h with
    | name hs hb hn => exact .inl (.inl ⟨_, _, _, _, hs, hb, hn, rfl⟩)
    | params hnames hm h => exact .inl (.inr ⟨_, ⟨hnames, hm⟩, h, rfl⟩)
    | json hnames hm hcount hs hb h =>
      exact .inr ⟨_, ⟨⟨hnames, hm⟩, hcount⟩, .inl ⟨_, _, _, hs, hb, h⟩⟩
    | total hnames hm hcount hjss hcounts h =>
      exact .inr ⟨_, ⟨⟨hnames, hm⟩, hcount⟩, .inr ⟨_, ⟨_, ⟨hjss, hcounts⟩, rfl⟩, h, rfl⟩⟩

/-- The limits bound the whole of a query. Its filters are taken in exactly when every name that
opens like a filter's has one of its forms, every JSON text is of an allowed size and writes
requests, and all requests together are not too many; they are those of the bracket parameters and
behind them those of the JSON texts, in their order. Otherwise the error is that of the first check
which is not passed: the names, the number of bracket requests, each JSON text by itself, and the
number of all. -/
theorem limits_bound_whole (limits : Limits) (pairs : List (String × String)) :
    (∀ all, intake limits pairs = .ok all ↔ (∀ x ∈ pairs, ParamName.Readable x.1) ∧
      ∃ rs jss, Merged pairs rs ∧ List.Forall₂ (Writes limits) (jsonTexts pairs) jss ∧
        all = rs ++ jss.flatten ∧ all.length ≤ limits.maxRequests) ∧
    ∀ e, intake limits pairs = .error e ↔ Refused limits pairs e := by
  refine ⟨fun all => ?_, fun e => intake_eq_error_iff_refused⟩
  rw [intake_eq_ok]
  simp only [intakeParams_eq_ok, addJson_eq_ok, forall₂_intakeJson_iff]
  constructor
  · rintro ⟨rs, ⟨⟨hnames, hm⟩, -⟩, ⟨jss, ⟨hjss, -⟩, rfl⟩, hcount⟩
    exact ⟨hnames, rs, jss, hm, hjss, rfl, hcount⟩
  · rintro ⟨hnames, rs, jss, hm, hjss, rfl, hcount⟩
    -- each part has no more requests than the whole
    have hlength := hcount
    rw [List.length_append] at hlength
    have hparts : ∀ js ∈ jss, js.length ≤ jss.flatten.length := fun js hjs =>
      (List.sublist_flatten_of_mem hjs).length_le
    refine ⟨rs, ⟨⟨hnames, hm⟩, by omega⟩, ⟨jss, ⟨hjss, fun js hjs => ?_⟩, rfl⟩, hcount⟩
    have := hparts js hjs
    omega

-- A malformed name is told before what is wrong with the JSON text and with the number.
example : intake ⟨0, 64⟩ [("filters", "["), ("filter[a]", "1"), ("filter[a]b", "1")] =
    .error (.badParam "filter[a]b") := rfl

end RowSieve.Filter
