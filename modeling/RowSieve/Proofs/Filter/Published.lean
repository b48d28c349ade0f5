/-
What clients read of a catalog is what it accepts. The keys listed are those that requests can
name, each listed once; the operators listed of a field are those that some value suits; and the
labels listed of a choice are those that stand for a code. What is not listed is refused, and the
refusal repeats the list.
-/
import Mathlib.Data.List.Nodup
import RowSieve.Proofs.Filter.Brackets
import RowSieve.Proofs.Filter.Catalog
import RowSieve.Proofs.Filter.Compiled

namespace RowSieve.Filter

open RowSieve.Sql

/-! ## Fields that pass the checks -/

/-- What the checks of a field make sure of: operators only that its kind supports, and of a choice
some label. -/
structure Field.Sound (f : Field) : Prop where
  supported : ∀ op, f.allows op = true → f.kind.supports op = true
  labelled : f.kind = .choice → ∃ m, f.labels? = some m ∧ m.labels ≠ []

namespace Field

variable {f : Field}

theorem supported_of_checkOperators (h : f.checkOperators = .ok ()) {op : Operator}
    (hop : f.allows op = true) : f.kind.supports op = true := by
  unfold checkOperators at h
  split at h
  · cases h
  · split at h
    · cases h
    · rename_i hnone
      have hmem : op ∈ f.operators := List.mem_filter.2 ⟨op.mem_all, hop⟩
      simpa using List.find?_eq_none.1 hnone op hmem

theorem labelled_of_checkLabels (h : f.checkLabels = .ok ()) (hk : f.kind = .choice) :
    ∃ m, f.labels? = some m ∧ m.labels ≠ [] := by
  unfold checkLabels at h
  split at h
  · cases h
  · rename_i hlabels
    cases hm : f.labels? with
    | none => exact absurd ⟨hk, by rw [hm]; rfl⟩ hlabels
    | some m =>
      refine ⟨m, rfl, fun hempty => hlabels ⟨hk, ?_⟩⟩
      rw [hm, Option.all_some, Labels.isEmpty, List.map_eq_nil_iff.1 hempty]
      rfl

theorem sound_of_check (h : f.check = .ok ()) : f.Sound := by
  obtain ⟨-, -, h⟩ := bind_eq_ok.1 h
  obtain ⟨-, -, h⟩ := bind_eq_ok.1 h
  obtain ⟨⟨⟩, hoperators, hlabels⟩ := bind_eq_ok.1 h
  exact ⟨fun _ => supported_of_checkOperators hoperators, labelled_of_checkLabels hlabels⟩

end Field

theorem checkFields_eq_ok : ∀ {fields : List Field} {earlier : List String},
    checkFields earlier fields = .ok () →
      (∀ f ∈ fields, f.Sound ∧ f.key ∉ earlier) ∧ (fields.map (·.key)).Nodup
  | [], _, _ => by simp
  | f :: rest, earlier, h => by
    obtain ⟨⟨⟩, hcheck, h⟩ := bind_eq_ok.1 h
    by_cases hkey : f.key ∈ earlier
    · rw [if_pos hkey] at h
      cases h
    · -- The rest is checked against one more key, which none of its fields then has.
      rw [if_neg hkey] at h
      obtain ⟨hrest, hnodup⟩ := checkFields_eq_ok h
      refine ⟨List.forall_mem_cons.2 ⟨⟨Field.sound_of_check hcheck, hkey⟩, fun g hg => ?_⟩, ?_⟩
      · exact ⟨(hrest g hg).1, List.not_mem_of_not_mem_cons (hrest g hg).2⟩
      · rw [List.map_cons, List.nodup_cons]
        refine ⟨fun hmem => ?_, hnodup⟩
        obtain ⟨g, hg, hsame⟩ := List.mem_map.1 hmem
        exact (hrest g hg).2 (hsame ▸ List.mem_cons_self)

/-! ## Operators and values that are accepted -/

theorem Labels.isSome_code? {m : Labels} {label : String} :
    (m.code? label).isSome ↔ label ∈ m.labels := by
  simp [Labels.code?, Labels.labels]

namespace Field

variable {f : Field}

theorem operator_eq_ok {token : String} {op : Operator} : f.operator token = .ok op ↔
    op.token = token ∧ f.allows op = true ∧ f.kind.supports op = true := by
  have hfound : f.operator token = .ok op ↔
      (Operator.ofToken? token).filter (fun op => f.allows op && f.kind.supports op) = some op := by
    unfold operator
    split <;> rename_i hfilter <;> simp [hfilter]
  rw [hfound, Option.filter_eq_some_iff, Operator.ofToken?_eq_some, Bool.and_eq_true_iff]

theorem mem_operatorTokens {token : String} :
    token ∈ f.operatorTokens ↔ ∃ op, f.allows op = true ∧ op.token = token := by
  simp [operatorTokens, operators, Operator.mem_all]

/-- Of a sound field, the tokens listed are those that name an operator. -/
theorem Sound.operator_ok_iff (h : f.Sound) {token : String} :
    (∃ op, f.operator token = .ok op) ↔ token ∈ f.operatorTokens := by
  rw [mem_operatorTokens]
  constructor
  · rintro ⟨op, hop⟩
    obtain ⟨htoken, hallows, -⟩ := operator_eq_ok.1 hop
    exact ⟨op, hallows, htoken⟩
  · rintro ⟨op, hallows, htoken⟩
    exact ⟨op, operator_eq_ok.2 ⟨htoken, hallows, h.supported op hallows⟩⟩

theorem operator_of_not_mem {token : String} (h : token ∉ f.operatorTokens) :
    f.operator token = .error (.unsupportedOperator f.key token f.operatorTokens) := by
  cases hop : f.operator token with
  | ok op =>
    obtain ⟨htoken, hallows, -⟩ := operator_eq_ok.1 hop
    exact absurd (mem_operatorTokens.2 ⟨op, hallows, htoken⟩) h
  | error e =>
    unfold operator at hop
    split at hop
    · cases hop
    · exact hop.symm

theorem datum_of_code {m : Labels} {s : Scalar} {code : String} (hk : f.kind = .choice)
    (hm : f.labels? = some m) (hcode : m.code? s.asText = some code) :
    f.datum s = .ok (.text code) := by
  unfold datum
  simp only [hk, hm, hcode]

theorem datum_choice {m : Labels} (hk : f.kind = .choice) (hm : f.labels? = some m) (s : Scalar) :
    (s.asText ∈ m.labels ↔ ∃ d, f.datum s = .ok d) ∧
      (s.asText ∉ m.labels → f.datum s = .error (.unknownLabel f.key s.asText m.labels)) := by
  rw [← Labels.isSome_code?]
  unfold datum
  simp only [hk, hm]
  cases m.code? s.asText <;> simp

/-- Every kind of field has a value that it accepts. -/
theorem Sound.exists_datum (h : f.Sound) : ∃ s d, f.datum s = .ok d := by
  cases hk : f.kind with
  | text => exact ⟨.text "", .text "", by rw [datum, hk]; rfl⟩
  | number => exact ⟨.text "0", .integer 0, by rw [datum, hk]; rfl⟩
  | date =>
    obtain ⟨d, hd⟩ : ∃ d, Day.read? "2025-01-15" = some d := ⟨_, rfl⟩
    exact ⟨.text "2025-01-15", .text d.stored, by simp [datum, hk, Scalar.toDay?, hd]⟩
  | datetime =>
    obtain ⟨t, ht⟩ : ∃ t, Instant.read? "2025-01-15" = some t := ⟨_, rfl⟩
    exact ⟨.text "2025-01-15", .text t.stored, by simp [datum, hk, Scalar.toInstant?, ht]⟩
  | boolean => exact ⟨.bool true, .bool true, by rw [datum, hk]; rfl⟩
  | choice =>
    -- Which texts a choice accepts is not known, but the checks leave it one.
    obtain ⟨m, hm, hne⟩ := h.labelled hk
    obtain ⟨label, hlabel⟩ := List.exists_mem_of_ne_nil _ hne
    exact ⟨.text label, (datum_choice hk hm (.text label)).1.1 hlabel⟩

/-- A value that a field accepts suits any operator, alone or in a list. -/
theorem exists_operand {s : Scalar} {d : Datum} (h : f.datum s = .ok d) (op : Operator) :
    ∃ value? value, f.operand op value? = .ok value := by
  have hdata : f.data [s] = .ok [d] := by rw [data, h]; rfl
  cases ha : op.arity with
  | none => exact ⟨none, .none, by simp [operand, ha]⟩
  | list => exact ⟨some (.list [s]), .many [d], by simp [operand, ha, hdata, Except.map]⟩
  | scalar => exact ⟨some (.scalar s), .one d, by simp [operand, ha, h, Except.map]⟩
  | scalarOrList => exact ⟨some (.scalar s), .one d, by simp [operand, ha, h, Except.map]⟩

/-- The tokens listed are those with which some value makes a predicate. -/
theorem Sound.predicate_ok_iff (h : f.Sound) {key token : String} :
    (∃ value? p, f.predicate ⟨key, token, value?⟩ = .ok p) ↔ token ∈ f.operatorTokens := by
  rw [← h.operator_ok_iff]
  constructor
  · rintro ⟨value?, p, hp⟩
    obtain ⟨op, -, hop, -, -⟩ := predicate_eq_ok.1 hp
    exact ⟨op, hop⟩
  · rintro ⟨op, hop⟩
    obtain ⟨s, d, hd⟩ := h.exists_datum
    obtain ⟨value?, value, hv⟩ := exists_operand hd op
    exact ⟨value?, _, predicate_eq_ok.2 ⟨op, value, hop, hv, rfl⟩⟩

example : (ofKind "is_recurring" .boolean).operatorTokens =
    ["equals", "notEquals", "isNull", "isNotNull"] := by decide

theorem predicate_of_not_mem {r : Request} (h : r.operator ∉ f.operatorTokens) :
    f.predicate r = .error (.unsupportedOperator f.key r.operator f.operatorTokens) := by
  rw [predicate, operator_of_not_mem h]
  rfl

end Field

/-! ## What is listed -/

/-- The tokens of the operators listed. -/
def FieldEntry.tokens (e : FieldEntry) : List String := e.operators.map Operator.token

/-- What is listed of a field is what the field accepts: a token when it suits some value, and of
a choice a text when it is one of its values. All else is refused with the list. -/
structure FieldEntry.Describes (e : FieldEntry) (f : Field) : Prop where
  key_eq : f.key = e.key
  kind_eq : f.kind = e.kind
  accepts : ∀ key token,
    token ∈ e.tokens ↔ ∃ value? p, f.predicate ⟨key, token, value?⟩ = .ok p
  refuses : ∀ r : Request, r.operator ∉ e.tokens →
    f.predicate r = .error (.unsupportedOperator e.key r.operator e.tokens)
  labels : e.kind = .choice → ∃ labels, e.labels? = some labels ∧ ∀ s : Scalar,
    (s.asText ∈ labels ↔ ∃ d, f.datum s = .ok d) ∧
      (s.asText ∉ labels → f.datum s = .error (.unknownLabel e.key s.asText labels))

namespace Catalog

variable {c : Catalog}

theorem keys_entries : c.entries.map (·.key) = c.fields.map (·.key) := by
  simp [entries]

theorem nodup_keys : (c.fields.map (·.key)).Nodup := (checkFields_eq_ok c.checked).2

/-- The fields of a catalog are found by their keys. -/
theorem resolve_key {f : Field} (h : f ∈ c.fields) : c.resolve f.key = .ok f := by
  cases hfind : c.find? f.key with
  | none => simpa using List.find?_eq_none.1 hfind f h
  | some g =>
    have hg : c.resolve f.key = .ok g := resolve_eq_ok.2 hfind
    rw [hg, List.inj_on_of_nodup_map nodup_keys (mem_of_resolve hg) h (key_of_resolve hg)]

/-- What is published of a catalog is what it accepts. The keys listed are those that resolve, each
is listed once, and each entry describes the field of its key. -/
theorem entries_describe_fields (c : Catalog) :
    (c.entries.map (·.key)).Nodup ∧
    (∀ key, key ∈ c.entries.map (·.key) ↔ ∃ f, c.resolve key = .ok f) ∧
    ∀ e ∈ c.entries, ∃ f, c.resolve e.key = .ok f ∧ e.Describes f := by
  refine ⟨keys_entries ▸ nodup_keys, fun key => ?_, fun e he => ?_⟩
  · rw [keys_entries, List.mem_map]
    constructor
    · rintro ⟨f, hf, rfl⟩
      exact ⟨f, resolve_key hf⟩
    · rintro ⟨f, hf⟩
      exact ⟨f, mem_of_resolve hf, key_of_resolve hf⟩
  · obtain ⟨f, hf, rfl⟩ := List.mem_map.1 he
    have hsound : f.Sound := ((checkFields_eq_ok c.checked).1 f hf).1
    refine ⟨f, resolve_key hf, rfl, rfl, fun key token => hsound.predicate_ok_iff.symm,
      fun r => Field.predicate_of_not_mem, fun hk => ?_⟩
    obtain ⟨m, hm, -⟩ := hsound.labelled hk
    exact ⟨m.labels, by rw [hm]; rfl, Field.datum_choice hk hm⟩

/-- A choice of two codes with one label, and two of its operators: `in` is accepted with some
list, and neither a test for null nor another text is. -/
theorem entries_describe_fields_shared_label : ∃ (c : Catalog) (f : Field),
    c.resolve "state" = .ok f ∧
    (∃ value? p, f.predicate ⟨"state", "in", value?⟩ = .ok p) ∧
    f.predicate ⟨"state", "isNull", none⟩ =
      .error (.unsupportedOperator "state" "isNull" ["equals", "in"]) ∧
    f.datum (.text "shut") = .error (.unknownLabel "state" "shut" ["open", "open"]) := by
  let c : Catalog := ⟨[((Field.ofKind "state" .choice).only [.equals, .among]).labelled
    ⟨[("O", "open"), ("R", "open")]⟩], rfl⟩
  let entry : FieldEntry := ⟨"state", .choice, [.equals, .among], some ["open", "open"]⟩
  obtain ⟨f, hf, h⟩ := (entries_describe_fields c).2.2 entry List.mem_cons_self
  obtain ⟨labels, hlabels, hs⟩ := h.labels rfl
  cases hlabels
  exact ⟨c, f, hf, (h.accepts "state" "in").1 (by decide), h.refuses _ (by decide),
    (hs (.text "shut")).2 (by decide)⟩

end Catalog

end RowSieve.Filter
