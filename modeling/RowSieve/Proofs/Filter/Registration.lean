/-
Registering fields. Fields make a catalog exactly when each is well formed by itself and no key
repeats; otherwise the first field that is not well formed or repeats an earlier key decides the
error. A register that keeps the place of each key while it checks the fields refuses the same ones
for the same reasons, and finds each field by its key.
-/
import Mathlib.Data.List.Induction
import RowSieve.Proofs.Filter.Path
import RowSieve.Proofs.Filter.Published

namespace RowSieve.Filter

open RowSieve.Sql (bind_eq_ok bind_eq_error)

/-! ## One check after another -/

section Checks

variable {ε : Type} {x y : Except ε Unit} {e : ε}

theorem checks_eq_ok : (x >>= fun _ => y) = .ok () ↔ x = .ok () ∧ y = .ok () := by
  rw [bind_eq_ok]
  exact ⟨fun ⟨_, hx, hy⟩ => ⟨hx, hy⟩, fun ⟨hx, hy⟩ => ⟨(), hx, hy⟩⟩

theorem checks_eq_error :
    (x >>= fun _ => y) = .error e ↔ x = .error e ∨ x = .ok () ∧ y = .error e := by
  rw [bind_eq_error]
  exact or_congr_right ⟨fun ⟨_, hx, hy⟩ => ⟨hx, hy⟩, fun ⟨hx, hy⟩ => ⟨(), hx, hy⟩⟩

end Checks

/-! ## Fields by themselves -/

/-- A field whose key and path are dotted identifiers, that allows an operator and none that its
kind does not support, and that has labels if it is a choice. -/
structure Field.WellFormed (f : Field) : Prop extends Field.Sound f where
  key_dotted : Path.IsDotted f.key
  path_dotted : Path.IsDotted f.columnPath
  allows_some : ∃ op, f.allows op = true

/-- The first operator that the field allows although its kind does not support it. -/
def Field.FirstUnsupported (f : Field) (op : Operator) : Prop :=
  ∃ before after, f.operators = before ++ op :: after ∧
    (∀ o ∈ before, f.kind.supports o = true) ∧ f.kind.supports op = false

/-- What is wrong with a field by itself: its paths are looked at before its operators, and these
before its labels. -/
inductive Field.Flaw (f : Field) : CatalogError → Prop where
  | key {reason : PathError} : Path.Flaw f.key reason → Flaw f (.badPath f.key reason)
  | path {reason : PathError} : Path.IsDotted f.key → Path.Flaw f.columnPath reason →
      Flaw f (.badPath f.key reason)
  | noOperators : Path.IsDotted f.key → Path.IsDotted f.columnPath →
      (∀ op, f.allows op = false) → Flaw f (.noOperators f.key)
  | unsupported {op : Operator} : Path.IsDotted f.key → Path.IsDotted f.columnPath →
      f.FirstUnsupported op → Flaw f (.unsupportedOperator f.key op f.kind)
  | noLabels : Path.IsDotted f.key → Path.IsDotted f.columnPath → (∃ op, f.allows op = true) →
      (∀ op, f.allows op = true → f.kind.supports op = true) → f.kind = .choice →
      (∀ m, f.labels? = some m → m.labels = []) → Flaw f (.noLabels f.key)

namespace Field

variable {f : Field} {e : CatalogError}

theorem checkPath_eq_ok {path : String} : f.checkPath path = .ok () ↔ Path.IsDotted path := by
  unfold checkPath
  split
  · rename_i p hp
    exact ⟨fun _ => (Path.ofText?_eq_ok.1 hp).1, fun _ => rfl⟩
  · rename_i reason hreason
    refine ⟨fun h => (by cases h), fun h => ?_⟩
    rw [Path.ofText?_eq_ok.2 ⟨h, rfl⟩] at hreason
    cases hreason

theorem checkPath_eq_error {path : String} : f.checkPath path = .error e ↔
    ∃ reason, Path.Flaw path reason ∧ e = .badPath f.key reason := by
  simp only [← Path.ofText?_eq_error, checkPath]
  cases Path.ofText? path with
  | ok p => simp
  | error reason => simp [eq_comm]

theorem mem_operators {op : Operator} : op ∈ f.operators ↔ f.allows op = true := by
  simp [operators, Operator.mem_all]

theorem isEmpty_operators : f.operators.isEmpty = true ↔ ∀ op, f.allows op = false := by
  simp only [List.isEmpty_iff, List.eq_nil_iff_forall_not_mem, mem_operators, Bool.not_eq_true]

theorem checkOperators_eq_ok : f.checkOperators = .ok () ↔
    (∃ op, f.allows op = true) ∧ ∀ op, f.allows op = true → f.kind.supports op = true := by
  constructor
  · intro h
    refine ⟨?_, fun op => supported_of_checkOperators h⟩
    by_contra hnone
    have hempty : f.operators.isEmpty = true := isEmpty_operators.2 (by simpa using hnone)
    rw [checkOperators, if_pos hempty] at h
    cases h
  · rintro ⟨⟨op, hop⟩, hsupported⟩
    have hfind : f.operators.find? (!f.kind.supports ·) = none := by
      simpa [mem_operators] using hsupported
    rw [checkOperators, if_neg, hfind]
    rw [isEmpty_operators]
    exact fun hnone => by rw [hnone op] at hop; cases hop

theorem find?_operators {op : Operator} :
    f.operators.find? (!f.kind.supports ·) = some op ↔ f.FirstUnsupported op := by
  simp only [List.find?_eq_some_iff_append, FirstUnsupported, Bool.not_not, Bool.not_eq_true']
  constructor
  · rintro ⟨hop, before, after, hsplit, hbefore⟩
    exact ⟨before, after, hsplit, hbefore, hop⟩
  · rintro ⟨before, after, hsplit, hbefore, hop⟩
    exact ⟨hop, before, after, hsplit, hbefore⟩

theorem checkOperators_eq_error : f.checkOperators = .error e ↔
    (∀ op, f.allows op = false) ∧ e = .noOperators f.key ∨
      ∃ op, f.FirstUnsupported op ∧ e = .unsupportedOperator f.key op f.kind := by
  unfold checkOperators
  split
  · rename_i hempty
    have hnone : ∀ op, f.allows op = false := isEmpty_operators.1 hempty
    have hfirst : ∀ op, ¬ f.FirstUnsupported op := by
      intro op hop
      rw [← find?_operators, List.isEmpty_iff.1 hempty] at hop
      cases hop
    simp [hnone, hfirst, eq_comm]
  · rename_i hempty
    rw [isEmpty_operators] at hempty
    simp only [hempty, false_and, false_or, ← find?_operators]
    cases f.operators.find? (!f.kind.supports ·) <;> simp [eq_comm]

theorem checkLabels_eq_ok : f.checkLabels = .ok () ↔
    (f.kind = .choice → ∃ m, f.labels? = some m ∧ m.labels ≠ []) := by
  refine ⟨labelled_of_checkLabels, fun h => if_neg ?_⟩
  rintro ⟨hk, hempty⟩
  obtain ⟨m, hm, hne⟩ := h hk
  rw [hm, Option.all_some, Labels.isEmpty, List.isEmpty_iff] at hempty
  exact hne (List.map_eq_nil_iff.2 hempty)

theorem checkLabels_eq_error : f.checkLabels = .error e ↔
    f.kind = .choice ∧ (∀ m, f.labels? = some m → m.labels = []) ∧ e = .noLabels f.key := by
  have hempty : f.labels?.all Labels.isEmpty = true ↔ ∀ m, f.labels? = some m → m.labels = [] := by
    cases f.labels? <;> simp [Labels.isEmpty, Labels.labels]
  unfold checkLabels
  simp only [hempty, ← and_assoc]
  split
  · rename_i h
    rw [Except.error.injEq, and_iff_right h, eq_comm]
  · rename_i h
    exact ⟨fun h' => (by cases h'), fun h' => absurd h'.1 h⟩

/-- The checks of a field let just the well-formed ones pass. -/
theorem check_eq_ok : f.check = .ok () ↔ f.WellFormed := by
  simp only [check, checks_eq_ok, checkPath_eq_ok, checkOperators_eq_ok, checkLabels_eq_ok]
  constructor
  · rintro ⟨hkey, hpath, ⟨hsome, hsupported⟩, hlabels⟩
    exact ⟨⟨hsupported, hlabels⟩, hkey, hpath, hsome⟩
  · rintro ⟨⟨hsupported, hlabels⟩, hkey, hpath, hsome⟩
    exact ⟨hkey, hpath, ⟨hsome, hsupported⟩, hlabels⟩

theorem check_eq_error : f.check = .error e ↔ f.Flaw e := by
  simp only [check, checks_eq_error, checkPath_eq_ok, checkPath_eq_error, checkOperators_eq_ok,
    checkOperators_eq_error, checkLabels_eq_error]
  constructor
  · rintro (⟨reason, h, rfl⟩ | ⟨hkey, ⟨reason, h, rfl⟩ | ⟨hpath, hrest⟩⟩)
    · exact .key h
    · exact .path hkey h
    · rcases hrest with (⟨hnone, rfl⟩ | ⟨op, hop, rfl⟩) | ⟨⟨hsome, hsupported⟩, hk, h, rfl⟩
      · exact .noOperators hkey hpath hnone
      · exact .unsupported hkey hpath hop
      · exact .noLabels hkey hpath hsome hsupported hk h
  · intro h
    cases h with
    | key h => exact .inl ⟨_, h, rfl⟩
    | path hkey h => exact .inr ⟨hkey, .inl ⟨_, h, rfl⟩⟩
    | noOperators hkey hpath h => exact .inr ⟨hkey, .inr ⟨hpath, .inl (.inl ⟨h, rfl⟩)⟩⟩
    | unsupported hkey hpath h => exact .inr ⟨hkey, .inr ⟨hpath, .inl (.inr ⟨_, h, rfl⟩)⟩⟩
    | noLabels hkey hpath hsome hsupported hk h =>
      exact .inr ⟨hkey, .inr ⟨hpath, .inr ⟨⟨hsome, hsupported⟩, hk, h, rfl⟩⟩⟩

end Field

/-! ## Lists of fields -/

/-- Fields that can be registered together. -/
structure Registrable (fields : List Field) : Prop where
  distinct : (fields.map (·.key)).Nodup
  wellFormed : ∀ f ∈ fields, f.WellFormed

/-- Why fields cannot be registered: the first of them that is not well formed, or that has the key
of an earlier one. A field that is not well formed is reported as such even if its key repeats. -/
inductive Unregistrable : List Field → CatalogError → Prop where
  | flaw {before : List Field} {f : Field} {e : CatalogError} (after : List Field) :
      Registrable before → f.Flaw e → Unregistrable (before ++ f :: after) e
  | repeated {before : List Field} {f : Field} (after : List Field) :
      Registrable before → f.WellFormed → f.key ∈ before.map (·.key) →
      Unregistrable (before ++ f :: after) (.duplicateKey f.key)

section Lists

variable {fields before rest : List Field} {f : Field} {e : CatalogError}

theorem registrable_append_singleton : Registrable (before ++ [f]) ↔
    Registrable before ∧ f.WellFormed ∧ f.key ∉ before.map (·.key) := by
  constructor
  · rintro ⟨hdistinct, hall⟩
    rw [List.map_append, List.nodup_append] at hdistinct
    rw [List.forall_mem_append, List.forall_mem_singleton] at hall
    refine ⟨⟨hdistinct.1, hall.1⟩, hall.2, fun hmem => ?_⟩
    exact hdistinct.2.2 f.key hmem f.key List.mem_cons_self rfl
  · rintro ⟨⟨hdistinct, hall⟩, hf, hnew⟩
    refine ⟨?_, ?_⟩
    · rw [List.map_append, List.nodup_append]
      refine ⟨hdistinct, List.nodup_singleton _, fun key hkey other hother => ?_⟩
      rw [List.mem_singleton.1 hother]
      rintro rfl
      exact hnew hkey
    · rw [List.forall_mem_append, List.forall_mem_singleton]
      exact ⟨hall, hf⟩

/-- Fields can be registered together, or there is a reason why not. -/
theorem registrable_or_unregistrable (fields : List Field) :
    Registrable fields ∨ ∃ e, Unregistrable fields e := by
  induction fields using List.reverseRecOn with
  | nil => exact .inl ⟨List.nodup_nil, fun f hf => absurd hf List.not_mem_nil⟩
  | append_singleton before f ih =>
    rcases ih with hb | ⟨e, h⟩
    · cases hcheck : f.check with
      | error e => exact .inr ⟨e, .flaw [] hb (Field.check_eq_error.1 hcheck)⟩
      | ok u =>
        have hf : f.WellFormed := Field.check_eq_ok.1 hcheck
        by_cases hkey : f.key ∈ before.map (·.key)
        · exact .inr ⟨_, .repeated [] hb hf hkey⟩
        · exact .inl (registrable_append_singleton.2 ⟨hb, hf, hkey⟩)
    · -- What ends the registration before the last field ends it with that field as well.
      obtain ⟨after, hb, hf⟩ | ⟨after, hb, hf, hkey⟩ := h
      · exact .inr ⟨_, by rw [List.append_assoc]; exact .flaw (after ++ [f]) hb hf⟩
      · exact .inr ⟨_, by rw [List.append_assoc]; exact .repeated (after ++ [f]) hb hf hkey⟩

/-- What comes of fields both ways is settled by what comes of those that can be registered
together, and of the others. -/
theorem outcome_iff {α : Type} {x : Except CatalogError α}
    (hok : Registrable fields → ∃ a, x = .ok a)
    (herror : ∀ e, Unregistrable fields e → x = .error e) :
    ((∃ a, x = .ok a) ↔ Registrable fields) ∧ ∀ e, x = .error e ↔ Unregistrable fields e := by
  rcases registrable_or_unregistrable fields with h | ⟨e, h⟩
  · obtain ⟨a, ha⟩ := hok h
    refine ⟨⟨fun _ => h, fun _ => ⟨a, ha⟩⟩, fun e => ⟨fun he => ?_, herror e⟩⟩
    rw [ha] at he
    cases he
  · have he : x = .error e := herror e h
    refine ⟨⟨fun ⟨a, ha⟩ => ?_, hok⟩, fun e' => ⟨fun he' => ?_, herror e'⟩⟩
    · rw [he] at ha
      cases ha
    · rw [he] at he'
      cases he'
      exact h

/-! ## Catalogs -/

theorem checkFields_of_wellFormed {earlier : List String} (hf : f.WellFormed)
    (rest : List Field) : checkFields earlier (f :: rest) =
      if f.key ∈ earlier then .error (.duplicateKey f.key)
      else checkFields (f.key :: earlier) rest := by
  rw [checkFields, Field.check_eq_ok.2 hf]
  rfl

/-- Fields that can be registered together pass, and their keys are kept. -/
theorem checkFields_append (hb : Registrable before) :
    ∃ earlier, (∀ key, key ∈ earlier ↔ key ∈ before.map (·.key)) ∧
      ∀ rest, checkFields [] (before ++ rest) = checkFields earlier rest := by
  induction before using List.reverseRecOn with
  | nil => exact ⟨[], fun _ => Iff.rfl, fun _ => rfl⟩
  | append_singleton before f ih =>
    obtain ⟨hb, hf, hnew⟩ := registrable_append_singleton.1 hb
    obtain ⟨earlier, hkeys, hstep⟩ := ih hb
    refine ⟨f.key :: earlier, fun key => ?_, fun rest => ?_⟩
    · rw [List.map_append, List.mem_append, List.mem_cons, hkeys, or_comm]
      simp
    · rw [List.append_assoc, hstep]
      exact (checkFields_of_wellFormed hf rest).trans (if_neg (mt (hkeys _).1 hnew))

theorem checkFields_of_registrable (h : Registrable fields) : checkFields [] fields = .ok () := by
  obtain ⟨earlier, -, hstep⟩ := checkFields_append h
  rw [← List.append_nil fields, hstep]
  rfl

theorem checkFields_of_unregistrable (h : Unregistrable fields e) :
    checkFields [] fields = .error e := by
  cases h with
  | flaw after hb hf =>
    obtain ⟨earlier, -, hstep⟩ := checkFields_append hb
    rw [hstep, checkFields, Field.check_eq_error.2 hf]
    rfl
  | repeated after hb hf hkey =>
    obtain ⟨earlier, hkeys, hstep⟩ := checkFields_append hb
    rw [hstep, checkFields_of_wellFormed hf, if_pos ((hkeys _).2 hkey)]

end Lists

/-- A lookup that finds each of the fields by its key, and nothing by any other text. -/
structure FindsByKey (fields : List Field) (find? : String → Option Field) : Prop where
  some_iff : ∀ key f, find? key = some f ↔ f ∈ fields ∧ f.key = key
  none_iff : ∀ key, find? key = none ↔ ∀ f ∈ fields, f.key ≠ key

namespace Catalog

theorem ofFields_of_registrable {fields : List Field} (h : Registrable fields) :
    ∃ c, ofFields fields = .ok c :=
  ⟨⟨fields, checkFields_of_registrable h⟩, ofFields_eq_ok.2 rfl⟩

theorem ofFields_of_unregistrable {fields : List Field} {e : CatalogError}
    (h : Unregistrable fields e) : ofFields fields = .error e := by
  have hcheck := checkFields_of_unregistrable h
  unfold ofFields
  split <;> rename_i hresult <;> rw [hcheck] at hresult <;> cases hresult
  rfl

theorem findsByKey (c : Catalog) : FindsByKey c.fields c.find? where
  some_iff key f := by
    constructor
    · intro h
      have hf : c.resolve key = .ok f := resolve_eq_ok.2 h
      exact ⟨mem_of_resolve hf, key_of_resolve hf⟩
    · rintro ⟨hf, rfl⟩
      exact resolve_eq_ok.1 (resolve_key hf)
  none_iff key := by
    rw [find?, List.find?_eq_none]
    simp only [beq_iff_eq, ne_eq]

end Catalog

/-! ## Places of keys -/

/-- Fields, and the place of each key among them. -/
structure Register where
  fields : List Field
  places : Std.HashMap String Nat

namespace Register

/-- Checks fields that stand from the place `n` on, and enters the place of each key. A key that was
there already is found out as it is entered again. -/
def enter (n : Nat) (places : Std.HashMap String Nat) :
    List Field → Except CatalogError (Std.HashMap String Nat)
  | [] => .ok places
  | f :: rest => do
    f.check
    let (taken, places) := places.containsThenInsert f.key n
    if taken then .error (.duplicateKey f.key) else enter (n + 1) places rest

/-- The register of the fields, if they make one. -/
def ofFields (fields : List Field) : Except CatalogError Register :=
  (enter 0 ∅ fields).map fun places => ⟨fields, places⟩

/-- The field at the place of a key. -/
def find? (r : Register) (key : String) : Option Field := do
  let i ← r.places[key]?
  r.fields[i]?

/-- Every key of the fields is kept with its first place, and no other key. -/
def Keeps (places : Std.HashMap String Nat) (fields : List Field) : Prop :=
  ∀ key, places[key]? = fields.findIdx? (·.key == key)

variable {fields before rest : List Field} {f : Field} {e : CatalogError}
  {places : Std.HashMap String Nat}

theorem Keeps.contains_iff (h : Keeps places fields) {key : String} :
    places.contains key = true ↔ key ∈ fields.map (·.key) := by
  rw [Std.HashMap.contains_eq_isSome_getElem?, h key, List.findIdx?_isSome]
  simp

theorem Keeps.insert (h : Keeps places before) (hnew : f.key ∉ before.map (·.key)) :
    Keeps (places.insert f.key before.length) (before ++ [f]) := by
  intro key
  rw [Std.HashMap.getElem?_insert, h key, List.findIdx?_append]
  by_cases hkey : f.key = key
  · have hnone : before.findIdx? (·.key == key) = none := by
      rw [List.findIdx?_eq_none_iff]
      rintro g hg
      simpa using fun h => hnew (List.mem_map.2 ⟨g, hg, h.trans hkey.symm⟩)
    simp [hkey, hnone]
  · simp [hkey]

theorem enter_of_wellFormed (hf : f.WellFormed) (n : Nat) (rest : List Field) :
    enter n places (f :: rest) =
      if places.contains f.key then .error (.duplicateKey f.key)
      else enter (n + 1) (places.insert f.key n) rest := by
  rw [enter, Field.check_eq_ok.2 hf]
  simp [bind, Except.bind]

/-- Fields that can be registered together are entered at their places. -/
theorem enter_append (hb : Registrable before) : ∃ places, Keeps places before ∧
    ∀ rest, enter 0 ∅ (before ++ rest) = enter before.length places rest := by
  induction before using List.reverseRecOn with
  | nil => exact ⟨∅, fun _ => by simp, fun _ => rfl⟩
  | append_singleton before f ih =>
    obtain ⟨hb, hf, hnew⟩ := registrable_append_singleton.1 hb
    obtain ⟨places, hkeeps, hstep⟩ := ih hb
    refine ⟨_, hkeeps.insert hnew, fun rest => ?_⟩
    rw [List.append_assoc, hstep, List.length_append]
    exact (enter_of_wellFormed hf _ rest).trans (if_neg (mt hkeeps.contains_iff.1 hnew))

theorem ofFields_of_registrable (h : Registrable fields) :
    ∃ r, ofFields fields = .ok r ∧ r.fields = fields ∧ Keeps r.places fields := by
  obtain ⟨places, hkeeps, hstep⟩ := enter_append h
  refine ⟨⟨fields, places⟩, ?_, rfl, hkeeps⟩
  rw [ofFields, ← List.append_nil fields, hstep]
  simp [enter, Except.map]

theorem ofFields_of_unregistrable (h : Unregistrable fields e) : ofFields fields = .error e := by
  cases h with
  | flaw after hb hf =>
    obtain ⟨places, -, hstep⟩ := enter_append hb
    rw [ofFields, hstep, enter, Field.check_eq_error.2 hf]
    rfl
  | repeated after hb hf hkey =>
    obtain ⟨places, hkeeps, hstep⟩ := enter_append hb
    rw [ofFields, hstep, enter_of_wellFormed hf, if_pos (hkeeps.contains_iff.2 hkey)]
    rfl

/-- A key that is kept leads to a field that has it. -/
theorem Keeps.exists_field (h : Keeps places fields) {key : String} {i : Nat}
    (hi : places[key]? = some i) : ∃ f, fields[i]? = some f ∧ f.key = key := by
  rw [h key, List.findIdx?_eq_some_iff_getElem] at hi
  obtain ⟨hlt, hkey, -⟩ := hi
  exact ⟨fields[i], List.getElem?_eq_getElem hlt, by simpa using hkey⟩

theorem find?_eq {r : Register} (h : Keeps r.places r.fields) (key : String) :
    r.find? key = r.fields.find? (·.key == key) := by
  rw [List.find?_eq_bind_findIdx?_getElem?, ← h key]
  rfl

end Register

/-! ## Registration -/

/-- Fields make a catalog exactly when they can be registered together, and the reason why others
cannot is the error. A catalog keeps the fields in their order and finds each by its key. A register
that keeps the places of keys goes the same way, and every place that it keeps is that of a field
with the key. -/
theorem registration_is_exact (fields : List Field) :
    ((∃ c, Catalog.ofFields fields = .ok c) ↔ Registrable fields) ∧
    (∀ e, Catalog.ofFields fields = .error e ↔ Unregistrable fields e) ∧
    (∀ c, Catalog.ofFields fields = .ok c → c.fields = fields ∧ FindsByKey fields c.find?) ∧
    ((∃ r, Register.ofFields fields = .ok r) ↔ Registrable fields) ∧
    (∀ e, Register.ofFields fields = .error e ↔ Unregistrable fields e) ∧
    ∀ r, Register.ofFields fields = .ok r → r.fields = fields ∧ FindsByKey fields r.find? ∧
      ∀ key i, r.places[key]? = some i → ∃ f : Field, fields[i]? = some f ∧ f.key = key := by
  obtain ⟨hcatalog, hcatalogError⟩ := outcome_iff Catalog.ofFields_of_registrable
    fun e => @Catalog.ofFields_of_unregistrable fields e
  obtain ⟨hregister, hregisterError⟩ := outcome_iff
    (fun h => (Register.ofFields_of_registrable h).imp fun r hr => hr.1)
    fun e => @Register.ofFields_of_unregistrable fields e
  refine ⟨hcatalog, hcatalogError, fun c hc => ?_, hregister, hregisterError, fun r hr => ?_⟩
  · obtain rfl : c.fields = fields := Catalog.ofFields_eq_ok.1 hc
    exact ⟨rfl, c.findsByKey⟩
  · have h : Registrable fields := hregister.1 ⟨r, hr⟩
    obtain ⟨c, hc⟩ := hcatalog.2 h
    obtain ⟨r', hr', hfields, hkeeps⟩ := Register.ofFields_of_registrable h
    cases hr.symm.trans hr'
    refine ⟨hfields, ?_, fun key i => hkeeps.exists_field⟩
    have hsame : r.find? = c.find? := by
      funext key
      rw [Register.find?_eq (hfields ▸ hkeeps), Catalog.find?, hfields,
        Catalog.ofFields_eq_ok.1 hc]
    rw [hsame, ← Catalog.ofFields_eq_ok.1 hc]
    exact c.findsByKey

-- The second field repeats a key, and is reported for the operator that its kind does not support.
example : checkFields [] [.ofKind "total" .number,
    (Field.ofKind "total" .text).only [.above, .equals], .ofKind "a..b" .text] =
      .error (.unsupportedOperator "total" .above .text) := rfl

end RowSieve.Filter
