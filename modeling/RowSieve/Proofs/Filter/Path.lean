/-
Paths and their texts. Every text is the text of the path that it writes, and a path is read back
from its text unless a segment holds a dot. A text is a well-formed path exactly when it is
identifiers with dots between them; in any other text there is a first segment that is no
identifier, and the error names it.
-/
import RowSieve.Filter.Path
import RowSieve.Proofs.Text.Cutting

namespace RowSieve.Filter

/-! ## Identifiers -/

/-- An ASCII letter or an underscore, and behind it letters, digits and underscores. -/
def IsIdentifier (s : String) : Prop :=
  ∃ c cs, s = String.ofList (c :: cs) ∧ (c.isAlpha = true ∨ c = '_') ∧
    ∀ d ∈ cs, d.isAlphanum = true ∨ d = '_'

theorem isLetter_iff {c : Char} : isLetter c = true ↔ c.isAlpha = true ∨ c = '_' := by
  have halpha : c.isAlpha = (c.isUpper || c.isLower) := rfl
  have hupper : c.isUpper = decide ('A' ≤ c ∧ c ≤ 'Z') := rfl
  have hlower : c.isLower = (decide ('a' ≤ c) && decide (c ≤ 'z')) := rfl
  simp only [isLetter, halpha, hupper, hlower, Bool.or_eq_true, Bool.and_eq_true,
    decide_eq_true_eq, beq_iff_eq]

theorem isLetterOrDigit_iff {c : Char} :
    isLetterOrDigit c = true ↔ c.isAlphanum = true ∨ c = '_' := by
  rw [isLetterOrDigit, Bool.or_eq_true, isLetter_iff, Char.isAlphanum, Bool.or_eq_true,
    or_right_comm]
  simp only [Char.isDigit, Bool.and_eq_true, decide_eq_true_eq]
  rfl

theorem isIdentifier_iff {s : String} : isIdentifier s = true ↔ IsIdentifier s := by
  unfold isIdentifier IsIdentifier
  split
  · rename_i hs
    constructor
    · intro h
      cases h
    · rintro ⟨c, cs, rfl, -⟩
      simp at hs
  · rename_i c cs hs
    simp only [Bool.and_eq_true, isLetter_iff, List.all_eq_true, isLetterOrDigit_iff]
    constructor
    · rintro ⟨hc, hcs⟩
      exact ⟨c, cs, by rw [← hs, String.ofList_toList], hc, hcs⟩
    · rintro ⟨c', cs', rfl, h⟩
      rw [String.toList_ofList] at hs
      cases hs
      exact h

theorem IsIdentifier.notMem_dot {s : String} (h : IsIdentifier s) : '.' ∉ s.toList := by
  obtain ⟨c, cs, rfl, hc, hcs⟩ := h
  rw [String.toList_ofList]
  rintro (_ | ⟨_, hmem⟩)
  · exact absurd hc (by decide)
  · exact absurd (hcs '.' hmem) (by decide)

/-! ## Segments -/

namespace Path

/-- The texts without dots between the dots of a text. -/
def Parts (text : String) (parts : List String) : Prop :=
  parts ≠ [] ∧ (∀ s ∈ parts, '.' ∉ s.toList) ∧ text = ".".intercalate parts

variable {text : String} {parts : List String}

theorem segments_eq_iff : segments text = parts ↔ Parts text parts := by
  have hlist : segments text = (text.toList.splitOn '.').map String.ofList := by
    rw [segments, Text.split_eq_splitOn]
  have hback : (segments text).map String.toList = text.toList.splitOn '.' := by
    simp [hlist]
  constructor
  · rintro rfl
    refine ⟨?_, ?_, ?_⟩
    · rw [hlist]
      exact mt List.map_eq_nil_iff.1 (List.splitOn_ne_nil _ _)
    · intro s hs
      have hmem : s.toList ∈ Text.split '.' text.toList := by
        rw [Text.split_eq_splitOn, ← hback]
        exact List.mem_map_of_mem hs
      exact Text.notMem_of_mem_split hmem
    · rw [← String.toList_inj, String.toList_intercalate, hback]
      exact (List.intercalate_splitOn '.').symm
  · rintro ⟨hne, hdots, rfl⟩
    rw [hlist, String.toList_intercalate]
    have hsplit : (['.'].intercalate (parts.map String.toList)).splitOn '.' =
        parts.map String.toList :=
      List.splitOn_intercalate '.' (List.forall_mem_map.2 hdots) (mt List.map_eq_nil_iff.1 hne)
    have hdot : ".".toList = ['.'] := rfl
    rw [hdot, hsplit]
    simp

/-! ## Texts of paths -/

/-- The segments of a text are the relations and the column of its path. -/
theorem relations_append_column (text : String) :
    (ofText text).relations ++ [(ofText text).column] = segments text := by
  have hne : segments text ≠ [] := (segments_eq_iff.1 rfl).1
  rw [ofText, List.getLastD_eq_getLast?, List.getLast?_eq_some_getLast hne, Option.getD_some]
  exact List.dropLast_concat_getLast hne

theorem text_eq_intercalate (p : Path) : p.text = ".".intercalate (p.relations ++ [p.column]) := by
  rw [text, Text.joinWith_eq_intercalate, ← String.toList_inj, String.toList_ofList,
    String.toList_intercalate]
  rfl

theorem text_ofText (text : String) : (ofText text).text = text := by
  rw [text_eq_intercalate, relations_append_column]
  exact (segments_eq_iff.1 rfl).2.2.symm

/-- A path is read back from its text when no dot stands in a segment, and only then. -/
theorem ofText_text_iff {p : Path} :
    ofText p.text = p ↔ ∀ s ∈ p.relations ++ [p.column], '.' ∉ s.toList := by
  constructor
  · intro h
    have hsegments : segments p.text = p.relations ++ [p.column] := by
      rw [← relations_append_column, h]
    exact (segments_eq_iff.1 hsegments).2.1
  · intro h
    have hparts : Parts p.text (p.relations ++ [p.column]) := ⟨by simp, h, text_eq_intercalate p⟩
    rw [ofText, segments_eq_iff.2 hparts]
    simp

/-! ## Well-formed paths -/

/-- Identifiers, at least one, with dots between them. -/
def IsDotted (text : String) : Prop :=
  ∃ names : List String, names ≠ [] ∧ (∀ n ∈ names, IsIdentifier n) ∧ text = ".".intercalate names

/-- The segment is no identifier, and all before it are. -/
def FirstBad (text segment : String) : Prop :=
  ∃ before after, Parts text (before ++ segment :: after) ∧
    (∀ n ∈ before, IsIdentifier n) ∧ ¬IsIdentifier segment

/-- Why a text is no well-formed path. -/
inductive Flaw (text : String) : PathError → Prop where
  | empty : FirstBad text "" → Flaw text (.emptySegment text)
  | bad {segment : String} : segment ≠ "" → FirstBad text segment →
      Flaw text (.badSegment segment text)

theorem find?_segments_eq_none :
    (segments text).find? (!isIdentifier ·) = none ↔ IsDotted text := by
  simp only [List.find?_eq_none, Bool.not_eq_true', Bool.not_eq_false, isIdentifier_iff]
  constructor
  · intro h
    obtain ⟨hne, -, htext⟩ := segments_eq_iff.1 (Eq.refl (segments text))
    exact ⟨_, hne, h, htext⟩
  · rintro ⟨names, hne, hnames, htext⟩
    have hparts : Parts text names := ⟨hne, fun n hn => (hnames n hn).notMem_dot, htext⟩
    rwa [segments_eq_iff.2 hparts]

theorem find?_segments_eq_some {segment : String} :
    (segments text).find? (!isIdentifier ·) = some segment ↔ FirstBad text segment := by
  simp only [List.find?_eq_some_iff_append, Bool.not_not, Bool.not_eq_true', ← Bool.not_eq_true,
    isIdentifier_iff, segments_eq_iff]
  constructor
  · rintro ⟨hbad, before, after, hparts, hbefore⟩
    exact ⟨before, after, hparts, hbefore, hbad⟩
  · rintro ⟨before, after, hparts, hbefore, hbad⟩
    exact ⟨hbad, before, after, hparts, hbefore⟩

theorem ofText?_eq_ok {p : Path} : ofText? text = .ok p ↔ IsDotted text ∧ p = ofText text := by
  rw [← find?_segments_eq_none, ofText?]
  cases (segments text).find? (!isIdentifier ·) with
  | none => simp only [Except.ok.injEq, true_and, eq_comm]
  | some segment => simp

theorem ofText?_eq_error {e : PathError} : ofText? text = .error e ↔ Flaw text e := by
  unfold ofText?
  split
  · rename_i hfind
    refine ⟨fun h => (by cases h), fun h => ?_⟩
    obtain hbad | ⟨-, hbad⟩ := h
    all_goals
      rw [find?_segments_eq_some.2 hbad] at hfind
      cases hfind
  · rename_i segment hfind
    have hbad : FirstBad text segment := find?_segments_eq_some.1 hfind
    have hunique {other : String} (h : FirstBad text other) : other = segment :=
      Option.some.inj ((find?_segments_eq_some.2 h).symm.trans hfind)
    constructor
    · intro h
      cases h
      by_cases hempty : segment = ""
      · subst hempty
        exact .empty hbad
      · rw [if_neg (by simpa using hempty)]
        exact .bad hempty hbad
    · intro h
      obtain h | ⟨hne, h⟩ := h
      · rw [← hunique h]
        rfl
      · rw [← hunique h, if_neg (by simpa using hne)]

/-- What is said about a text whose first segment that is no identifier is this one. -/
def complaint (text segment : String) : String :=
  if segment = "" then s!"Path '{text}' contains an empty segment"
  else s!"Path segment '{segment}' in '{text}' is not a valid identifier"

theorem message_of_flaw {said : String} :
    (∃ e, Flaw text e ∧ e.message = said) ↔
      ∃ segment, FirstBad text segment ∧ said = complaint text segment := by
  constructor
  · rintro ⟨e, hbad | ⟨hne, hbad⟩, rfl⟩
    · exact ⟨"", hbad, rfl⟩
    · exact ⟨_, hbad, (if_neg hne).symm⟩
  · rintro ⟨segment, hbad, rfl⟩
    by_cases hempty : segment = ""
    · subst hempty
      exact ⟨_, .empty hbad, rfl⟩
    · exact ⟨_, .bad hempty hbad, (if_neg hempty).symm⟩

/-- Writing undoes reading for every text, and reading undoes writing for the paths without dots in
their segments. Identifiers with dots between them, and nothing else, are read as well-formed paths;
of any other text the first segment that is no identifier is named. -/
theorem texts_and_paths_invert :
    (∀ text, (ofText text).text = text) ∧
    (∀ p : Path, ofText p.text = p ↔ ∀ s ∈ p.relations ++ [p.column], '.' ∉ s.toList) ∧
    (∀ text p, ofText? text = .ok p ↔ IsDotted text ∧ p = ofText text) ∧
    ∀ text said, (ofText? text).mapError PathError.message = .error said ↔
      ∃ segment, FirstBad text segment ∧ said = complaint text segment := by
  refine ⟨text_ofText, fun p => ofText_text_iff, fun text p => ofText?_eq_ok, fun text said => ?_⟩
  rw [← message_of_flaw]
  cases h : ofText? text with
  | ok p =>
    refine iff_of_false (fun h => by cases h) ?_
    rintro ⟨e, hflaw, -⟩
    rw [← ofText?_eq_error, h] at hflaw
    cases hflaw
  | error e =>
    have hmap : (Except.error e : Except PathError Path).mapError PathError.message =
        .error e.message := rfl
    rw [hmap, Except.error.injEq]
    constructor
    · intro hsaid
      exact ⟨e, ofText?_eq_error.1 h, hsaid⟩
    · rintro ⟨e', hflaw, hsaid⟩
      rw [← ofText?_eq_error, h] at hflaw
      cases hflaw
      exact hsaid

example : (ofText? "customer.naïve.1st").mapError PathError.message =
    .error "Path segment 'naïve' in 'customer.naïve.1st' is not a valid identifier" := rfl

end Path

end RowSieve.Filter
