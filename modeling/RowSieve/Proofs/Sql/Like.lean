/-
What `LIKE` patterns match. A pattern is a row of marks: `%` takes any characters, `_` takes one,
and every other mark takes a letter like its own, be it written by itself or behind a backslash. A
text matches when the marks take it piece by piece. The pattern made for a literal is read as the
letters of the literal, so that it matches just the texts which hold the literal at its anchor.
-/
import Mathlib.Data.List.Forall2
import Mathlib.Data.List.TakeWhile
import RowSieve.Proofs.Sql.Truth
import RowSieve.Sql.Eval

namespace RowSieve.Sql.Like

/-! ## Marks -/

/-- What a pattern asks for at a place. -/
inductive Mark where
  | many
  | one
  | letter (c : Char)
deriving DecidableEq

/-- The marks of a pattern; none when a backslash at its end has nothing to stand before. -/
def marks? : (pattern : List Char) → Option (List Mark)
  | [] => some []
  | '%' :: rest => (marks? rest).map (.many :: ·)
  | '_' :: rest => (marks? rest).map (.one :: ·)
  | ['\\'] => none
  | '\\' :: c :: rest => (marks? rest).map (.letter c :: ·)
  | c :: rest => (marks? rest).map (.letter c :: ·)

/-- Whether a mark takes a piece of text, where letters are the same that `fold` makes equal. -/
def Mark.Takes (fold : Char → Char) : Mark → (piece : List Char) → Prop
  | many, _ => True
  | one, piece => piece.length = 1
  | letter c, piece => piece.map fold = [fold c]

/-- Whether marks take a text, each of them a piece. -/
def Take (fold : Char → Char) (marks : List Mark) (text : List Char) : Prop :=
  ∃ pieces : List (List Char), List.Forall₂ (Mark.Takes fold) marks pieces ∧ text = pieces.flatten

/-- Whether a text matches a pattern. -/
def Matches (fold : Char → Char) (pattern text : List Char) : Prop :=
  ∃ marks, marks? pattern = some marks ∧ Take fold marks text

/-- Whether the literal stands at the anchor of a text. -/
def Anchor.Holds (fold : Char → Char) (literal text : List Char) : Anchor → Prop
  | anywhere => literal.map fold <:+: text.map fold
  | start => literal.map fold <+: text.map fold
  | finish => literal.map fold <:+ text.map fold

/-! ## Texts taken by marks -/

section Take

variable {fold : Char → Char} {text : List Char}

theorem take_nil : Take fold [] text ↔ text = [] := by
  constructor
  · rintro ⟨pieces, h, rfl⟩
    cases h
    rfl
  · rintro rfl
    exact ⟨[], .nil, rfl⟩

theorem take_cons {m : Mark} {marks : List Mark} :
    Take fold (m :: marks) text ↔
      ∃ piece rest, text = piece ++ rest ∧ m.Takes fold piece ∧ Take fold marks rest := by
  constructor
  · rintro ⟨pieces, h, rfl⟩
    cases h with
    | cons hm hmarks => exact ⟨_, _, List.flatten_cons, hm, _, hmarks, rfl⟩
  · rintro ⟨piece, rest, rfl, hm, pieces, hmarks, rfl⟩
    exact ⟨piece :: pieces, .cons hm hmarks, List.flatten_cons.symm⟩

theorem take_many {marks : List Mark} :
    Take fold (.many :: marks) text ↔
      ∃ taken rest, text = taken ++ rest ∧ Take fold marks rest := by
  simp only [take_cons, Mark.Takes, true_and]

theorem take_letter_cons {c : Char} {marks : List Mark} :
    Take fold (.letter c :: marks) text ↔
      ∃ x rest, text = x :: rest ∧ fold x = fold c ∧ Take fold marks rest := by
  rw [take_cons]
  constructor
  · rintro ⟨piece, rest, rfl, hm, h⟩
    obtain ⟨x, rfl, hx⟩ := List.map_eq_singleton_iff.1 hm
    exact ⟨x, rest, rfl, hx, h⟩
  · rintro ⟨x, rest, rfl, hx, h⟩
    exact ⟨[x], rest, rfl, congrArg ([·]) hx, h⟩

theorem take_one_cons {marks : List Mark} :
    Take fold (.one :: marks) text ↔ ∃ x rest, text = x :: rest ∧ Take fold marks rest := by
  rw [take_cons]
  constructor
  · rintro ⟨piece, rest, rfl, hm, h⟩
    obtain ⟨x, rfl⟩ := List.length_eq_one_iff.1 hm
    exact ⟨x, rest, rfl, h⟩
  · rintro ⟨x, rest, rfl, h⟩
    exact ⟨[x], rest, rfl, rfl, h⟩

/-- Letters and what comes behind them take a text whose front is the same as the letters. -/
theorem take_letters_append {literal : List Char} {marks : List Mark} :
    Take fold (literal.map .letter ++ marks) text ↔ ∃ found rest, text = found ++ rest ∧
      found.map fold = literal.map fold ∧ Take fold marks rest := by
  induction literal generalizing text with
  | nil =>
    constructor
    · intro h
      exact ⟨[], text, rfl, rfl, h⟩
    · rintro ⟨found, rest, rfl, hfound, h⟩
      rwa [List.map_eq_nil_iff.1 hfound]
  | cons c literal ih =>
    rw [List.map_cons, List.cons_append, take_letter_cons]
    constructor
    · rintro ⟨x, rest, rfl, hx, h⟩
      obtain ⟨found, rest, rfl, hfound, h⟩ := ih.1 h
      exact ⟨x :: found, rest, rfl, by rw [List.map_cons, List.map_cons, hx, hfound], h⟩
    · rintro ⟨found, rest, rfl, hfound, h⟩
      obtain ⟨x, found, rfl, hx, hfound⟩ := List.map_eq_cons_iff.1 hfound
      exact ⟨x, found ++ rest, rfl, hx, ih.2 ⟨found, rest, rfl, hfound, h⟩⟩

theorem take_letters {literal : List Char} :
    Take fold (literal.map .letter) text ↔ text.map fold = literal.map fold := by
  rw [← List.append_nil (literal.map Mark.letter), take_letters_append]
  simp only [take_nil]
  constructor
  · rintro ⟨found, rest, rfl, h, rfl⟩
    rwa [List.append_nil]
  · intro h
    exact ⟨text, [], (List.append_nil _).symm, h, rfl⟩

end Take

/-! ## Marks of patterns for literals -/

/-- A text written as a pattern is read as its letters, whatever comes behind. -/
theorem marks?_escape_append (literal rest : List Char) :
    marks? (escape literal ++ rest) = (marks? rest).map (literal.map .letter ++ ·) := by
  induction literal with
  | nil => simp [escape]
  | cons c literal ih =>
    have hcons (marks? : Option (List Mark)) :
        (marks?.map (literal.map .letter ++ ·)).map (.letter c :: ·) =
          marks?.map ((c :: literal).map .letter ++ ·) := Option.map_map ..
    rw [escape]
    split
    case isTrue h =>
      rw [List.cons_append, List.cons_append, marks?, ih, hcons]
    case isFalse h =>
      rw [not_or, not_or] at h
      rw [List.cons_append, marks?, ih, hcons]
      all_goals simp [h]

/-- The marks of a pattern for a literal. -/
def Anchor.marks (literal : List Char) : Anchor → List Mark
  | anywhere => .many :: (literal.map .letter ++ [.many])
  | start => literal.map .letter ++ [.many]
  | finish => .many :: literal.map .letter

theorem marks?_around (anchor : Anchor) (literal : List Char) :
    marks? (around anchor literal) = some (anchor.marks literal) := by
  have hmany : marks? ['%'] = some [.many] := rfl
  cases anchor with
  | anywhere => rw [around, List.cons_append, marks?, marks?_escape_append, hmany]; rfl
  | start => rw [around, marks?_escape_append, hmany]; rfl
  | finish =>
    rw [around, marks?, ← List.append_nil (escape literal), marks?_escape_append, marks?]
    simp [Anchor.marks]

/-! ## The matcher -/

theorem someEnd_eq_true_iff {p : List Char → Bool} {text : List Char} :
    someEnd p text = true ↔ ∃ taken rest, text = taken ++ rest ∧ p rest = true := by
  induction text with
  | nil =>
    constructor
    · intro h
      exact ⟨[], [], rfl, h⟩
    · rintro ⟨taken, rest, htext, h⟩
      obtain ⟨rfl, rfl⟩ := List.append_eq_nil_iff.1 htext.symm
      exact h
  | cons c text ih =>
    rw [someEnd, Bool.or_eq_true, ih]
    constructor
    · rintro (h | ⟨taken, rest, rfl, h⟩)
      · exact ⟨[], c :: text, rfl, h⟩
      · exact ⟨c :: taken, rest, rfl, h⟩
    · rintro ⟨taken, rest, htext, h⟩
      cases taken with
      | nil => exact .inl (htext ▸ h)
      | cons x taken =>
        obtain ⟨-, rfl⟩ := List.cons_eq_cons.1 htext
        exact .inr ⟨taken, rest, rfl, h⟩

theorem sameLetter_iff {a b : Char} :
    sameLetter a b = true ↔ Text.foldCase (seen b) = Text.foldCase (seen a) := by
  rw [sameLetter, beq_iff_eq, eq_comm]

section Matches

variable {fold : Char → Char} {pattern rest text : List Char}

theorem matches_cons {m : Mark} (h : marks? pattern = (marks? rest).map (m :: ·)) :
    Matches fold pattern text ↔
      ∃ marks, marks? rest = some marks ∧ Take fold (m :: marks) text := by
  simp only [Matches, h, Option.map_eq_some_iff]
  constructor
  · rintro ⟨_, ⟨marks, hmarks, rfl⟩, htake⟩
    exact ⟨marks, hmarks, htake⟩
  · rintro ⟨marks, hmarks, htake⟩
    exact ⟨_, ⟨marks, hmarks, rfl⟩, htake⟩

theorem matches_many (h : marks? pattern = (marks? rest).map (.many :: ·)) :
    Matches fold pattern text ↔ ∃ taken tail, text = taken ++ tail ∧ Matches fold rest tail := by
  simp only [matches_cons h, take_many]
  constructor
  · rintro ⟨marks, hmarks, taken, tail, htext, htail⟩
    exact ⟨taken, tail, htext, marks, hmarks, htail⟩
  · rintro ⟨taken, tail, htext, marks, hmarks, htail⟩
    exact ⟨marks, hmarks, taken, tail, htext, htail⟩

theorem not_matches_nil {m : Mark} (hm : m ≠ .many)
    (h : marks? pattern = (marks? rest).map (m :: ·)) : ¬Matches fold pattern [] := by
  rw [matches_cons h]
  rintro ⟨marks, -, htake⟩
  obtain ⟨piece, tail, htext, hpiece, -⟩ := take_cons.1 htake
  obtain ⟨rfl, -⟩ := List.append_eq_nil_iff.1 htext.symm
  cases m with
  | many => exact hm rfl
  | one => cases hpiece
  | letter c => cases hpiece

theorem matches_one_cons {c : Char} (h : marks? pattern = (marks? rest).map (.one :: ·)) :
    Matches fold pattern (c :: text) ↔ Matches fold rest text := by
  simp only [matches_cons h, take_one_cons, List.cons_eq_cons]
  constructor
  · rintro ⟨marks, hmarks, _, _, ⟨rfl, rfl⟩, htail⟩
    exact ⟨marks, hmarks, htail⟩
  · rintro ⟨marks, hmarks, htail⟩
    exact ⟨marks, hmarks, c, text, ⟨rfl, rfl⟩, htail⟩

theorem matches_letter_cons {p c : Char} (h : marks? pattern = (marks? rest).map (.letter p :: ·)) :
    Matches fold pattern (c :: text) ↔ fold c = fold p ∧ Matches fold rest text := by
  simp only [matches_cons h, take_letter_cons, List.cons_eq_cons]
  constructor
  · rintro ⟨marks, hmarks, _, _, ⟨rfl, rfl⟩, hc, htail⟩
    exact ⟨hc, marks, hmarks, htail⟩
  · rintro ⟨hc, marks, hmarks, htail⟩
    exact ⟨marks, hmarks, c, text, ⟨rfl, rfl⟩, hc, htail⟩

end Matches

/-- The matcher decides whether a text matches a pattern. -/
theorem matchesPattern_iff {pattern text : List Char} :
    matchesPattern pattern text = true ↔ Matches (Text.foldCase ∘ seen) pattern text := by
  -- reading a pattern and matching it take the same marks off its front
  induction pattern using marks?.induct generalizing text with
  | case1 => simp [matchesPattern, Matches, marks?, take_nil]
  | case2 rest ih =>
    have hmarks : marks? ('%' :: rest) = (marks? rest).map (.many :: ·) := by rw [marks?]
    rw [matches_many hmarks, matchesPattern, someEnd_eq_true_iff]
    simp only [ih]
  | case3 rest ih =>
    have hmarks : marks? ('_' :: rest) = (marks? rest).map (.one :: ·) := by rw [marks?]
    cases text with
    | nil => simp [matchesPattern, not_matches_nil (by simp) hmarks]
    | cons c text => rw [matchesPattern, ih, matches_one_cons hmarks]
  | case4 => simp [matchesPattern, Matches, marks?]
  | case5 p rest ih =>
    have hmarks : marks? ('\\' :: p :: rest) = (marks? rest).map (.letter p :: ·) := by rw [marks?]
    cases text with
    | nil => simp [matchesPattern, not_matches_nil (by simp) hmarks]
    | cons c text =>
      rw [matchesPattern, Bool.and_eq_true, sameLetter_iff, ih, matches_letter_cons hmarks]
      rfl
  -- a letter by itself: no case before applies, which each unfolding has to be told
  | case6 p rest hmany hone hend hescape ih =>
    have hmarks : marks? (p :: rest) = (marks? rest).map (.letter p :: ·) := by
      rw [marks?] <;> assumption
    cases text with
    | nil =>
      have hnone : matchesPattern (p :: rest) [] = false := by rw [matchesPattern] <;> assumption
      simp [hnone, not_matches_nil (by simp) hmarks]
    | cons c text =>
      have hstep : matchesPattern (p :: rest) (c :: text) =
          (sameLetter p c && matchesPattern rest text) := by rw [matchesPattern] <;> assumption
      rw [hstep, Bool.and_eq_true, sameLetter_iff, ih, matches_letter_cons hmarks]
      rfl

/-! ## Patterns for literals -/

section Literals

variable {fold : Char → Char} {text literal : List Char}

/-- Letters with anything behind them take just the texts that begin with them. -/
theorem take_letters_many :
    Take fold (literal.map .letter ++ [.many]) text ↔ literal.map fold <+: text.map fold := by
  have hmany (rest : List Char) : Take fold [.many] rest :=
    take_many.2 ⟨rest, [], (List.append_nil rest).symm, take_nil.2 rfl⟩
  rw [take_letters_append]
  constructor
  · rintro ⟨found, rest, rfl, hfound, -⟩
    exact ⟨rest.map fold, by rw [List.map_append, hfound]⟩
  · rintro ⟨_, hrest⟩
    obtain ⟨found, rest, rfl, hfound, -⟩ := List.map_eq_append_iff.1 hrest.symm
    exact ⟨found, rest, rfl, hfound, hmany rest⟩

theorem take_marks (anchor : Anchor) :
    Take fold (anchor.marks literal) text ↔ anchor.Holds fold literal text := by
  cases anchor with
  | start => exact take_letters_many
  | anywhere =>
    rw [Anchor.marks, take_many, Anchor.Holds]
    simp only [take_letters_many]
    constructor
    · rintro ⟨before, rest, rfl, after, hafter⟩
      exact ⟨before.map fold, after, by rw [List.append_assoc, hafter, List.map_append]⟩
    · rintro ⟨_, after, htext⟩
      rw [List.append_assoc] at htext
      obtain ⟨before, rest, rfl, -, hrest⟩ := List.map_eq_append_iff.1 htext.symm
      exact ⟨before, rest, rfl, after, hrest.symm⟩
  | finish =>
    rw [Anchor.marks, take_many, Anchor.Holds]
    simp only [take_letters]
    constructor
    · rintro ⟨before, found, rfl, hfound⟩
      exact ⟨before.map fold, by rw [List.map_append, hfound]⟩
    · rintro ⟨_, htext⟩
      obtain ⟨before, found, rfl, -, hfound⟩ := List.map_eq_append_iff.1 htext.symm
      exact ⟨before, found, rfl, hfound⟩

/-- A pattern made for a literal matches just the texts that hold it at the anchor. -/
theorem matches_around (anchor : Anchor) :
    Matches fold (around anchor literal) text ↔ anchor.Holds fold literal text := by
  rw [← take_marks, Matches, marks?_around]
  constructor
  · rintro ⟨_, ⟨⟩, htake⟩
    exact htake
  · intro htake
    exact ⟨_, rfl, htake⟩

end Literals

/-! ## Escapes one after another -/

/-- The text with a backslash before each `mark`. -/
def escapeOnly (mark : Char) (s : List Char) : List Char :=
  s.flatMap fun c => if c = mark then ['\\', c] else [c]

/-- The marks can be escaped one after another, as long as the backslash comes first. -/
theorem escape_eq (s : List Char) :
    escape s = escapeOnly '_' (escapeOnly '%' (escapeOnly '\\' s)) := by
  induction s with
  | nil => rfl
  | cons c s ih =>
    simp only [escapeOnly, List.flatMap_cons, List.flatMap_append] at ih ⊢
    rw [escape, ih]
    -- the backslash that one round adds is none of the marks of the later rounds
    by_cases hb : c = '\\'
    · subst hb; rfl
    by_cases hp : c = '%'
    · subst hp; rfl
    by_cases hu : c = '_'
    · subst hu; rfl
    simp [hb, hp, hu]

example : escape ['%'] ≠ escapeOnly '\\' (escapeOnly '%' ['%']) := by decide

/-! ## Plain texts -/

/-- Whether each character of a text is seen as it is, and none ends the text. -/
def IsPlain (s : List Char) : Prop := ∀ c ∈ s, c ≠ '\x00' ∧ seen c = c

instance (s : List Char) : Decidable (IsPlain s) :=
  List.decidableBAll (fun c => c ≠ '\x00' ∧ seen c = c) s

theorem untilZero_of_isPlain {s : List Char} (h : IsPlain s) : untilZero s = s :=
  List.takeWhile_eq_self_iff.2 fun c hc => decide_eq_true (h c hc).1

theorem isPlain_escape {s : List Char} (h : IsPlain s) : IsPlain (escape s) := by
  induction s with
  | nil => exact h
  | cons c s ih =>
    obtain ⟨hc, hs⟩ := List.forall_mem_cons.1 h
    have hbackslash : '\\' ≠ '\x00' ∧ seen '\\' = '\\' := by decide
    rw [escape]
    split
    · exact List.forall_mem_cons.2 ⟨hbackslash, List.forall_mem_cons.2 ⟨hc, ih hs⟩⟩
    · exact List.forall_mem_cons.2 ⟨hc, ih hs⟩

theorem isPlain_around {s : List Char} (h : IsPlain s) (anchor : Anchor) :
    IsPlain (around anchor s) := by
  have hmany : IsPlain ['%'] := by decide
  have hs := isPlain_escape h
  cases anchor with
  | anywhere => exact List.forall_mem_append.2 ⟨List.forall_mem_append.2 ⟨hmany, hs⟩, hmany⟩
  | start => exact List.forall_mem_append.2 ⟨hs, hmany⟩
  | finish => exact List.forall_mem_append.2 ⟨hmany, hs⟩

theorem map_fold_seen {s : List Char} (h : IsPlain s) :
    s.map (Text.foldCase ∘ seen) = s.map Text.foldCase :=
  List.map_congr_left fun c hc => congrArg Text.foldCase (h c hc).2

/-- Plain texts differ for patterns by the case of ASCII letters only. -/
theorem holds_seen_iff {literal text : List Char} (hl : IsPlain literal) (ht : IsPlain text)
    (anchor : Anchor) : anchor.Holds (Text.foldCase ∘ seen) literal text ↔
      anchor.Holds Text.foldCase literal text := by
  cases anchor <;> simp only [Anchor.Holds, map_fold_seen hl, map_fold_seen ht]

/-- The pattern for a literal matches just the texts that hold the literal at the anchor, whatever
marks either of them holds: a backslash always stands before a character, escaping mark by mark
gives the same pattern, and what counts as the same letter is left to the matcher. A statement
takes letters for the same that differ by their case in ASCII only, but for two characters that
stand for none; and it finds a literal in a stored text just when it stands there, if both are
plain. -/
theorem pattern_matches_literal (anchor : Anchor) (literal text : String) :
    (∃ marks, marks? (pattern anchor literal).toList = some marks) ∧
    escape literal.toList = escapeOnly '_' (escapeOnly '%' (escapeOnly '\\' literal.toList)) ∧
    (∀ fold, Matches fold (pattern anchor literal).toList text.toList ↔
      anchor.Holds fold literal.toList text.toList) ∧
    (matchesPattern (pattern anchor literal).toList text.toList = true ↔
      anchor.Holds (Text.foldCase ∘ seen) literal.toList text.toList) ∧
    (IsPlain literal.toList → IsPlain text.toList →
      (likeCell (.text text) (pattern anchor literal) = .yes ↔
        anchor.Holds Text.foldCase literal.toList text.toList)) := by
  rw [pattern, String.toList_ofList]
  refine ⟨⟨_, marks?_around anchor _⟩, escape_eq _, fun fold => matches_around anchor, ?_, ?_⟩
  · rw [matchesPattern_iff, matches_around]
  · intro hl ht
    show Truth.ofBool (matchesPattern (untilZero (String.ofList _).toList) (untilZero _)) = .yes ↔ _
    rw [String.toList_ofList, untilZero_of_isPlain (isPlain_around hl anchor),
      untilZero_of_isPlain ht, Truth.ofBool_eq_yes_iff, matchesPattern_iff, matches_around,
      holds_seen_iff hl ht]

/-- Marks in a literal are found as they are written, in either case of its letters. -/
theorem pattern_matches_literal_marks :
    IsPlain "a\\%_".toList ∧ IsPlain "x A\\%_".toList ∧ IsPlain "x A\\b_".toList ∧
      likeCell (.text "x A\\%_") (pattern .finish "a\\%_") = .yes ∧
      likeCell (.text "x A\\b_") (pattern .finish "a\\%_") ≠ .yes := by
  have hl : IsPlain "a\\%_".toList := by decide
  have hfound : IsPlain "x A\\%_".toList := by decide
  have hother : IsPlain "x A\\b_".toList := by decide
  obtain ⟨-, -, -, -, hmatches⟩ := pattern_matches_literal .finish "a\\%_" "x A\\%_"
  obtain ⟨-, -, -, -, hdiffers⟩ := pattern_matches_literal .finish "a\\%_" "x A\\b_"
  refine ⟨hl, hfound, hother, (hmatches hl hfound).2 ⟨['x', ' '], by decide⟩, ?_⟩
  rw [Ne, hdiffers hl hother, Anchor.Holds, ← List.isSuffixOf_iff_suffix]
  decide

end RowSieve.Sql.Like
