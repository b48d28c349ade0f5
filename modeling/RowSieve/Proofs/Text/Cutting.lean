/-
Texts cut at a character and trimmed of blanks. The pieces between the separators are those that
the library's `splitOn` gives and hold no separator; a text that neither begins nor ends with a
blank stays as it is when it is trimmed, and a trimmed text is such a text.
-/
import RowSieve.Text.Pieces

namespace RowSieve.Text

/-! ## Pieces and the text they make -/

theorem split_eq_splitOn (c : Char) (s : List Char) : split c s = s.splitOn c := by
  rw [List.splitOn]
  induction s with
  | nil => rfl
  | cons x xs ih =>
    rw [split, List.splitOnP_cons_eq_if_modifyHead, ← ih]
    by_cases hx : x = c
    · simp [hx]
    · rw [if_neg hx, if_neg (by simpa using hx)]
      cases hsplit : split c xs with
      | nil => exact absurd hsplit (split_ne_nil c xs)
      | cons piece rest => rfl

theorem split_append (c : Char) (a b : List Char) :
    split c (a ++ c :: b) = split c a ++ split c b := by
  induction a with
  | nil => simp [split]
  | cons x xs ih =>
    rw [List.cons_append, split, split, ih]
    by_cases hx : x = c
    · simp [hx]
    · rw [if_neg hx, if_neg hx]
      cases hs : split c xs with
      | nil => exact absurd hs (split_ne_nil c xs)
      | cons piece rest => rfl

theorem joinWith_eq_intercalate (sep : List Char) (pieces : List (List Char)) :
    joinWith sep pieces = sep.intercalate pieces := by
  induction pieces with
  | nil => rfl
  | cons piece rest ih =>
    cases rest with
    | nil => simp [joinWith]
    | cons next rest => rw [joinWith, ih, List.intercalate_cons_cons]; exact List.cons_ne_nil _ _

theorem notMem_of_mem_split {c : Char} {s piece : List Char} (h : piece ∈ split c s) :
    c ∉ piece := by
  induction s generalizing piece with
  | nil => simp_all [split]
  | cons x xs ih =>
    rw [split] at h
    split at h
    · rcases List.mem_cons.1 h with rfl | h
      · exact List.not_mem_nil
      · exact ih h
    · rename_i hx
      cases hsplit : split c xs with
      | nil => exact absurd hsplit (split_ne_nil c xs)
      | cons first rest =>
        rw [hsplit] at h ih
        rcases List.mem_cons.1 h with rfl | h
        · exact List.not_mem_cons_of_ne_of_not_mem (Ne.symm hx) (ih List.mem_cons_self)
        · exact ih (List.mem_cons_of_mem _ h)

/-! ## Blanks at the ends -/

variable {s : List Char}

/-- A text that neither begins nor ends with a blank stays as it is. -/
theorem trim_of_ends (hfirst : ∀ c ∈ s.head?, isBlank c = false)
    (hlast : ∀ c ∈ s.getLast?, isBlank c = false) : trim s = s := by
  have hdrop : ∀ {s : List Char}, (∀ c ∈ s.head?, isBlank c = false) → s.dropWhile isBlank = s := by
    intro s h
    cases s with
    | nil => rfl
    | cons c s => rw [List.dropWhile_cons_of_neg (by simp [h c rfl])]
  rw [trim, trimStart, hdrop hfirst, trimEnd, hdrop (by rwa [List.head?_reverse]),
    List.reverse_reverse]

/-- A text without blanks stays as it is. -/
theorem trim_of_noBlanks (h : ∀ c ∈ s, isBlank c = false) : trim s = s :=
  trim_of_ends (fun c hc => h c (List.mem_of_mem_head? hc))
    (fun c hc => h c (List.mem_of_getLast? hc))

/-- A trimmed text does not end with a blank. -/
theorem isBlank_of_getLast?_trim (s : List Char) : ∀ c ∈ (trim s).getLast?, isBlank c = false := by
  intro c hc
  have hfirst := List.head?_dropWhile_not isBlank (trimStart s).reverse
  rw [trim, trimEnd, List.getLast?_reverse] at hc
  rw [hc] at hfirst
  exact hfirst

end RowSieve.Text
