/-
Reading the words of a statement one after another. `Reads s ts` says that the words of `s` are
`ts`, whatever the number of steps that reading is given beyond the length of `s`. A word can be
put in front of what has been read when the characters behind it cannot continue it; and since
what follows a word is always an end of the text, every text has its words.
-/
import RowSieve.Sql.Condition
import RowSieve.Store.Image.Token

namespace RowSieve.Store.Token

/-! ## Steps of reading -/

/-- The words of `s` are `ts`. -/
def Reads (s : List Char) (ts : List Token) : Prop := ∀ count, s.length ≤ count → read count s = ts

theorem Reads.ofText {s : List Char} {ts : List Token} (h : Reads s ts) : ofText s = ts :=
  h _ (Nat.le_refl _)

theorem Reads.nil : Reads [] [] := by
  intro count _
  cases count <;> rfl

theorem Reads.blank {s : List Char} {ts : List Token} (h : Reads s ts) : Reads (' ' :: s) ts := by
  intro count hc
  cases count with
  | zero => simp at hc
  | succ count => exact h count (Nat.le_of_succ_le_succ hc)

/-- A word that begins neither a blank nor a comment stands in front of the words behind it. -/
theorem Reads.next {c : Char} {rest behind : List Char} {t : Token} {ts : List Token}
    (h : Reads behind ts) (hc : (isBlank c || c == '-' || c == '/') = false)
    (ht : next c rest = (t, behind)) (hl : behind.length ≤ rest.length) :
    Reads (c :: rest) (t :: ts) := by
  intro count hn
  cases count with
  | zero => simp at hn
  | succ count =>
    simp only [Bool.or_eq_false_iff, beq_eq_false_iff_ne] at hc
    obtain ⟨⟨hb, hd⟩, hs⟩ := hc
    have hle : behind.length ≤ count := Nat.le_trans hl (Nat.le_of_succ_le_succ hn)
    unfold read
    rw [if_neg (by simp [hb])]
    split
    · exact absurd rfl hd
    · exact absurd rfl hs
    · rw [ht]
      simp only
      rw [h count hle]

/-! ## Words -/

/-- Whether a text is a name by itself, and not the letter that begins bytes. -/
def isWord : List Char → Bool
  | [] => false
  | c :: cs => beginsName c && !(Text.foldCase c == 'x') && cs.all continuesName

/-- Whether a text cannot continue a name that stands in front of it. -/
def partsNames (s : List Char) : Bool := s.head?.all (!continuesName ·)

theorem takeWhile_of_partsNames {s : List Char} (h : partsNames s = true) :
    s.takeWhile continuesName = [] ∧ s.dropWhile continuesName = s := by
  cases s with
  | nil => exact ⟨rfl, rfl⟩
  | cons c cs =>
    have hc : continuesName c = false := by simpa [partsNames] using h
    constructor
    · rw [List.takeWhile_cons_of_neg (by simp [hc])]
    · rw [List.dropWhile_cons_of_neg (by simp [hc])]

theorem isBlank_of_beginsName {c : Char} (h : beginsName c = true) :
    (isBlank c || c == '-' || c == '/') = false := by
  rw [Bool.eq_false_iff]
  intro hc
  simp only [isBlank, Bool.or_eq_true, beq_iff_eq] at hc
  have hd : beginsName c = false := by
    rcases hc with (((((rfl | rfl) | rfl) | rfl) | rfl) | rfl) | rfl <;> rfl
  rw [hd] at h
  cases h

theorem Reads.word {w rest : List Char} {ts : List Token} (hw : isWord w = true)
    (hr : partsNames rest = true) (h : Reads rest ts) : Reads (w ++ rest) (.name w :: ts) := by
  cases w with
  | nil => cases hw
  | cons c cs =>
    simp only [isWord, Bool.and_eq_true, Bool.not_eq_true', List.all_eq_true] at hw
    obtain ⟨⟨hc, hx⟩, hcs⟩ := hw
    obtain ⟨ht, hd⟩ := takeWhile_of_partsNames hr
    rw [List.cons_append]
    refine h.next (isBlank_of_beginsName hc) ?_ (by simp)
    unfold Token.next
    rw [if_neg (by simp [hx]), if_pos hc, List.takeWhile_append_of_pos hcs,
      List.dropWhile_append_of_pos hcs, ht, hd, List.append_nil]

/-! ## Names in quotes -/

/-- What stands in quotes is read back from its text, with each double quote in it written twice,
up to a quote with no other behind it. -/
theorem inQuotes_doubleQuotes (w : List Char) {rest : List Char} (hr : rest.head? ≠ some '"') :
    inQuotes '"' (Sql.doubleQuotes w ++ '"' :: rest) = some (w, rest) := by
  induction w with
  | nil =>
    cases rest with
    | nil => simp [Sql.doubleQuotes, inQuotes]
    | cons d behind =>
      have hd : d ≠ '"' := by simpa using hr
      simp [Sql.doubleQuotes, inQuotes, hd]
  | cons c w ih =>
    unfold Sql.doubleQuotes
    split
    · rename_i hc
      simp only [List.cons_append, inQuotes, ih, hc]
      simp
    · rename_i hc
      rw [List.cons_append, inQuotes.eq_def]
      simp only [ne_eq, hc, not_false_eq_true, if_true, ih]
      rfl

theorem next_quoted {quote : Char} {rest behind w : List Char}
    (hn : (Text.foldCase quote == 'x' || beginsName quote || Number.isDigit quote ||
      quote == '.') = false)
    (hq : closing? quote = some quote) (h : inQuotes quote rest = some (w, behind)) :
    next quote rest = (.quoted quote w, behind) := by
  simp only [Bool.or_eq_false_iff] at hn
  obtain ⟨⟨⟨hx, hb⟩, hd⟩, hp⟩ := hn
  unfold next
  simp [hx, hb, hd, hp, hq, h]

/-- A quoted identifier stands for its name. -/
theorem Reads.quoted {name : String} {rest : List Char} {ts : List Token}
    (hr : rest.head? ≠ some '"') (h : Reads rest ts) :
    Reads ((Sql.quoteIdent name).toList ++ rest) (.quoted '"' name.toList :: ts) := by
  rw [Sql.quoteIdent, String.toList_ofList, List.cons_append, List.cons_append,
    List.append_assoc, List.singleton_append]
  refine h.next (by decide) (next_quoted (by decide) (by decide)
    (inQuotes_doubleQuotes name.toList hr)) ?_
  simp only [List.length_append, List.length_cons]
  omega

/-! ## What follows a word -/

theorem powerOf_suffix (s : List Char) : (powerOf s).2 <:+ s := by
  unfold powerOf digitsOf
  split
  · split
    · exact List.suffix_rfl
    · split
      · split
        · exact (List.dropWhile_suffix _).trans (List.suffix_cons _ _)
        · split
          · exact (List.dropWhile_suffix _).trans
              ((List.suffix_cons _ _).trans (List.suffix_cons _ _))
          · exact List.suffix_rfl
      · exact List.suffix_rfl
  · exact List.suffix_rfl

/-- Whether a number begins with the character and the text behind it. -/
def beginsNumber (c : Char) (rest : List Char) : Bool :=
  Number.isDigit c || c == '.' && rest.head?.any Number.isDigit

theorem decimal_suffix {c : Char} {rest : List Char} (h : beginsNumber c rest) :
    (numeral.decimal (c :: rest)).2 <:+ rest := by
  have hwhole : Number.isDigit c = true → (digitsOf Number.isDigit (c :: rest)).2 <:+ rest := by
    intro hc
    unfold digitsOf
    dsimp only
    rw [List.dropWhile_cons_of_pos (by simp [hc])]
    exact List.dropWhile_suffix _
  unfold numeral.decimal
  dsimp only
  refine (powerOf_suffix _).trans ?_
  by_cases hc : Number.isDigit c = true
  · split
    · rename_i hdot
      have hrest := hwhole hc
      rw [hdot] at hrest
      exact (List.dropWhile_suffix _).trans ((List.suffix_cons _ _).trans hrest)
    · exact hwhole hc
  · obtain ⟨rfl, -⟩ : c = '.' ∧ _ := by simpa [beginsNumber, hc] using h
    exact List.dropWhile_suffix _

theorem numeral_suffix {c : Char} {rest : List Char} (h : beginsNumber c rest) :
    (numeral (c :: rest)).2 <:+ rest := by
  unfold numeral
  split
  · rename_i heq
    obtain ⟨rfl, rfl⟩ := List.cons.inj heq
    split
    · exact (List.dropWhile_suffix _).trans (List.suffix_cons _ _)
    · exact decimal_suffix h
  · exact decimal_suffix h

theorem inQuotes_suffix {quote : Char} {s word behind : List Char}
    (h : inQuotes quote s = some (word, behind)) : behind <:+ s := by
  fun_induction inQuotes quote s generalizing word with
  | case1 => cases h
  | case2 c rest hc ih =>
    obtain ⟨⟨inner, last⟩, hinner, heq⟩ := Option.map_eq_some_iff.1 h
    cases heq
    exact (ih hinner).trans (List.suffix_cons _ _)
  | case3 c hc d rest hd ih =>
    obtain ⟨⟨inner, last⟩, hinner, heq⟩ := Option.map_eq_some_iff.1 h
    cases heq
    exact (ih hinner).trans ((List.suffix_cons _ _).trans (List.suffix_cons _ _))
  | case4 c hc d rest hd =>
    cases h
    exact List.suffix_cons _ _
  | case5 =>
    cases h
    exact List.nil_suffix

theorem openPlace_suffix (c : Char) (rest : List Char) : (openPlace c rest).2 <:+ rest := by
  have hdrop := List.dropWhile_suffix (l := rest) continuesName
  unfold openPlace
  dsimp only
  split
  · exact hdrop
  · split
    · rename_i inside hinside
      rw [hinside] at hdrop
      have hlast := (List.drop_suffix (inside.takeWhile fun d => d ≠ ')' ∧ !isBlank d).length
        inside).trans ((List.suffix_cons _ _).trans hdrop)
      split
      · rename_i last hclose
        rw [hclose] at hlast
        exact (List.suffix_cons _ _).trans hlast
      · exact hlast
    · exact hdrop

theorem quotedBytes_suffix (c : Char) (s : List Char) : (quotedBytes c s).2 <:+ s := by
  have hdrop := List.dropWhile_suffix (l := s) isHexDigit
  unfold quotedBytes
  dsimp only
  split
  · rename_i last hlast _
    rw [hlast] at hdrop
    exact (List.suffix_cons _ _).trans hdrop
  · exact (List.drop_suffix _ _).trans ((List.drop_suffix _ _).trans hdrop)

/-- What follows the first word of a text is an end of it. -/
theorem next_suffix (c : Char) (rest : List Char) : (next c rest).2 <:+ rest := by
  -- One case for each kind of word, in the order in which reading tells them apart.
  unfold next
  split
  · exact (quotedBytes_suffix c _).trans (List.drop_suffix _ _)
  · split
    · exact List.dropWhile_suffix _
    · split
      · rename_i hnumber
        have hnumeral : (numeral (c :: rest)).2 <:+ rest := numeral_suffix hnumber
        dsimp only
        split
        · exact hnumeral
        · exact (List.dropWhile_suffix _).trans hnumeral
      · split
        · split
          · rename_i hquotes
            exact inQuotes_suffix hquotes
          · exact List.nil_suffix
        · split
          · exact List.dropWhile_suffix _
          · split
            · exact openPlace_suffix c rest
            · split
              · exact List.drop_suffix _ _
              · exact List.suffix_rfl

theorem behindComment_suffix (s : List Char) : behindComment s <:+ s := by
  fun_induction behindComment s with
  | case1 rest => exact (List.suffix_cons _ _).trans (List.suffix_cons _ _)
  | case2 c rest _ ih => exact ih.trans (List.suffix_cons _ _)
  | case3 => exact List.nil_suffix

/-- Steps beyond the length of a text do not change its words. -/
theorem read_eq_read {n m : Nat} {s : List Char} (hn : s.length ≤ n) (hm : s.length ≤ m) :
    read n s = read m s := by
  -- Both readings take one step for a word, a blank or a comment, which leaves less than before.
  induction n generalizing m s with
  | zero =>
    obtain rfl := List.length_eq_zero_iff.1 (Nat.le_zero.1 hn)
    cases m <;> rfl
  | succ n ih =>
    cases s with
    | nil => cases m <;> rfl
    | cons c rest =>
      obtain ⟨m, rfl⟩ : ∃ k, m = k + 1 := Nat.exists_eq_add_of_le' (Nat.le_trans (by simp) hm)
      have hstep {behind : List Char} (h : behind <:+ rest) : read n behind = read m behind :=
        ih (Nat.le_trans h.length_le (Nat.le_of_succ_le_succ hn))
          (Nat.le_trans h.length_le (Nat.le_of_succ_le_succ hm))
      unfold read
      split
      · exact hstep List.suffix_rfl
      · split
        · exact hstep ((List.dropWhile_suffix _).trans (List.suffix_cons _ _))
        · exact hstep ((behindComment_suffix _).trans (List.suffix_cons _ _))
        · dsimp only
          rw [hstep (next_suffix _ _)]

/-- Every text has its words. -/
theorem reads_ofText (s : List Char) : Reads s (ofText s) :=
  fun _ hcount => read_eq_read hcount (Nat.le_refl _)

end RowSieve.Store.Token
