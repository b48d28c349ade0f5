/-
The words that the text of a condition is made of. A condition is given its words directly, with
the values standing where its text has open places; its text, taken apart, gives these words with
the places open, and the parameters of the condition fill them.
-/
import RowSieve.Proofs.Number.Digits
import RowSieve.Proofs.Sql.Formula
import RowSieve.Proofs.Store.Token

namespace RowSieve.Sql

open RowSieve.Filter (Comparison)
open RowSieve.Store (Token)
open RowSieve.Store.Token (Reads isWord partsNames)

/-! ## Words of conditions -/

def nameWord (name : String) : Word := .token (.name name.toList)

def symbolWord (c : Char) : Word := .token (.symbol c)

def quotedWord (name : String) : Word := .token (.quoted '"' name.toList)

def numberWord (digits : String) : Word := .token (.number digits.toList)

/-- The mark that makes the next character of a pattern stand for itself. -/
def escapeWord : Word := .token (.quoted '\'' ['\\'])

def signWord : Comparison → Word
  | .eq => symbolWord '='
  | .lt => symbolWord '<'
  | .gt => symbolWord '>'
  | op => .token (.operator op.sign.toList)

def qualifiedWords (scope : Alias) (name : String) : List Word :=
  [nameWord (aliasText scope), symbolWord '.', quotedWord name]

def ColumnRef.words (c : ColumnRef) : List Word :=
  let name := qualifiedWords c.scope c.column.name
  if c.column.day then nameWord "date" :: symbolWord '(' :: name ++ [symbolWord ')'] else name

def notWords (negated : Bool) : List Word := if negated then [nameWord "NOT"] else []

/-- Words in parentheses with a word between them, or a comparison of one with `ifNone`. -/
def groupWords (word ifNone : String) : List (List Word) → List Word
  | [] => [numberWord "1", symbolWord '=', numberWord ifNone]
  | words => symbolWord '(' :: [nameWord word].intercalate words ++ [symbolWord ')']

namespace Condition

mutual

/-- The words of a condition. -/
def words : Condition → List Word
  | compare c op value => c.words ++ [signWord op, .value value]
  | among c values negated =>
    c.words ++ notWords negated ++ nameWord "IN" :: symbolWord '(' ::
      [symbolWord ','].intercalate (values.map fun d => [.value d]) ++ [symbolWord ')']
  | like c pattern negated =>
    c.words ++ notWords negated ++
      [nameWord "LIKE", .value (.text pattern), nameWord "ESCAPE", escapeWord]
  | isNull c negated none => c.words ++ nameWord "IS" :: notWords negated ++ [nameWord "NULL"]
  | isNull c false (some value) =>
    symbolWord '(' :: c.words ++ [nameWord "IS", nameWord "NULL", nameWord "OR"] ++ c.words ++
      [signWord .eq, .value value, symbolWord ')']
  | isNull c true (some value) =>
    symbolWord '(' :: c.words ++ [nameWord "IS", nameWord "NOT", nameWord "NULL", nameWord "AND"] ++
      c.words ++ [signWord .ne, .value value, symbolWord ')']
  | all items => groupWords "AND" "1" (wordsOfAll items)
  | any items => groupWords "OR" "0" (wordsOfAll items)
  | subquery negated join inner outer body =>
    notWords negated ++ [nameWord "EXISTS", symbolWord '(', nameWord "SELECT", numberWord "1",
      nameWord "FROM", quotedWord join.target, nameWord "AS", nameWord (aliasText inner),
      nameWord "WHERE"] ++ qualifiedWords inner join.foreignKey ++ signWord .eq ::
      qualifiedWords outer join.localKey ++ nameWord "AND" :: body.words ++ [symbolWord ')']

def wordsOfAll : List Condition → List (List Word)
  | [] => []
  | c :: rest => c.words :: wordsOfAll rest

end

end Condition

/-! ## Texts and their words -/

/-- The token of a word before open places are filled. -/
def Word.opened : Word → Token
  | token t => t
  | value _ => .parameter ['?']

/-- Whether a text keeps its words apart from those in front of it. -/
def parts (s : List Char) : Bool := s.head?.all fun c => c == ' ' || c == ')' || c == ','

/-- A text is made of words wherever what follows is kept apart from it. -/
def Spells (s : List Char) (ws : List Word) : Prop :=
  ∀ rest ts, parts rest = true → Reads rest ts → Reads (s ++ rest) (ws.map Word.opened ++ ts)

theorem head?_of_parts {s : List Char} (h : parts s = true) {p : Char → Bool}
    (hp : (p ' ' || p ')' || p ',') = false) : s.head?.any p = false := by
  cases s with
  | nil => rfl
  | cons c s =>
    simp only [Bool.or_eq_false_iff] at hp
    obtain ⟨⟨h1, h2⟩, h3⟩ := hp
    simp only [parts, List.head?_cons, Option.all_some, Bool.or_eq_true, beq_iff_eq] at h
    rcases h with (rfl | rfl) | rfl
    · exact h1
    · exact h2
    · exact h3

theorem partsNames_of_parts {s : List Char} (h : parts s = true) : partsNames s = true := by
  have ha := head?_of_parts h (p := Token.continuesName) (by decide)
  cases s with
  | nil => rfl
  | cons c s => simpa [partsNames] using ha

theorem head?_ne_of_parts {s : List Char} (h : parts s = true) {c : Char}
    (hc : (' ' == c || ')' == c || ',' == c) = false) : s.head? ≠ some c := by
  intro hs
  have ha := head?_of_parts h (p := (· == c)) hc
  rw [hs] at ha
  simp at ha

/-! ### Pieces -/

/-- A word with a blank behind it. -/
theorem reads_word {w : List Char} {rest : List Char} {ts : List Token} (hw : isWord w = true)
    (h : Reads rest ts) : Reads (w ++ ' ' :: rest) (.name w :: ts) := Reads.word hw rfl h.blank

theorem reads_open {rest : List Char} {ts : List Token} (h : Reads rest ts) :
    Reads ('(' :: rest) (.symbol '(' :: ts) := h.next rfl rfl (Nat.le_refl _)

theorem reads_close {rest : List Char} {ts : List Token} (h : Reads rest ts) :
    Reads (')' :: rest) (.symbol ')' :: ts) := h.next rfl rfl (Nat.le_refl _)

/-- An open place. -/
theorem reads_place {rest : List Char} {ts : List Token} (hr : parts rest = true)
    (h : Reads rest ts) : Reads ('?' :: rest) (.parameter ['?'] :: ts) := by
  have hd := head?_of_parts hr (p := Number.isDigit) (by decide)
  refine h.next rfl ?_ (Nat.le_refl _)
  have hn : Token.next '?' rest =
      (.parameter ('?' :: rest.takeWhile Number.isDigit), rest.dropWhile Number.isDigit) := rfl
  rw [hn]
  cases rest with
  | nil => rfl
  | cons c rest =>
    have hc : ¬Number.isDigit c = true := by simpa using hd
    rw [List.takeWhile_cons_of_neg hc, List.dropWhile_cons_of_neg hc]

/-- The mark that makes the next character of a pattern stand for itself. -/
theorem reads_escape {rest : List Char} {ts : List Token} (hr : parts rest = true)
    (h : Reads rest ts) : Reads ('\'' :: '\\' :: '\'' :: rest) (escapeWord.opened :: ts) := by
  have hq : rest.head? ≠ some '\'' := head?_ne_of_parts hr rfl
  have hin : Token.inQuotes '\'' ('\\' :: '\'' :: rest) = some (['\\'], rest) := by
    cases rest with
    | nil => rfl
    | cons d rest =>
      have hd : d ≠ '\'' := by simpa using hq
      simp [Token.inQuotes, hd]
  exact h.next rfl (Token.next_quoted rfl rfl hin) (Nat.le_add_right _ 2)

/-- A single digit. -/
theorem reads_digit {d : Char} {rest : List Char} {ts : List Token} (hd : d = '0' ∨ d = '1')
    (hr : parts rest = true ∨ rest.head? = some '=') (h : Reads rest ts) :
    Reads (d :: rest) (.number [d] :: ts) := by
  have hnext : Token.next d rest = (.number [d], rest) := by
    cases rest with
    | nil => rcases hd with rfl | rfl <;> rfl
    | cons c rest =>
      have hc : c = ' ' ∨ c = ')' ∨ c = ',' ∨ c = '=' := by
        simpa [parts, or_assoc] using hr
      rcases hd with rfl | rfl <;> rcases hc with rfl | rfl | rfl | rfl <;> cases rest <;> rfl
  refine h.next ?_ hnext (Nat.le_refl _)
  rcases hd with rfl | rfl <;> rfl

theorem reads_dot {rest : List Char} {ts : List Token}
    (hr : rest.head?.any Number.isDigit = false) (h : Reads rest ts) :
    Reads ('.' :: rest) (.symbol '.' :: ts) := by
  refine h.next rfl ?_ (Nat.le_refl _)
  unfold Token.next
  rw [hr]
  rfl

theorem isWord_aliasText (a : Alias) : isWord (aliasText a).toList = true := by
  unfold aliasText
  split
  · rfl
  · simp only [String.toList_append, String.toList_ofList]
    have hd : (Number.toDigits a).all Token.continuesName = true := by
      rw [List.all_eq_true]
      intro c hc
      simp [Token.continuesName, Number.isDigit_of_mem_toDigits hc]
    show (true && (Number.toDigits a).all Token.continuesName) = true
    rw [hd, Bool.and_self]

/-- A name in the scope of an alias, with no double quote behind it. -/
theorem reads_qualified (a : Alias) (name : String) {rest : List Char} {ts : List Token}
    (hr : rest.head? ≠ some '"') (h : Reads rest ts) :
    Reads ((qualified a name).toList ++ rest)
      ((qualifiedWords a name).map Word.opened ++ ts) := by
  unfold qualified
  simp only [String.toList_append, List.append_assoc, String.reduceToList, List.singleton_append]
  refine Reads.word (isWord_aliasText a) rfl (reads_dot ?_ (Reads.quoted hr h))
  simp only [quoteIdent, String.toList_ofList]
  rfl

/-- The words of a column end where its text does, whatever is in its name. -/
theorem ColumnRef.reads (c : ColumnRef) {rest : List Char} {ts : List Token}
    (hr : rest.head? ≠ some '"') (h : Reads rest ts) :
    Reads (c.text.toList ++ rest) (c.words.map Word.opened ++ ts) := by
  unfold ColumnRef.text ColumnRef.words
  split
  · rw [String.toList_append, String.toList_append, List.append_assoc, List.append_assoc,
      List.map_append, List.append_assoc]
    exact Reads.word (w := "date".toList) rfl rfl
      (reads_open (reads_qualified _ _ (by simp) (reads_close h)))
  · exact reads_qualified _ _ hr h

theorem ColumnRef.spells (c : ColumnRef) : Spells c.text.toList c.words :=
  fun _ _ hr h => c.reads (head?_ne_of_parts hr rfl) h

/-- The sign of a comparison between blanks. -/
theorem reads_sign (op : Comparison) {rest : List Char} {ts : List Token} (h : Reads rest ts) :
    Reads (' ' :: (op.sign.toList ++ ' ' :: rest)) ((signWord op).opened :: ts) := by
  refine Reads.blank ?_
  cases op <;> exact h.blank.next rfl rfl (by simp)

/-! ### Lists -/

section Lists

variable {α : Type} {f : α → List Char} {g : α → List Word}

/-- Texts that are made of words, with a separator between them that is kept apart from what
stands in front of it. -/
theorem Spells.intercalate {sep : List Char} {sepWords : List Word}
    (hp : ∀ rest, parts (sep ++ rest) = true)
    (hs : ∀ {rest ts}, Reads rest ts → Reads (sep ++ rest) (sepWords.map Word.opened ++ ts)) :
    ∀ {items : List α}, (∀ a ∈ items, Spells (f a) (g a)) →
      Spells (sep.intercalate (items.map f)) (sepWords.intercalate (items.map g))
  | [], _ => fun _ _ _ h => by simpa using h
  | [a], h => fun _ _ hr hrest => by simpa using h a (by simp) _ _ hr hrest
  | a :: b :: items, h => fun rest ts hr hrest => by
    have ih := Spells.intercalate hp hs (fun x hx => h x (List.mem_cons_of_mem a hx)) rest ts hr
      hrest
    simp only [List.map_cons, List.intercalate_cons_cons, List.map_append, List.append_assoc]
    simp only [List.map_cons] at ih
    exact h a (by simp) _ _ (hp _) (hs ih)

theorem Spells.brackets {s : List Char} {ws : List Word} (h : Spells s ws) :
    Spells ('(' :: s ++ [')']) (symbolWord '(' :: ws ++ [symbolWord ')']) := by
  intro rest ts _ hrest
  simp only [List.cons_append, List.append_assoc, List.map_cons, List.map_append]
  exact reads_open (h _ _ rfl (reads_close hrest))

end Lists

/-- A comparison of one with a digit. -/
theorem spells_one {d : Char} (hd : d = '0' ∨ d = '1') :
    Spells ['1', '=', d] [numberWord "1", symbolWord '=', .token (.number [d])] := by
  intro rest ts hr h
  refine reads_digit (.inr rfl) (.inr rfl) ?_
  refine (reads_digit hd (.inl hr) h).next rfl ?_ (Nat.le_refl _)
  rcases hd with rfl | rfl <;> rfl

/-- Texts in parentheses with a word between them, or the text for none of them. -/
theorem spells_group {items : List Condition} {word ifNone join none : String}
    (hn : Spells none.toList (groupWords word ifNone []))
    (hj : join.toList = ' ' :: (word.toList ++ [' '])) (hw : isWord word.toList = true)
    (h : ∀ c ∈ items, Spells c.text.toList c.words) :
    Spells (groupText join none (items.map Condition.text)).toList
      (groupWords word ifNone (items.map Condition.words)) := by
  cases items with
  | nil => exact hn
  | cons c items =>
    have hs {rest ts} (hrest : Reads rest ts) : Reads ((' ' :: (word.toList ++ [' '])) ++ rest)
        ([nameWord word].map Word.opened ++ ts) := by
      rw [List.cons_append, List.append_assoc]
      exact Reads.blank (reads_word hw hrest)
    have key := (Spells.intercalate (fun _ => rfl) hs h).brackets
    simpa [groupText, groupWords, String.toList_append, String.toList_intercalate, hj,
      Function.comp_def] using key

/-! ### Conditions -/

theorem reads_not (negated : Bool) {rest : List Char} {ts : List Token} (h : Reads rest ts) :
    Reads ((notText negated).toList ++ rest) ((notWords negated).map Word.opened ++ ts) := by
  cases negated
  · exact h
  · exact reads_word (w := "NOT".toList) rfl h

namespace Condition

theorem texts_eq_map (cs : List Condition) : texts cs = cs.map text := by
  induction cs with
  | nil => rfl
  | cons c cs ih => rw [texts, ih, List.map_cons]

theorem wordsOfAll_eq_map (cs : List Condition) : wordsOfAll cs = cs.map words := by
  induction cs with
  | nil => rfl
  | cons c cs ih => rw [wordsOfAll, ih, List.map_cons]

theorem spells_compare (c : ColumnRef) (op : Comparison) (d : Datum) :
    Spells (compare c op d).text.toList (compare c op d).words := by
  intro rest ts hr h
  simp only [text, words, String.toList_append, List.append_assoc, List.map_append]
  exact c.spells _ _ rfl (reads_sign op (reads_place hr h))

theorem spells_among (c : ColumnRef) (ds : List Datum) (negated : Bool) :
    Spells (among c ds negated).text.toList (among c ds negated).words := by
  intro rest ts hr h
  have hplaces : Spells ([',', ' '].intercalate (ds.map fun _ => ['?']))
      ([symbolWord ','].intercalate (ds.map fun d => [.value d])) :=
    Spells.intercalate (fun _ => rfl) (fun hrest => hrest.blank.next rfl rfl (Nat.le_refl _))
      (fun d _ => fun _ _ hr hrest => reads_place hr hrest)
  have hlist := hplaces (')' :: rest) _ rfl (reads_close h)
  simp only [text, words, String.toList_append, List.append_assoc, List.map_append,
    String.toList_intercalate, List.map_map, Function.comp_def]
  refine c.spells _ _ rfl (Reads.blank (reads_not negated ?_))
  exact reads_word (w := "IN".toList) rfl (reads_open hlist)

theorem spells_like (c : ColumnRef) (pattern : String) (negated : Bool) :
    Spells (like c pattern negated).text.toList (like c pattern negated).words := by
  intro rest ts hr h
  simp only [text, words, String.toList_append, List.append_assoc, List.map_append]
  refine c.spells _ _ rfl (Reads.blank (reads_not negated ?_))
  refine reads_word (w := "LIKE".toList) rfl (reads_place rfl (Reads.blank ?_))
  exact reads_word (w := "ESCAPE".toList) rfl (reads_escape hr h)

theorem spells_isNull (c : ColumnRef) (negated : Bool) (sentinel? : Option Datum) :
    Spells (isNull c negated sentinel?).text.toList (isNull c negated sentinel?).words := by
  intro rest ts hr h
  have hn := Reads.word (w := "NULL".toList) rfl (partsNames_of_parts hr) h
  have hvalue (op) : Reads (c.text.toList ++ ' ' :: (op.sign.toList ++ ' ' :: '?' :: ')' :: rest))
      (c.words.map Word.opened ++ (signWord op).opened :: .parameter ['?'] :: .symbol ')' :: ts) :=
    c.spells _ _ rfl (reads_sign op (reads_place rfl (reads_close h)))
  cases sentinel? with
  | none =>
    cases negated
    all_goals simp only [text, words, String.toList_append, List.append_assoc, List.map_append]
    · exact c.spells _ _ rfl (Reads.blank (reads_word (w := "IS".toList) rfl hn))
    · exact c.spells _ _ rfl (Reads.blank (reads_word (w := "IS".toList) rfl
        (reads_word (w := "NOT".toList) rfl hn)))
  | some d =>
    cases negated
    all_goals
      simp only [text, words, String.toList_append, List.append_assoc, List.map_append,
        List.cons_append, List.map_cons]
    · refine reads_open (c.spells _ _ rfl (Reads.blank ?_))
      exact reads_word (w := "IS".toList) rfl (reads_word (w := "NULL".toList) rfl
        (reads_word (w := "OR".toList) rfl (hvalue .eq)))
    · refine reads_open (c.spells _ _ rfl (Reads.blank ?_))
      exact reads_word (w := "IS".toList) rfl (reads_word (w := "NOT".toList) rfl
        (reads_word (w := "NULL".toList) rfl (reads_word (w := "AND".toList) rfl (hvalue .ne))))

/-- The words of a subquery in front of its body. -/
def scopeWords (negated : Bool) (join : Join) (inner outer : Alias) : List Word :=
  notWords negated ++ [nameWord "EXISTS", symbolWord '(', nameWord "SELECT", numberWord "1",
    nameWord "FROM", quotedWord join.target, nameWord "AS", nameWord (aliasText inner),
    nameWord "WHERE"] ++ qualifiedWords inner join.foreignKey ++ signWord .eq ::
    qualifiedWords outer join.localKey ++ [nameWord "AND"]

section Subquery

variable {negated : Bool} {join : Join} {inner outer : Alias} {body : Condition}

/-- The words in front of the body end where the body begins, whatever is in the names of the
table and of the keys. -/
theorem reads_subquery {rest : List Char} {ts : List Token}
    (h : Reads (body.text.toList ++ ')' :: rest) ts) :
    Reads ((subquery negated join inner outer body).text.toList ++ rest)
      ((scopeWords negated join inner outer).map Word.opened ++ ts) := by
  simp only [text, scopeWords, String.toList_append, List.append_assoc, List.map_append,
    List.cons_append, List.map_cons, List.nil_append, String.reduceToList]
  have hjoin := reads_qualified inner join.foreignKey (by simp) <| reads_sign .eq <|
    reads_qualified outer join.localKey (by simp) <| Reads.blank <|
    reads_word (w := "AND".toList) rfl h
  have hfrom := Reads.blank <| reads_word (w := "AS".toList) rfl <|
    Reads.word (isWord_aliasText inner) rfl <| Reads.blank <|
    reads_word (w := "WHERE".toList) rfl hjoin
  refine reads_not negated (reads_word (w := "EXISTS".toList) rfl (reads_open ?_))
  refine reads_word (w := "SELECT".toList) rfl (reads_digit (.inr rfl) (.inl rfl) ?_)
  exact Reads.blank (reads_word (w := "FROM".toList) rfl (Reads.quoted (by simp) hfrom))

theorem words_subquery : (subquery negated join inner outer body).words =
    scopeWords negated join inner outer ++ (body.words ++ [symbolWord ')']) := by
  simp [words, scopeWords]

theorem spells_subquery (hb : Spells body.text.toList body.words) :
    Spells (subquery negated join inner outer body).text.toList
      (subquery negated join inner outer body).words := by
  intro rest ts _ h
  rw [words_subquery, List.map_append, List.map_append, List.append_assoc, List.append_assoc]
  exact reads_subquery (hb (')' :: rest) _ rfl (reads_close h))

end Subquery

mutual

/-- The text of a condition is made of its words. -/
theorem spells : ∀ c : Condition, Spells c.text.toList c.words
  | compare c op d => spells_compare c op d
  | among c ds negated => spells_among c ds negated
  | like c pattern negated => spells_like c pattern negated
  | isNull c negated sentinel? => spells_isNull c negated sentinel?
  | all items => by
    rw [text, words, texts_eq_map, wordsOfAll_eq_map]
    exact spells_group (spells_one (.inr rfl)) rfl rfl (spells_all items)
  | any items => by
    rw [text, words, texts_eq_map, wordsOfAll_eq_map]
    exact spells_group (spells_one (.inl rfl)) rfl rfl (spells_all items)
  | subquery _ _ _ _ body => spells_subquery (spells body)

theorem spells_all : ∀ cs : List Condition, ∀ c ∈ cs, Spells c.text.toList c.words
  | [], _, h => by cases h
  | c :: _, _, .head _ => spells c
  | _ :: cs, d, .tail _ h => spells_all cs d h

end

end Condition

/-! ## Values in open places -/

def Word.value? : Word → Option Datum
  | token _ => none
  | value d => some d

/-- The values in words without open places, in their order. -/
def Holds (ws : List Word) (ds : List Datum) : Prop :=
  .token (.parameter ['?']) ∉ ws ∧ ws.filterMap Word.value? = ds

/-- Words are found again when their values are filled into the places that they leave open. -/
theorem Holds.fill {ws : List Word} {ds : List Datum} (h : Holds ws ds) :
    fill (ws.map Word.opened) ds = some ws := by
  obtain ⟨ho, rfl⟩ := h
  induction ws with
  | nil => rfl
  | cons w ws ih =>
    rw [List.mem_cons, not_or] at ho
    have hw := ih ho.2
    cases w with
    | token t =>
      have ht : t ≠ .parameter ['?'] := fun h => ho.1 (by rw [h])
      simp [Sql.fill, Word.opened, List.filterMap_cons, Word.value?, ht, hw]
    | value d => simp [Sql.fill, Word.opened, Word.value?, hw]

theorem Holds.append {vs ws : List Word} {ds es : List Datum} (h : Holds vs ds)
    (h' : Holds ws es) : Holds (vs ++ ws) (ds ++ es) := by
  obtain ⟨ho, rfl⟩ := h
  obtain ⟨ho', rfl⟩ := h'
  exact ⟨by simp [ho, ho'], List.filterMap_append⟩

theorem holds_value (d : Datum) : Holds [.value d] [d] := ⟨by simp, rfl⟩

theorem Holds.intercalate {α : Type} {g : α → List Word} {p : α → List Datum} {sep : List Word}
    (hs : Holds sep []) : ∀ {items : List α}, (∀ a ∈ items, Holds (g a) (p a)) →
      Holds (sep.intercalate (items.map g)) (items.flatMap p)
  | [], _ => ⟨by simp, rfl⟩
  | [a], h => by simpa using h a (by simp)
  | a :: b :: items, h => by
    have ih := Holds.intercalate hs (fun x hx => h x (List.mem_cons_of_mem a hx))
    rw [List.map_cons, List.map_cons, List.intercalate_cons_cons, List.append_assoc]
    exact (h a (by simp)).append (hs.append ih)

theorem ColumnRef.holds (c : ColumnRef) : Holds c.words [] := by
  unfold ColumnRef.words qualifiedWords
  split <;> exact ⟨by simp [nameWord, symbolWord, quotedWord], rfl⟩

theorem holds_not (negated : Bool) : Holds (notWords negated) [] := by
  cases negated <;> exact ⟨by decide, rfl⟩

theorem holds_sign (op : Comparison) : Holds [signWord op] [] := by
  cases op <;> exact ⟨by decide, rfl⟩

namespace Condition

theorem paramsOfAll_eq_flatMap (cs : List Condition) : paramsOfAll cs = cs.flatMap params := by
  induction cs with
  | nil => rfl
  | cons c cs ih => rw [paramsOfAll, ih, List.flatMap_cons]

theorem holds_group {word ifNone : String} {items : List Condition}
    (h : ∀ c ∈ items, Holds c.words c.params) :
    Holds (groupWords word ifNone (items.map words)) (items.flatMap params) := by
  cases items with
  | nil => exact ⟨by simp [groupWords, numberWord, symbolWord], rfl⟩
  | cons c items =>
    have hs : Holds [nameWord word] [] := ⟨by simp [nameWord], rfl⟩
    have ho : Holds [symbolWord '('] [] := ⟨by decide, rfl⟩
    have hc : Holds [symbolWord ')'] [] := ⟨by decide, rfl⟩
    simpa [groupWords] using ho.append ((Holds.intercalate hs h).append hc)

theorem holds_isNull (c : ColumnRef) (negated : Bool) (sentinel? : Option Datum) :
    Holds (isNull c negated sentinel?).words (isNull c negated sentinel?).params := by
  have hc := c.holds
  cases sentinel? with
  | none =>
    have hw : Holds (nameWord "IS" :: notWords negated ++ [nameWord "NULL"]) [] := by
      cases negated <;> exact ⟨by decide, rfl⟩
    simpa [words, params] using hc.append hw
  | some d =>
    have ho : Holds [symbolWord '('] [] := ⟨by decide, rfl⟩
    have hv (op) : Holds [signWord op, .value d, symbolWord ')'] [d] := by
      cases op <;> exact ⟨by simp [signWord, symbolWord, Comparison.sign], rfl⟩
    cases negated with
    | false =>
      have hw : Holds [nameWord "IS", nameWord "NULL", nameWord "OR"] [] := ⟨by decide, rfl⟩
      simpa [words, params] using ho.append (hc.append (hw.append (hc.append (hv .eq))))
    | true =>
      have hw : Holds [nameWord "IS", nameWord "NOT", nameWord "NULL", nameWord "AND"] [] :=
        ⟨by decide, rfl⟩
      simpa [words, params] using ho.append (hc.append (hw.append (hc.append (hv .ne))))

mutual

/-- The parameters of a condition are the values among its words. -/
theorem holds : ∀ c : Condition, Holds c.words c.params
  | compare c op d => by
    simpa [words, params] using c.holds.append ((holds_sign op).append (holds_value d))
  | among c ds negated => by
    have hds : Holds ([symbolWord ','].intercalate (ds.map fun d => [.value d]))
        (ds.flatMap fun d => [d]) :=
      Holds.intercalate ⟨by decide, rfl⟩ fun d _ => holds_value d
    have ho : Holds [nameWord "IN", symbolWord '('] [] := ⟨by decide, rfl⟩
    have hc : Holds [symbolWord ')'] [] := ⟨by decide, rfl⟩
    simpa [words, params] using
      c.holds.append ((holds_not negated).append (ho.append (hds.append hc)))
  | like c pattern negated => by
    have hp : Holds [nameWord "LIKE", .value (.text pattern), nameWord "ESCAPE", escapeWord]
        [.text pattern] := ⟨by simp [nameWord, escapeWord], rfl⟩
    simpa [words, params] using c.holds.append ((holds_not negated).append hp)
  | isNull c negated sentinel? => holds_isNull c negated sentinel?
  | all items => by
    rw [words, params, wordsOfAll_eq_map, paramsOfAll_eq_flatMap]
    exact holds_group (holds_all items)
  | any items => by
    rw [words, params, wordsOfAll_eq_map, paramsOfAll_eq_flatMap]
    exact holds_group (holds_all items)
  | subquery negated join inner outer body => by
    have hf : Holds ([nameWord "EXISTS", symbolWord '(', nameWord "SELECT", numberWord "1",
        nameWord "FROM", quotedWord join.target, nameWord "AS", nameWord (aliasText inner),
        nameWord "WHERE"] ++ qualifiedWords inner join.foreignKey ++ signWord .eq ::
        qualifiedWords outer join.localKey ++ [nameWord "AND"]) [] :=
      ⟨by simp [nameWord, symbolWord, numberWord, quotedWord, qualifiedWords, signWord], rfl⟩
    have hc : Holds [symbolWord ')'] [] := ⟨by decide, rfl⟩
    simpa [words, params] using (holds_not negated).append (hf.append ((holds body).append hc))

theorem holds_all : ∀ cs : List Condition, ∀ c ∈ cs, Holds c.words c.params
  | [], _, h => by cases h
  | c :: _, _, .head _ => holds c
  | _ :: cs, d, .tail _ h => holds_all cs d h

end

end Condition

end RowSieve.Sql
