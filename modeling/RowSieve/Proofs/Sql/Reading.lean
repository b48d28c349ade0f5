/-
What the grammar reads from the words of a condition. Every condition stands where a denial may
stand: its groups are in brackets, so that neither `AND` nor `OR` reaches into or out of them, and
whatever follows its words is left alone. The formula that is read follows the condition's shape.
-/
import RowSieve.Proofs.Sql.Spelling

namespace RowSieve.Sql

open RowSieve.Filter (Comparison)
open RowSieve.Store (Token)

/-! ## Formulas of conditions -/

def ColumnRef.term (c : ColumnRef) : Term := .column (aliasText c.scope).toList c.column

namespace Formula

/-- The comparison of one with a number. -/
def one (n : Int) : Formula := compare (.value (.integer 1)) .eq (.value (.integer n))

/-- Formulas joined from the left, or the formula for none of them. -/
def group (join : Formula → Formula → Formula) (ifNone : Formula) : List Formula → Formula
  | [] => ifNone
  | f :: fs => fs.foldl join f

end Formula

/-- The formula of a join: the row inside belongs to the row outside. -/
def Join.formula (join : Join) (inner outer : Alias) : Formula :=
  .compare (.column (aliasText inner).toList ⟨join.foreignKey, false⟩) .eq
    (.column (aliasText outer).toList ⟨join.localKey, false⟩)

namespace Condition

mutual

/-- The formula that the text of a condition stands for. -/
def formula : Condition → Formula
  | compare c op value => .compare c.term op (.value value)
  | among c values negated => (Formula.among c.term (values.map .value)).notIf negated
  | like c pattern negated => (Formula.like c.term (.value (.text pattern))).notIf negated
  | isNull c negated none => (Formula.isNull c.term).notIf negated
  | isNull c false (some value) => .or (.isNull c.term) (.compare c.term .eq (.value value))
  | isNull c true (some value) => .and (.not (.isNull c.term)) (.compare c.term .ne (.value value))
  | all items => .group .and (.one 1) (formulas items)
  | any items => .group .or (.one 0) (formulas items)
  | subquery negated join inner outer body =>
    (Formula.found join.target (aliasText inner).toList
      (.and (join.formula inner outer) body.formula)).notIf negated

def formulas : List Condition → List Formula
  | [] => []
  | c :: rest => c.formula :: formulas rest

end

theorem formulas_eq_map (cs : List Condition) : formulas cs = cs.map formula := by
  induction cs with
  | nil => rfl
  | cons c cs ih => rw [formulas, ih, List.map_cons]

end Condition

/-! ## Names of scopes -/

/-- The second letter of an alias is a digit, which no keyword has there. -/
theorem aliasText_eq (a : Alias) :
    ∃ c d ds, (aliasText a).toList = c :: d :: ds ∧ Number.isDigit d = true := by
  unfold aliasText
  split
  · exact ⟨'t', '0', [], rfl, rfl⟩
  · simp only [String.toList_append, String.toList_ofList]
    cases hd : Number.toDigits a with
    | nil => exact absurd hd (Number.toDigits_ne_nil a)
    | cons d ds =>
      exact ⟨'r', d, ds, rfl, Number.isDigit_of_mem_toDigits (by rw [hd]; exact .head ds)⟩

/-- Whether a word has a letter behind its first that is no digit in either case. -/
def isLetterWord (word : String) : Bool :=
  ((word.toList.map Text.foldCase)[1]?.any fun c => !Number.isDigit c)

theorem sameName_aliasText (a : Alias) {word : String} (hw : isLetterWord word = true) :
    Token.sameName (aliasText a).toList word.toList = false := by
  obtain ⟨c, d, ds, he, hd⟩ := aliasText_eq a
  rw [Bool.eq_false_iff]
  intro hs
  rw [Token.sameName, beq_iff_eq, he] at hs
  rw [isLetterWord, ← hs] at hw
  simp [Number.foldCase_of_isDigit hd, hd] at hw

theorem isReserved_aliasText (a : Alias) : Token.isReserved (aliasText a).toList = false := by
  have hall : Token.reserved.all isLetterWord = true := by decide
  rw [List.all_eq_true] at hall
  rw [Token.isReserved, List.any_eq_false]
  intro word hword
  rw [sameName_aliasText a (hall word hword)]
  decide

/-! ## Reading single words -/

namespace Formula

theorem keyword?_nameWord (word name : String) (ws : List Word) :
    keyword? word (nameWord name :: ws) =
      if Token.sameName name.toList word.toList then some ws else none := rfl

theorem symbol?_symbolWord (c : Char) (ws : List Word) :
    symbol? c (symbolWord c :: ws) = some ws := by
  simp [symbol?, symbolWord, after?]

theorem scopeName_aliasText (a : Alias) (ws : List Word) :
    scopeName (nameWord (aliasText a) :: ws) = some ((aliasText a).toList, ws) := by
  unfold nameWord scopeName
  simp only [isReserved_aliasText]
  rfl

theorem quotedName_quotedWord (name : String) (ws : List Word) :
    quotedName (quotedWord name :: ws) = some (name, ws) := by
  unfold quotedWord quotedName
  simp

theorem columnName_qualifiedWords (a : Alias) (name : String) (ws : List Word) :
    columnName (qualifiedWords a name ++ ws) = some (((aliasText a).toList, name), ws) := by
  unfold columnName qualifiedWords
  simp only [List.cons_append, List.nil_append, scopeName_aliasText, Option.bind_eq_bind,
    Option.bind_some, symbol?_symbolWord, quotedName_quotedWord]

/-- The term of a column is read from its words. -/
theorem term_words (c : ColumnRef) (ws : List Word) : term (c.words ++ ws) = some (c.term, ws) := by
  obtain ⟨a, name, day⟩ := c
  cases day with
  | false =>
    show columnTerm (qualifiedWords a name ++ ws) = _
    have hd : keyword? "date" (qualifiedWords a name ++ ws) = none := by
      unfold qualifiedWords
      rw [List.cons_append, keyword?_nameWord, sameName_aliasText a (by decide)]
      rfl
    unfold columnTerm
    rw [hd, columnName_qualifiedWords]
    rfl
  | true =>
    show columnTerm (nameWord "date" :: symbolWord '(' :: (qualifiedWords a name ++
      [symbolWord ')'] ++ ws)) = _
    unfold columnTerm
    rw [keyword?_nameWord, if_pos (by decide), List.append_assoc]
    simp only [Option.bind_eq_bind, Option.bind_some, symbol?_symbolWord,
      columnName_qualifiedWords, List.singleton_append]
    rfl

/-- The terms of a list are read from values with commas between them. -/
theorem moreTerms_values (ds : List Datum) (ws : List Word) {count : Nat} (h : ds.length < count) :
    moreTerms count ((ds.flatMap fun d => [symbolWord ',', .value d]) ++ symbolWord ')' :: ws) =
      some (ds.map .value, ws) := by
  induction ds generalizing count with
  | nil =>
    cases count with
    | zero => cases h
    | succ count => rw [moreTerms.eq_def]; simp [symbol?_symbolWord]
  | cons d ds ih =>
    cases count with
    | zero => cases h
    | succ count =>
      have hc : symbol? ')' (symbolWord ',' :: .value d ::
          ((ds.flatMap fun d => [symbolWord ',', .value d]) ++ symbolWord ')' :: ws)) = none := rfl
      simp only [List.flatMap_cons, List.cons_append, List.nil_append, moreTerms, hc,
        symbol?_symbolWord, Option.bind_eq_bind, Option.bind_some, term,
        ih (Nat.lt_of_succ_lt_succ h), List.map_cons]

theorem intercalate_cons {α : Type} (sep w : List α) (ws : List (List α)) :
    sep.intercalate (w :: ws) = w ++ ws.flatMap (sep ++ ·) := by
  induction ws generalizing w with
  | nil => simp
  | cons v ws ih =>
    rw [List.intercalate_cons_cons, ih, List.flatMap_cons, List.append_assoc, List.append_assoc]

theorem length_le_flatMap {α β : Type} {g : α → List β} (hg : ∀ a, g a ≠ []) (items : List α) :
    items.length ≤ (items.flatMap g).length := by
  induction items with
  | nil => exact Nat.le_refl _
  | cons a items ih =>
    have hone : 1 ≤ (g a).length := List.length_pos_iff.2 (hg a)
    rw [List.flatMap_cons, List.length_append, List.length_cons]
    omega

theorem termList_values (ds : List Datum) (ws : List Word) :
    termList (symbolWord '(' :: ([symbolWord ','].intercalate (ds.map fun d => [.value d]) ++
      symbolWord ')' :: ws)) = some (ds.map .value, ws) := by
  unfold termList
  cases ds with
  | nil => simp [symbol?_symbolWord]
  | cons d ds =>
    have hlen : ds.length < ((ds.flatMap fun d => [symbolWord ',', .value d]) ++
        symbolWord ')' :: ws).length := by
      have hle := length_le_flatMap (fun d => List.cons_ne_nil (symbolWord ',') [.value d]) ds
      rw [List.length_append, List.length_cons]
      omega
    have hwords : [symbolWord ','].intercalate ((d :: ds).map fun d => [.value d]) ++
        symbolWord ')' :: ws = .value d :: ((ds.flatMap fun d => [symbolWord ',', .value d]) ++
          symbolWord ')' :: ws) := by
      rw [List.map_cons, intercalate_cons, List.flatMap_map]
      rfl
    have hc (ws) : symbol? ')' (.value d :: ws) = none := rfl
    rw [hwords]
    simp only [symbol?_symbolWord, Option.bind_eq_bind, Option.bind_some, hc, term,
      moreTerms_values ds ws hlen, List.map_cons]

/-! ## Reading tests -/

section Tests

variable (c : ColumnRef) (ws : List Word)

/-- A comparison with whatever term is read behind the sign. -/
theorem test_compare (op : Comparison) (vs : List Word) (t : Term)
    (ht : ∀ ws, term (vs ++ ws) = some (t, ws)) :
    test (c.words ++ signWord op :: (vs ++ ws)) = some (.compare c.term op t, ws) := by
  have step : test (c.words ++ signWord op :: (vs ++ ws)) =
      term (vs ++ ws) >>= fun p => some (.compare c.term op p.1, p.2) := by
    unfold test
    rw [term_words]
    cases op <;> rfl
  rw [step, ht]
  rfl

theorem test_among (ds : List Datum) (negated : Bool) :
    test (c.words ++ notWords negated ++ nameWord "IN" :: symbolWord '(' ::
      ([symbolWord ','].intercalate (ds.map fun d => [.value d]) ++ symbolWord ')' :: ws)) =
      some ((Formula.among c.term (ds.map .value)).notIf negated, ws) := by
  unfold test
  rw [List.append_assoc, term_words]
  have hr : range c.term (nameWord "IN" :: symbolWord '(' :: ([symbolWord ','].intercalate
      (ds.map fun d => [.value d]) ++ symbolWord ')' :: ws)) =
        some (.among c.term (ds.map .value), ws) := by
    unfold range
    rw [keyword?_nameWord, if_pos (by decide)]
    simp only [termList_values, Option.bind_eq_bind, Option.bind_some]
  cases negated with
  | false => exact hr
  | true =>
    exact congrArg (· >>= fun p => some (p.1.not, p.2)) hr

theorem test_like (pattern : String) (negated : Bool) :
    test (c.words ++ notWords negated ++ nameWord "LIKE" :: .value (.text pattern) ::
      nameWord "ESCAPE" :: escapeWord :: ws) =
      some ((Formula.like c.term (.value (.text pattern))).notIf negated, ws) := by
  unfold test
  rw [List.append_assoc, term_words]
  cases negated <;> rfl

theorem test_isNull (negated : Bool) :
    test (c.words ++ nameWord "IS" :: notWords negated ++ nameWord "NULL" :: ws) =
      some ((Formula.isNull c.term).notIf negated, ws) := by
  unfold test
  rw [List.append_assoc, term_words]
  cases negated <;> rfl

end Tests

/-! ## Reading chains -/

section Chains

variable {α : Type} {g : α → List Word} {q : α → Formula}
  {word name : String} {join : Formula → Formula → Formula} {item : Reader Formula}

theorem holds_rest {P : List Word → Prop} (hw : ∀ ws, P (nameWord name :: ws)) {rest : List Word}
    (hp : P rest) (items : List α) :
    P ((items.map g).flatMap ([nameWord name] ++ ·) ++ rest) := by
  cases items with
  | nil => exact hp
  | cons a items => exact hw _

/-- Items that are read wherever `P` holds of what follows are read with the word between them, and
joined from the left. -/
theorem more_items {P : List Word → Prop}
    (hs : Token.sameName name.toList word.toList = true) (hw : ∀ ws, P (nameWord name :: ws))
    {rest : List Word} (hp : P rest) (hn : keyword? word rest = none) :
    ∀ {items : List α} {count : Nat} (f : Formula),
      (∀ a ∈ items, ∀ ws, P ws → item (g a ++ ws) = some (q a, ws)) → items.length ≤ count →
      more word join item count f ((items.map g).flatMap ([nameWord name] ++ ·) ++ rest) =
        some ((items.map q).foldl join f, rest)
  | [], 0, _, _, _ => rfl
  | [], count + 1, f, _, _ => by
    rw [List.map_nil, List.flatMap_nil, List.nil_append, more, hn]
    rfl
  | a :: items, count + 1, f, h, hl => by
    have ha := h a (by simp) _ (holds_rest (g := g) hw hp items)
    rw [List.map_cons, List.flatMap_cons, List.append_assoc, List.append_assoc,
      List.singleton_append, more, keyword?_nameWord, if_pos hs]
    simp only [ha, Option.bind_eq_bind, Option.bind_some]
    exact more_items hs hw hp hn (join f (q a)) (fun x hx => h x (List.mem_cons_of_mem a hx))
      (Nat.le_of_succ_le_succ hl)

theorem chain_items {P : List Word → Prop}
    (hs : Token.sameName name.toList word.toList = true) (hw : ∀ ws, P (nameWord name :: ws))
    {rest : List Word} (hp : P rest) (hn : keyword? word rest = none) {a : α} {items : List α}
    (h : ∀ b ∈ a :: items, ∀ ws, P ws → item (g b ++ ws) = some (q b, ws)) :
    chain word join item ([nameWord name].intercalate ((a :: items).map g) ++ rest) =
      some ((items.map q).foldl join (q a), rest) := by
  rw [List.map_cons, intercalate_cons, List.append_assoc]
  unfold chain
  rw [h a (by simp) _ (holds_rest hw hp items)]
  refine more_items hs hw hp hn _ (fun x hx => h x (List.mem_cons_of_mem a hx)) ?_
  rw [List.length_append]
  have hle := length_le_flatMap (List.cons_ne_nil (nameWord name)) (items.map g)
  rw [List.length_map] at hle
  exact Nat.le_trans hle (Nat.le_add_right _ _)

theorem chain_item {ws rest : List Word} {f : Formula} (h : item (ws ++ rest) = some (f, rest))
    (hn : keyword? word rest = none) : chain word join item (ws ++ rest) = some (f, rest) := by
  unfold chain
  rw [h]
  show more word join item rest.length f rest = _
  cases rest.length with
  | zero => rfl
  | succ count => rw [more, hn]

end Chains

/-! ## Reading conditions -/

/-- Words that are read as one item of a group, whatever follows them. -/
def Item (depth : Nat) (ws : List Word) (f : Formula) : Prop :=
  ∀ rest, item (condition depth) (ws ++ rest) = some (f, rest)

/-- Whether what follows a condition ends it. -/
def Ends (ws : List Word) : Prop := keyword? "and" ws = none ∧ keyword? "or" ws = none

section Groups

variable {α : Type} {g : α → List Word} {q : α → Formula} {depth : Nat} {a : α} {items : List α}
  {rest : List Word}

/-- Items with `AND` between them make one condition. -/
theorem condition_and (h : ∀ b ∈ a :: items, Item depth (g b) (q b)) (hr : Ends rest) :
    condition (depth + 1) ([nameWord "AND"].intercalate ((a :: items).map g) ++ rest) =
      some ((items.map q).foldl and (q a), rest) :=
  chain_item (chain_items (P := fun _ => True) (by decide) (fun _ => trivial) trivial hr.1
    fun b hb ws _ => h b hb ws) hr.2

/-- Items with `OR` between them make one condition. -/
theorem condition_or (h : ∀ b ∈ a :: items, Item depth (g b) (q b)) (hr : Ends rest) :
    condition (depth + 1) ([nameWord "OR"].intercalate ((a :: items).map g) ++ rest) =
      some ((items.map q).foldl or (q a), rest) :=
  chain_items (P := fun ws => keyword? "and" ws = none) (by decide) (fun _ => rfl) hr.1 hr.2
    fun b hb ws hws => chain_item (h b hb ws) hws

theorem condition_and_pair {v w : List Word} {f g : Formula} (hv : Item depth v f)
    (hw : Item depth w g) (hr : Ends rest) :
    condition (depth + 1) (v ++ nameWord "AND" :: w ++ rest) = some (f.and g, rest) := by
  have h : ∀ b ∈ [(v, f), (w, g)], Item depth b.1 b.2 := by simp [hv, hw]
  simpa using condition_and h hr

theorem condition_or_pair {v w : List Word} {f g : Formula} (hv : Item depth v f)
    (hw : Item depth w g) (hr : Ends rest) :
    condition (depth + 1) (v ++ nameWord "OR" :: w ++ rest) = some (f.or g, rest) := by
  have h : ∀ b ∈ [(v, f), (w, g)], Item depth b.1 b.2 := by simp [hv, hw]
  simpa using condition_or h hr

end Groups

section Items

variable {depth : Nat} {ws : List Word} {f : Formula}

theorem ends_close (ws : List Word) : Ends (symbolWord ')' :: ws) := ⟨rfl, rfl⟩

/-- A condition in brackets is an item. -/
theorem item_brackets (h : ∀ rest, condition depth (ws ++ symbolWord ')' :: rest) =
    some (f, symbolWord ')' :: rest)) :
    Item depth (symbolWord '(' :: ws ++ [symbolWord ')']) f := by
  intro rest
  rw [List.append_assoc, List.cons_append]
  show primary (condition depth) (symbolWord '(' :: (ws ++ symbolWord ')' :: rest)) = _
  unfold primary
  rw [symbol?_symbolWord]
  simp only [h, Option.bind_eq_bind, Option.bind_some, symbol?_symbolWord]

/-- Whether a word begins neither a denial nor a bracket nor a subquery. -/
def BeginsTest (w : Word) : Prop :=
  ∀ ws, keyword? "not" (w :: ws) = none ∧ symbol? '(' (w :: ws) = none ∧
    keyword? "exists" (w :: ws) = none

theorem item_test {w : Word} (hw : BeginsTest w)
    (h : ∀ rest, test (w :: ws ++ rest) = some (f, rest)) : Item depth (w :: ws) f := by
  intro rest
  obtain ⟨hn, hb, he⟩ := hw (ws ++ rest)
  show denial (condition depth) ((ws ++ rest).length + 1) (w :: (ws ++ rest)) = _
  rw [denial, hn]
  show primary (condition depth) (w :: (ws ++ rest)) = _
  unfold primary
  rw [hb, he]
  exact h rest

/-- A test of a column is an item. -/
theorem item_column {c : ColumnRef} (h : ∀ rest, test (c.words ++ ws ++ rest) = some (f, rest)) :
    Item depth (c.words ++ ws) f := by
  obtain ⟨a, name, day⟩ := c
  cases day with
  | false =>
    refine item_test (fun ws => ⟨?_, rfl, ?_⟩) h
    · rw [keyword?_nameWord, sameName_aliasText a (by decide)]; rfl
    · rw [keyword?_nameWord, sameName_aliasText a (by decide)]; rfl
  | true => exact item_test (fun ws => ⟨rfl, rfl, rfl⟩) h

/-- A subquery is an item, also one that is denied. -/
theorem item_subquery (negated : Bool) (target : String) (scope : Alias)
    (h : ∀ rest, condition depth (ws ++ symbolWord ')' :: rest) =
      some (f, symbolWord ')' :: rest)) :
    Item depth (notWords negated ++ [nameWord "EXISTS", symbolWord '(', nameWord "SELECT",
      numberWord "1", nameWord "FROM", quotedWord target, nameWord "AS",
      nameWord (aliasText scope), nameWord "WHERE"] ++ ws ++ [symbolWord ')'])
      ((found target (aliasText scope).toList f).notIf negated) := by
  intro rest
  have hselect (ws) : keyword? "select" (nameWord "SELECT" :: ws) = some ws := rfl
  have hone (ws) : term (numberWord "1" :: ws) = some (.value (.integer 1), ws) := rfl
  have hfrom (ws) : keyword? "from" (nameWord "FROM" :: ws) = some ws := rfl
  have has (ws) : keyword? "as" (nameWord "AS" :: ws) = some ws := rfl
  have hwhere (ws) : keyword? "where" (nameWord "WHERE" :: ws) = some ws := rfl
  have hsub : subquery (condition depth) (symbolWord '(' :: nameWord "SELECT" ::
      numberWord "1" :: nameWord "FROM" :: quotedWord target :: nameWord "AS" ::
      nameWord (aliasText scope) :: nameWord "WHERE" :: (ws ++ symbolWord ')' :: rest)) =
        some (found target (aliasText scope).toList f, rest) := by
    unfold subquery
    simp only [symbol?_symbolWord, hselect, hone, hfrom, has, hwhere, quotedName_quotedWord,
      scopeName_aliasText, h, Option.bind_eq_bind, Option.bind_some]
  have hwords : notWords negated ++ [nameWord "EXISTS", symbolWord '(', nameWord "SELECT",
      numberWord "1", nameWord "FROM", quotedWord target, nameWord "AS",
      nameWord (aliasText scope), nameWord "WHERE"] ++ ws ++ [symbolWord ')'] ++ rest =
        notWords negated ++ nameWord "EXISTS" :: symbolWord '(' :: nameWord "SELECT" ::
          numberWord "1" :: nameWord "FROM" :: quotedWord target :: nameWord "AS" ::
          nameWord (aliasText scope) :: nameWord "WHERE" :: (ws ++ symbolWord ')' :: rest) := by
    simp
  rw [hwords]
  cases negated with
  | false => exact hsub
  | true => exact congrArg (· >>= fun p => some (Formula.not p.1, p.2)) hsub

end Items

end Formula

namespace Condition

open Formula (Item)

theorem item_isNull (c : ColumnRef) (negated : Bool) (sentinel? : Option Datum) (depth : Nat) :
    Item (depth + 1) (isNull c negated sentinel?).words (isNull c negated sentinel?).formula := by
  have hn (m : Bool) (depth : Nat) : Item depth (c.words ++ nameWord "IS" :: notWords m ++
      [nameWord "NULL"]) ((Formula.isNull c.term).notIf m) := by
    rw [List.append_assoc]
    exact Formula.item_column fun rest => by simpa using Formula.test_isNull c rest m
  have hv (op) (d : Datum) : Item depth (c.words ++ [signWord op, .value d])
      (.compare c.term op (.value d)) :=
    Formula.item_column fun rest => by
      simpa using Formula.test_compare c rest op [.value d] (.value d) fun _ => rfl
  cases sentinel? with
  | none => exact hn negated _
  | some d =>
    cases negated with
    | false =>
      have h := Formula.item_brackets fun rest =>
        Formula.condition_or_pair (hn false depth) (hv .eq d) (Formula.ends_close rest)
      simpa [words, formula, notWords, Formula.notIf] using h
    | true =>
      have h := Formula.item_brackets fun rest =>
        Formula.condition_and_pair (hn true depth) (hv .ne d) (Formula.ends_close rest)
      simpa [words, formula, notWords, Formula.notIf] using h

theorem item_one (n : Int) (d : Char) (depth : Nat)
    (hd : Number.readInteger .signed64 [d] = .ok n) :
    Item depth [numberWord "1", symbolWord '=', .token (.number [d])] (.one n) := by
  refine Formula.item_test (fun ws => ⟨rfl, rfl, rfl⟩) fun rest => ?_
  have hterm : Formula.term (.token (.number [d]) :: rest) = some (.value (.integer n), rest) := by
    rw [Formula.term, hd]
  exact congrArg (· >>= fun p => some (Formula.compare (.value (.integer 1)) .eq p.1, p.2)) hterm

/-- A group of items is an item: a comparison of numbers, or a condition in brackets. -/
theorem item_group {items : List Condition} {depth : Nat}
    (h : ∀ c ∈ items, Item depth c.words c.formula) :
    Item (depth + 1) (groupWords "AND" "1" (items.map words))
      (.group .and (.one 1) (items.map formula)) ∧
    Item (depth + 1) (groupWords "OR" "0" (items.map words))
      (.group .or (.one 0) (items.map formula)) := by
  cases items with
  | nil => exact ⟨item_one 1 '1' _ rfl, item_one 0 '0' _ rfl⟩
  | cons c items =>
    constructor
    · exact Formula.item_brackets fun rest => Formula.condition_and h (Formula.ends_close rest)
    · exact Formula.item_brackets fun rest => Formula.condition_or h (Formula.ends_close rest)

theorem words_ne_nil (c : Condition) : c.words ≠ [] := by
  cases c with
  | isNull c negated sentinel? => cases sentinel? <;> cases negated <;> simp [words]
  | all items => cases items <;> simp [words, wordsOfAll, groupWords]
  | any items => cases items <;> simp [words, wordsOfAll, groupWords]
  | _ => simp [words]

theorem length_le_intercalate (sep : List Word) {ws : List Word} :
    ∀ {wss : List (List Word)}, ws ∈ wss → ws.length ≤ (sep.intercalate wss).length
  | [_], h => by simp [List.mem_singleton.1 h]
  | v :: w :: wss, h => by
    rw [List.intercalate_cons_cons, List.length_append, List.length_append]
    rcases List.mem_cons.1 h with rfl | h
    · omega
    · have ih := length_le_intercalate sep h
      omega

/-- The items of a group have fewer words than the group, whose brackets are not theirs. -/
theorem length_le_of_group {word ifNone : String} {items : List Condition} {depth : Nat}
    (h : (groupWords word ifNone (items.map words)).length ≤ depth + 1) :
    ∀ c ∈ items, c.words.length ≤ depth := by
  intro c hc
  cases items with
  | nil => cases hc
  | cons d items =>
    have hl := length_le_intercalate [nameWord word] (List.mem_map_of_mem (f := words) hc)
    simp only [groupWords, List.map_cons, List.cons_append, List.length_cons, List.length_append,
      List.length_nil] at h hl
    omega

theorem item_join (join : Join) (inner outer : Alias) (depth : Nat) :
    Item depth (qualifiedWords inner join.foreignKey ++ signWord .eq ::
      qualifiedWords outer join.localKey) (join.formula inner outer) :=
  Formula.item_column (c := ⟨inner, join.foreignKey, false⟩) fun rest => by
    rw [List.append_assoc]
    exact Formula.test_compare ⟨inner, join.foreignKey, false⟩ rest .eq _ _
      (Formula.term_words ⟨outer, join.localKey, false⟩)

mutual

/-- The formula of a condition is read from its words as one item, whatever follows them. -/
theorem item_words : ∀ (c : Condition) {depth : Nat}, c.words.length ≤ depth + 1 →
    Item (depth + 1) c.words c.formula
  | compare c op d, _, _ => by
    rw [words, formula]
    exact Formula.item_column fun rest => by
      simpa using Formula.test_compare c rest op [.value d] (.value d) fun _ => rfl
  | among c ds negated, _, _ => by
    rw [words, formula, List.append_assoc, List.append_assoc]
    exact Formula.item_column fun rest => by simpa using Formula.test_among c rest ds negated
  | like c pattern negated, _, _ => by
    rw [words, formula, List.append_assoc]
    exact Formula.item_column fun rest => by simpa using Formula.test_like c rest pattern negated
  | isNull c negated sentinel?, depth, _ => item_isNull c negated sentinel? depth
  | all items, depth, h => by
    rw [words, wordsOfAll_eq_map] at h
    rw [words, formula, wordsOfAll_eq_map, formulas_eq_map]
    exact (item_group (item_all items (length_le_of_group h))).1
  | any items, depth, h => by
    rw [words, wordsOfAll_eq_map] at h
    rw [words, formula, wordsOfAll_eq_map, formulas_eq_map]
    exact (item_group (item_all items (length_le_of_group h))).2
  | subquery negated join inner outer body, depth, h => by
    have hl : body.words.length + 2 ≤ depth + 1 := by
      refine Nat.le_trans ?_ h
      simp only [words, List.length_append, List.length_cons, List.length_nil]
      omega
    obtain ⟨depth, rfl⟩ : ∃ k, depth = k + 1 := ⟨depth - 1, by omega⟩
    have hbody := item_words body (Nat.le_of_succ_le (Nat.le_of_succ_le_succ hl))
    have hs := Formula.item_subquery negated join.target inner fun rest =>
      Formula.condition_and_pair (item_join join inner outer _) hbody (Formula.ends_close rest)
    rw [words, formula]
    simpa using hs

theorem item_all : ∀ (cs : List Condition) {depth : Nat}, (∀ c ∈ cs, c.words.length ≤ depth) →
    ∀ c ∈ cs, Item depth c.words c.formula
  | [], _, _, _, h => by cases h
  | c :: _, depth, hl, _, .head _ => by
    have hc := hl c (.head _)
    cases depth with
    | zero => exact absurd (List.length_eq_zero_iff.1 (Nat.le_zero.1 hc)) (words_ne_nil c)
    | succ depth => exact item_words c hc
  | _ :: cs, _, hl, c, .tail _ h => item_all cs (fun d hd => hl d (.tail _ hd)) c h

end

end Condition

end RowSieve.Sql
