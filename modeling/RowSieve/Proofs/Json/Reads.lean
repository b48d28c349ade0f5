/-
What readers of JSON texts do where nothing faults. `Reads r s a rest` says that from the text `s`
the reader `r` ends in `a` with `rest` left over, at whatever place of a larger text `s` stands; so
a reader put together of others is followed from part to part, without the places. Main statements:
a text in quotes is read back with every escape undone, and so is a list of such texts, whatever
stands behind them.
-/
import RowSieve.Json.Printer
import RowSieve.Json.Reader

namespace RowSieve.Json.Reader

/-! ## Readers put together -/

/-- From the text `s` the reader ends in `a` with `rest` left over. -/
def Reads {α : Type} (r : Reader α) (s : List Char) (a : α) (rest : List Char) : Prop :=
  ∀ place, ∃ place', r.run ⟨s, place⟩ = (.ok a, ⟨rest, place'⟩)

section Parts

variable {α β : Type} {r : Reader α} {s mid rest : List Char} {a : α} {b : β}

theorem run_bind_of_ok {f : α → Reader β} {c c' : Cursor} (h : r.run c = (.ok a, c')) :
    (r >>= f).run c = (f a).run c' := by
  rw [ExceptT.run_bind]
  show StateT.bind r.run _ c = _
  rw [StateT.bind, h]
  rfl

theorem run_tryCatch_of_ok {f : Fault → Reader α} {c c' : Cursor} (h : r.run c = (.ok a, c')) :
    (tryCatch r f).run c = (.ok a, c') := by
  rw [ExceptT.run_tryCatch]
  show StateT.bind r.run _ c = _
  rw [StateT.bind, h]
  rfl

theorem Reads.pure (a : α) (s : List Char) : Reads (pure a) s a s := fun place => ⟨place, rfl⟩

theorem Reads.bind {f : α → Reader β} (h : Reads r s a mid) (h' : Reads (f a) mid b rest) :
    Reads (r >>= f) s b rest := by
  intro place
  obtain ⟨place', h⟩ := h place
  obtain ⟨place'', h'⟩ := h' place'
  exact ⟨place'', by rw [run_bind_of_ok h, h']⟩

/-- A reader that looks at the cursor in front of it before it goes on. -/
theorem Reads.look {f : Cursor → Reader α} (h : ∀ place, Reads (f ⟨s, place⟩) s a rest) :
    Reads (get >>= f) s a rest := fun place => h place place

theorem Reads.place (h : Reads r s a rest) : Reads (place r) s a rest := by
  intro p
  obtain ⟨p', h⟩ := h p
  exact ⟨p', run_tryCatch_of_ok h⟩

theorem Reads.attempt (h : Reads r s a rest) : Reads (attempt r) s (.ok a) rest := by
  intro p
  obtain ⟨p', h⟩ := h.bind (f := fun a => Pure.pure (Except.ok a)) (.pure (Except.ok a) rest) p
  exact ⟨p', run_tryCatch_of_ok h⟩

/-- What is enclosed is read, and then its end. -/
theorem Reads.enclosed {close : Reader Unit} (h : Reads r s a mid) (hc : Reads close mid () rest) :
    Reads (enclosed r close) s a rest :=
  (h.attempt.bind (hc.bind (.pure a rest))).place

end Parts

/-! ## Characters -/

section Characters

variable {c : Char} {s rest : List Char}

theorem reads_peek (s : List Char) : Reads peek s s.head? s := fun place => ⟨place, rfl⟩

theorem reads_skip (c : Char) (s : List Char) : Reads skip (c :: s) () s := fun _ => ⟨_, rfl⟩

theorem reads_takeWhile (p : Char → Bool) (s : List Char) :
    Reads (takeWhile p) s (s.takeWhile p) (s.dropWhile p) := fun _ => ⟨_, rfl⟩

theorem reads_peekPastBlanks (hc : isJsonBlank c = false) (s : List Char) :
    Reads peekPastBlanks (c :: s) (some c) (c :: s) := by
  intro place
  have hd : (c :: s).dropWhile isJsonBlank = c :: s := List.dropWhile_cons_of_neg (by simp [hc])
  refine
    ⟨Position.behind (Text.Utf8.byteLength ((c :: s).takeWhile isJsonBlank)) (c :: s) place, ?_⟩
  show (Except.ok ((c :: s).dropWhile isJsonBlank).head?,
    (⟨(c :: s).dropWhile isJsonBlank, _⟩ : Cursor)) = _
  rw [hd]
  rfl

theorem reads_peekPastBlanks_nil : Reads peekPastBlanks [] none [] := fun _ => ⟨_, rfl⟩

theorem reads_valueStart (hc : isJsonBlank c = false) (s : List Char) :
    Reads valueStart (c :: s) c (c :: s) :=
  (reads_peekPastBlanks hc s).bind (.pure c _)

theorem reads_deeper {depth : Nat} (hd : 1 < depth) (c : Char) (s : List Char) :
    Reads (deeper depth) (c :: s) (depth - 1) s := by
  unfold deeper
  rw [if_neg (by omega)]
  exact (reads_skip c s).bind (.pure _ _)

theorem reads_enoughFuel (s : List Char) : Reads enoughFuel s (2 * s.length + 4) s :=
  fun place => ⟨place, rfl⟩

end Characters

/-! ## Escapes -/

section Escapes

variable {c : Char}

theorem escaped_of_isPlain (hc : isPlain c = true) : escaped c = [c] := by
  unfold isPlain at hc
  simp only [Bool.and_eq_true, bne_iff_ne, decide_eq_true_eq] at hc
  obtain ⟨⟨hq, hb⟩, hn⟩ := hc
  unfold escaped
  split
  case h_8 => rw [if_neg (by omega)]
  case h_1 => exact absurd rfl hq
  case h_2 => exact absurd rfl hb
  all_goals exact absurd hn (by decide)

theorem hexDigit_facts : ∀ d < 16, hexValue? (hexDigit d) = some d ∧ (hexDigit d).utf8Size = 1 := by
  decide

theorem reads_hexQuad {h l : Nat} (hh : h < 16) (hl : l < 16) (rest : List Char) :
    Reads hexQuad ('0' :: '0' :: hexDigit h :: hexDigit l :: rest) (h * 16 + l) rest := by
  obtain ⟨vh, sh⟩ := hexDigit_facts h hh
  obtain ⟨vl, sl⟩ := hexDigit_facts l hl
  have h0 : hexValue? '0' = some 0 ∧ ('0' : Char).utf8Size = 1 := by decide
  unfold hexQuad
  refine Reads.look fun place => ?_
  have hb : hasBytes 4 ('0' :: '0' :: hexDigit h :: hexDigit l :: rest) = true := by
    simp [hasBytes, sh, sl, h0.2]
  have hm : (('0' :: '0' :: hexDigit h :: hexDigit l :: rest).take 4).mapM hexValue? =
      some [0, 0, h, l] := by
    simp [vh, vl, h0.1]
  simp only [hb, if_true, hm]
  refine (reads_skip _ _).bind ((reads_skip _ _).bind ((reads_skip _ _).bind
    ((reads_skip _ _).bind ?_)))
  simpa using Reads.pure (h * 16 + l) rest

/-- A character that does not stand for itself is written with a backslash, and what stands behind
that is read as the character. -/
theorem exists_escape (hc : isPlain c = false) : ∃ tail, escaped c = '\\' :: tail ∧
    ∀ rest, Reads escape (tail ++ rest) c rest := by
  unfold escaped
  split
  case h_8 _ hq hb _ _ _ _ _ =>
    have hn : c.toNat < 0x20 := by
      have h := by simpa [isPlain] using hc
      exact h hq hb
    rw [if_pos hn]
    refine ⟨_, rfl, fun rest => ?_⟩
    have hu : Reads unicodeEscape
        ('0' :: '0' :: hexDigit (c.toNat / 16) :: hexDigit (c.toNat % 16) :: rest) c rest := by
      refine (reads_hexQuad (by omega) (by omega) rest).bind ?_
      have hsum : c.toNat / 16 * 16 + c.toNat % 16 = c.toNat := by omega
      rw [hsum, if_neg (by omega), if_pos (by omega), Char.ofNat_toNat]
      exact .pure c rest
    exact (reads_peek _).bind ((reads_skip _ _).bind hu)
  all_goals exact ⟨_, rfl, fun rest _ => ⟨_, rfl⟩⟩

end Escapes

/-! ## Texts in quotes -/

theorem flatMap_escaped_of_isPlain {s : List Char} (h : ∀ c ∈ s, isPlain c = true) :
    s.flatMap escaped = s := by
  induction s with
  | nil => rfl
  | cons c s ih =>
    obtain ⟨hc, hs⟩ := List.forall_mem_cons.1 h
    rw [List.flatMap_cons, escaped_of_isPlain hc, ih hs]
    rfl

theorem reads_plain {s behind : List Char} {c : Char} (h : ∀ d ∈ s, isPlain d = true)
    (hc : isPlain c = false) : Reads (takeWhile isPlain) (s ++ c :: behind) s (c :: behind) := by
  have ht : (s ++ c :: behind).takeWhile isPlain = s := by
    rw [List.takeWhile_append_of_pos h, List.takeWhile_cons_of_neg (by simp [hc]), List.append_nil]
  have hd : (s ++ c :: behind).dropWhile isPlain = c :: behind := by
    rw [List.dropWhile_append_of_pos h, List.dropWhile_cons_of_neg (by simp [hc])]
  simpa [ht, hd] using reads_takeWhile isPlain (s ++ c :: behind)

/-- The characters up to the closing quote are read back. The induction is on the steps that reading
is given: each takes the plain characters up to the next escape, and that escape. -/
theorem reads_textRest (rest : List Char) : ∀ {fuel : Nat} {s : List Char}, s.length < fuel →
    Reads (textRest fuel) (s.flatMap escaped ++ '"' :: rest) s rest
  | fuel + 1, s, hf => by
    have hsplit : s.takeWhile isPlain ++ s.dropWhile isPlain = s := List.takeWhile_append_dropWhile
    have hplain : ∀ c ∈ s.takeWhile isPlain, isPlain c = true :=
      List.all_eq_true.1 List.all_takeWhile
    generalize s.takeWhile isPlain = front at hsplit hplain
    unfold textRest
    cases htail : s.dropWhile isPlain with
    | nil =>
      rw [htail, List.append_nil] at hsplit
      subst hsplit
      rw [flatMap_escaped_of_isPlain hplain]
      exact (reads_plain hplain (by decide)).bind
        ((reads_peek _).bind ((reads_skip _ _).bind (.pure _ _)))
    | cons c tail =>
      have hc : isPlain c = false := by
        simpa [htail] using List.head_dropWhile_not isPlain (l := s) (by simp [htail])
      obtain ⟨behind, he, hr⟩ := exists_escape hc
      rw [htail] at hsplit
      subst hsplit
      rw [List.flatMap_append, flatMap_escaped_of_isPlain hplain, List.flatMap_cons, he,
        List.append_assoc, List.cons_append, List.cons_append, List.append_assoc]
      refine (reads_plain hplain (by decide)).bind ((reads_peek _).bind ((reads_skip _ _).bind ?_))
      refine (hr _).bind ((reads_textRest rest (s := tail) ?_).bind (.pure _ _))
      simp only [List.length_append, List.length_cons] at hf
      omega

theorem length_le_flatMap_escaped (s : List Char) : s.length ≤ (s.flatMap escaped).length := by
  induction s with
  | nil => simp
  | cons c s ih =>
    have hc : 1 ≤ (escaped c).length := by
      by_cases h : isPlain c = true
      · rw [escaped_of_isPlain h]; simp
      · obtain ⟨tail, he, -⟩ := exists_escape (by simpa using h)
        rw [he]; simp
    simp only [List.flatMap_cons, List.length_append, List.length_cons]
    omega

theorem reads_text (s : String) (rest : List Char) :
    Reads text (s.toList.flatMap escaped ++ '"' :: rest) s rest := by
  unfold text
  refine Reads.look fun place => ?_
  refine (reads_textRest rest ?_).bind ?_
  · have := length_le_flatMap_escaped s.toList
    simp only [List.length_append]
    omega
  · simpa using Reads.pure s rest

theorem quoted_append (s : String) (rest : List Char) :
    quoted s ++ rest = '"' :: (s.toList.flatMap escaped ++ '"' :: rest) := by
  simp [quoted]

theorem reads_textValue (s : String) (rest : List Char) :
    Reads textValue (quoted s ++ rest) s rest := by
  rw [quoted_append]
  exact (reads_valueStart (by decide) _).bind ((reads_skip _ _).bind (reads_text s rest))

theorem reads_key (s : String) (rest : List Char) : Reads key (quoted s ++ rest) s rest := by
  rw [quoted_append]
  exact (reads_skip _ _).bind (reads_text s rest)

theorem reads_value_text (fuel depth : Nat) (s : String) (rest : List Char) :
    Reads (value (fuel + 1) depth) (quoted s ++ rest) (.text s) rest := by
  rw [quoted_append]
  unfold value
  exact (reads_valueStart (by decide) _).bind ((reads_skip _ _).bind
    ((reads_text s rest).bind (.pure _ _)))

/-! ## Lists -/

/-- What stands behind an item of a list: the others, each with a comma in front. -/
def behindItem : List Json → List Char
  | [] => []
  | v :: vs => ',' :: compactItems (v :: vs)

theorem compactItems_cons (v : Json) (vs : List Json) :
    compactItems (v :: vs) = compactChars v ++ behindItem vs := by
  cases vs with
  | nil => rw [behindItem, List.append_nil, compactItems]
  | cons w vs => rw [behindItem, compactItems]

/-- Whether an item can begin with the character. -/
def beginsItem (c : Char) : Bool := !isJsonBlank c && c != ']'

section Lists

variable {c : Char} {rest : List Char}

theorem reads_moreItems_end (first : Bool) (s : List Char) :
    Reads (moreItems first) (']' :: s) false (']' :: s) :=
  (reads_peekPastBlanks (by decide) s).bind (.pure _ _)

theorem reads_moreItems_first (hc : beginsItem c = true) (s : List Char) :
    Reads (moreItems true) (c :: s) true (c :: s) := by
  simp only [beginsItem, Bool.and_eq_true, Bool.not_eq_true', bne_iff_ne] at hc
  refine (reads_peekPastBlanks hc.1 s).bind ?_
  split
  · rename_i h; cases h
  · rename_i h; cases h; exact absurd rfl hc.2
  · exact .pure _ _

theorem reads_moreItems_next (hc : beginsItem c = true) (s : List Char) :
    Reads (moreItems false) (',' :: c :: s) true (c :: s) := by
  simp only [beginsItem, Bool.and_eq_true, Bool.not_eq_true', bne_iff_ne] at hc
  refine (reads_peekPastBlanks (by decide) _).bind ((reads_skip _ _).bind
    ((reads_peekPastBlanks hc.1 s).bind ?_))
  split
  · rename_i h; cases h
  · rename_i h; cases h; exact absurd rfl hc.2
  · exact .pure _ _

theorem reads_closeList (s : List Char) : Reads closeList (']' :: s) () s :=
  (reads_peekPastBlanks (by decide) s).bind (reads_skip _ _)

/-- What one more item of a list is: the text in front of it, and how it begins. -/
theorem reads_moreItems (first : Bool) {v : Json} (vs : List Json) {chars : List Char}
    (rest : List Char) (hv : compactChars v = c :: chars) (hc : beginsItem c = true) :
    Reads (moreItems first)
      ((if first then compactItems (v :: vs) else behindItem (v :: vs)) ++ rest)
      true (compactChars v ++ (behindItem vs ++ rest)) := by
  cases first with
  | true =>
    rw [if_pos rfl, compactItems_cons, hv, List.append_assoc]
    exact reads_moreItems_first hc _
  | false =>
    rw [if_neg Bool.false_ne_true, behindItem, compactItems_cons, hv, List.cons_append,
      List.append_assoc]
    exact reads_moreItems_next hc _

theorem reads_items_texts (depth : Nat) (rest : List Char) :
    ∀ {fuel : Nat} (first : Bool) {ts : List String}, ts.length < fuel →
      Reads (items fuel depth first)
      ((if first then compactItems (ts.map .text) else behindItem (ts.map .text)) ++ ']' :: rest)
      (ts.map .text) (']' :: rest)
  | fuel + 1, first, [], _ => by
    have hnil : (if first then compactItems (([] : List String).map .text)
        else behindItem (([] : List String).map .text)) = [] := by
      cases first <;> rfl
    rw [hnil]
    unfold items
    exact (reads_moreItems_end first rest).bind (.pure _ _)
  | fuel + 1, first, t :: ts, hf => by
    simp only [List.length_cons] at hf
    obtain ⟨fuel, rfl⟩ : ∃ n, fuel = n + 1 := ⟨fuel - 1, by omega⟩
    have ht : compactChars (.text t) = '"' :: (t.toList.flatMap escaped ++ ['"']) := by
      rw [compactChars, quoted, List.cons_append]
    have hmore := reads_moreItems first (ts.map .text) (']' :: rest) ht (by decide)
    have hnext := reads_items_texts depth rest false (Nat.lt_of_succ_lt_succ hf)
    unfold items
    exact hmore.bind ((reads_value_text fuel depth t _).bind (hnext.bind (.pure _ _)))

/-- The items of a list are read back when each of them is. -/
theorem reads_itemsOf {α : Type} {item : Reader α} {f : α → Json} (rest : List Char) :
    ∀ {fuel : Nat} (first : Bool) {as : List α},
    (∀ a ∈ as, (∃ c chars, compactChars (f a) = c :: chars ∧ beginsItem c = true) ∧
      ∀ rest, Reads item (compactChars (f a) ++ rest) a rest) → as.length < fuel →
    Reads (itemsOf item fuel first)
      ((if first then compactItems (as.map f) else behindItem (as.map f)) ++ ']' :: rest) as
      (']' :: rest)
  | fuel + 1, first, [], _, _ => by
    have hnil : (if first then compactItems (([] : List α).map f)
        else behindItem (([] : List α).map f)) = [] := by
      cases first <;> rfl
    rw [hnil]
    exact (reads_moreItems_end first rest).bind (.pure _ _)
  | fuel + 1, first, a :: as, h, hf => by
    obtain ⟨⟨⟨c, chars, hv, hc⟩, ha⟩, has⟩ := List.forall_mem_cons.1 h
    have hmore := reads_moreItems first (as.map f) (']' :: rest) hv hc
    have hnext := reads_itemsOf rest false has (Nat.lt_of_succ_lt_succ hf)
    exact hmore.bind ((ha _).bind (hnext.bind (.pure _ _)))

/-- A list of texts is read back, where one more level is left. -/
theorem reads_value_texts {fuel depth : Nat} {ts : List String} (hd : 1 < depth)
    (hf : ts.length + 1 < fuel) :
    Reads (value fuel depth) (compactChars (.texts ts) ++ rest) (.texts ts) rest := by
  obtain ⟨fuel, rfl⟩ : ∃ n, fuel = n + 1 := ⟨fuel - 1, by omega⟩
  have hitems := reads_items_texts (depth - 1) rest true (by omega : ts.length < fuel)
  unfold value
  simp only [texts, compactChars, List.cons_append, List.append_assoc, List.nil_append]
  refine (reads_valueStart (by decide) _).bind ((reads_deeper hd _ _).bind ?_)
  have hlist : Reads (do return Json.list (← items fuel (depth - 1) true))
      (compactItems (ts.map .text) ++ ']' :: rest) (Json.list (ts.map .text)) (']' :: rest) :=
    hitems.bind (.pure _ _)
  exact hlist.enclosed (reads_closeList rest)

theorem length_le_compactItems {vs : List Json} (h : ∀ v ∈ vs, compactChars v ≠ []) :
    vs.length ≤ (compactItems vs).length := by
  have hbehind : ∀ {vs : List Json}, (∀ v ∈ vs, compactChars v ≠ []) →
      vs.length ≤ (behindItem vs).length := by
    intro vs h
    induction vs with
    | nil => simp
    | cons v vs ih =>
      have := ih (List.forall_mem_cons.1 h).2
      rw [behindItem, compactItems_cons]
      simp only [List.length_cons, List.length_append]
      omega
  cases vs with
  | nil => simp
  | cons v vs =>
    obtain ⟨hv, hvs⟩ := List.forall_mem_cons.1 h
    have := hbehind hvs
    have := List.length_pos_iff.2 hv
    rw [compactItems_cons]
    simp only [List.length_cons, List.length_append]
    omega

/-- A list of texts is read back as any value, where one more level is left. -/
theorem reads_anyValue_texts {depth : Nat} (hd : 1 < depth) (ts : List String)
    (rest : List Char) :
    Reads (anyValue depth) (compactChars (.texts ts) ++ rest) (.texts ts) rest := by
  refine (reads_enoughFuel _).bind (reads_value_texts hd ?_)
  have hne : ∀ v ∈ ts.map Json.text, compactChars v ≠ [] := by
    intro v hv
    obtain ⟨t, -, rfl⟩ := List.mem_map.1 hv
    simp [compactChars, quoted]
  have hlen := length_le_compactItems hne
  simp only [texts, compactChars, List.length_append, List.length_cons, List.length_map] at hlen ⊢
  omega

theorem reads_anyValue_text (depth : Nat) (t : String) (rest : List Char) :
    Reads (anyValue depth) (quoted t ++ rest) (.text t) rest :=
  (reads_enoughFuel _).bind (reads_value_text _ depth t rest)

/-- A list is read back when each of its items is, where one more level is left. -/
theorem reads_listOf {α : Type} {item : (depth : Nat) → Reader α} {f : α → Json} {depth : Nat}
    {as : List α} (hd : 1 < depth)
    (h : ∀ a ∈ as, (∃ c chars, compactChars (f a) = c :: chars ∧ beginsItem c = true) ∧
      ∀ rest, Reads (item (depth - 1)) (compactChars (f a) ++ rest) a rest) :
    Reads (listOf depth item) (compactChars (.list (as.map f)) ++ rest) as rest := by
  have hlen : as.length < 2 * (compactItems (as.map f) ++ ']' :: rest).length + 4 := by
    have hne : ∀ v ∈ as.map f, compactChars v ≠ [] := by
      intro v hv
      obtain ⟨a, ha, rfl⟩ := List.mem_map.1 hv
      obtain ⟨⟨c, chars, hc, -⟩, -⟩ := h a ha
      simp [hc]
    have hle := length_le_compactItems hne
    simp only [List.length_append, List.length_map] at hle ⊢
    omega
  have hitems := reads_itemsOf rest true h hlen
  simp only [compactChars, List.cons_append, List.append_assoc, List.nil_append]
  refine (reads_valueStart (by decide) _).bind ((reads_deeper hd _ _).bind ?_)
  exact ((reads_enoughFuel _).bind hitems).enclosed (reads_closeList rest)

end Lists

/-! ## Records -/

/-- What stands behind a member of an object: the others, each with a comma in front. -/
def behindMember : List (String × Json) → List Char
  | [] => []
  | m :: ms => ',' :: compactMembers (m :: ms)

theorem compactMembers_cons (k : String) (v : Json) (ms : List (String × Json)) :
    compactMembers ((k, v) :: ms) = quoted k ++ ':' :: (compactChars v ++ behindMember ms) := by
  cases ms with
  | nil => rw [behindMember, List.append_nil, compactMembers]
  | cons m ms => rw [behindMember, compactMembers, List.append_assoc, List.cons_append]

theorem reads_moreMembers_end (first : Bool) (s : List Char) :
    Reads (moreMembers first) ('\x7d' :: s) false ('\x7d' :: s) :=
  (reads_peekPastBlanks (by decide) s).bind (.pure _ _)

theorem reads_moreMembers {first : Bool} {k : String} {v : Json} {ms : List (String × Json)}
    {rest : List Char} :
    Reads (moreMembers first)
      ((if first then compactMembers ((k, v) :: ms) else behindMember ((k, v) :: ms)) ++ rest) true
      (quoted k ++ ':' :: (compactChars v ++ (behindMember ms ++ rest))) := by
  cases first with
  | true =>
    simp only [if_true, compactMembers_cons, List.append_assoc, List.cons_append]
    rw [quoted_append]
    exact (reads_peekPastBlanks (by decide) _).bind (.pure _ _)
  | false =>
    simp only [Bool.false_eq_true, if_false, behindMember, compactMembers_cons, List.append_assoc,
      List.cons_append]
    rw [quoted_append]
    exact (reads_peekPastBlanks (by decide) _).bind ((reads_skip _ _).bind
      ((reads_peekPastBlanks (by decide) _).bind (.pure _ _)))

theorem reads_colon (s : List Char) : Reads colon (':' :: s) () s :=
  (reads_peekPastBlanks (by decide) s).bind (reads_skip _ _)

theorem reads_closeObject (s : List Char) : Reads closeObject ('\x7d' :: s) () s :=
  (reads_peekPastBlanks (by decide) s).bind (reads_skip _ _)

section Records

variable {σ α : Type} {form : RecordForm σ} {other : String → (depth : Nat) → σ → Reader σ}
  {depth fuel : Nat} {first : Bool} {record record' result : σ} {rest rest' : List Char}

theorem reads_fromMembers_end :
    Reads (form.fromMembers other depth (fuel + 1) first record) ('\x7d' :: rest) record
      ('\x7d' :: rest) :=
  (reads_moreMembers_end first rest).bind (.pure _ _)

/-- A member that is a field not read before is read as the field, and then the others. -/
theorem reads_fromMembers_field (first : Bool) {k : String} {v : Json} {ms : List (String × Json)}
    {field : Field σ} (hf : form.fields.find? (·.name == k) = some field)
    (hg : field.given record = false)
    (hr : Reads (field.read depth record) (compactChars v ++ (behindMember ms ++ rest)) record'
      (behindMember ms ++ rest))
    (hnext : Reads (form.fromMembers other depth fuel false record') (behindMember ms ++ rest)
      result rest') :
    Reads (form.fromMembers other depth (fuel + 1) first record)
      ((if first then compactMembers ((k, v) :: ms) else behindMember ((k, v) :: ms)) ++ rest)
      result rest' := by
  refine reads_moreMembers.bind ((reads_key k _).bind ?_)
  simp only [hf, hg, Bool.false_eq_true, if_false]
  exact (reads_colon _).bind (hr.bind hnext)

/-- A record is read from an object when its members are, where one more level is left. -/
theorem reads_record {finish : σ → Except Problem α} {a : α} {ms : List (String × Json)}
    (record : σ)
    (hd : 1 < depth) (hfin : finish record = .ok a)
    (h : ∀ other fuel, 4 ≤ fuel → Reads (form.fromMembers other (depth - 1) fuel true form.blank)
      (compactMembers ms ++ '\x7d' :: rest) record ('\x7d' :: rest)) :
    Reads (form.read finish depth) (compactChars (.object ms) ++ rest) a rest := by
  simp only [compactChars, List.cons_append, List.append_assoc, List.nil_append]
  refine (reads_valueStart (by decide) _).bind ((reads_deeper hd _ _).bind ?_)
  refine Reads.enclosed ((reads_enoughFuel _).bind ((h _ _ (by omega)).bind ?_))
    (reads_closeObject rest)
  simp only [hfin]
  exact .pure a _

end Records

/-! ## Whole texts -/

/-- A text that is read to its end is read as a whole. -/
theorem run_start_of_reads {α : Type} {r : Reader α} {s rest : List Char} {a : α}
    (h : Reads r s a rest) : (r.run (Cursor.start s)).1 = .ok a := by
  obtain ⟨place, hrun⟩ := h ⟨1, 0⟩
  exact congrArg Prod.fst hrun

theorem readWhole_of_reads {α : Type} {r : (depth : Nat) → Reader α} {s : List Char} {a : α}
    (h : Reads (r depthLimit) s a []) : readWhole r (String.ofList s) = .ok a := by
  unfold readWhole
  rw [String.toList_ofList]
  exact run_start_of_reads (h.bind (reads_peekPastBlanks_nil.bind (.pure a [])))

end RowSieve.Json.Reader
