/-
Names in quotes. Whatever characters a name has, its quotes end behind it and nowhere else: it is
read back from them, with what stands behind them untouched, so different names have different
texts. The words of a column and of a subquery are those that their names are meant to be, each
name in one word of its own, and then those of the text that follows.
-/
import RowSieve.Proofs.Sql.Spelling

namespace RowSieve.Sql

open RowSieve.Store (Token)
open RowSieve.Store.Token (inQuotes inQuotes_doubleQuotes)

/-! ## Names in quotes -/

/-- Behind an opening quote stands a name, and behind its closing quote the rest: a quote written
twice stands for one in the name, and the first that is not closes it. -/
inductive Quoted : (text name rest : List Char) → Prop where
  | close {rest : List Char} : rest.head? ≠ some '"' → Quoted ('"' :: rest) [] rest
  | quote {text name rest : List Char} : Quoted text name rest →
      Quoted ('"' :: '"' :: text) ('"' :: name) rest
  | other {c : Char} {text name rest : List Char} : c ≠ '"' → Quoted text name rest →
      Quoted (c :: text) (c :: name) rest

/-- The text is a name in quotes and the rest behind it. -/
def BeginsQuoted (text name rest : List Char) : Prop :=
  ∃ inside, text = '"' :: inside ∧ Quoted inside name rest

variable {text name rest : List Char}

theorem inQuotes_of_quoted (h : Quoted text name rest) :
    inQuotes '"' text = some (name, rest) := by
  induction h with
  | @close rest hr =>
    cases rest with
    | nil => rfl
    | cons d rest =>
      have hd : d ≠ '"' := by simpa using hr
      simp [inQuotes, hd]
  | quote _ ih => simp [inQuotes, ih]
  | other hc _ ih =>
    rw [inQuotes.eq_def]
    simp [hc, ih]

theorem quoted_of_inQuotes (h : inQuotes '"' text = some (name, rest)) :
    Quoted text name rest := by
  fun_induction inQuotes '"' text generalizing name with
  | case1 => cases h
  | case2 c text hc ih =>
    obtain ⟨⟨inner, behind⟩, hinner, heq⟩ := Option.map_eq_some_iff.1 h
    cases heq
    exact .other hc (ih hinner)
  | case3 c hc d text hd ih =>
    obtain ⟨⟨inner, behind⟩, hinner, heq⟩ := Option.map_eq_some_iff.1 h
    cases heq
    obtain rfl : c = '"' := Classical.not_not.1 hc
    rw [hd.1]
    exact .quote (ih hinner)
  | case4 c hc d text hd =>
    cases h
    obtain rfl : c = '"' := Classical.not_not.1 hc
    exact .close fun hhead => hd ⟨Option.some.inj hhead, by decide⟩
  | case5 c hc =>
    cases h
    obtain rfl : c = '"' := Classical.not_not.1 hc
    exact .close (by simp)

theorem quoted_iff : Quoted text name rest ↔ inQuotes '"' text = some (name, rest) :=
  ⟨inQuotes_of_quoted, quoted_of_inQuotes⟩

/-- A quoted identifier is read as its name, with all behind it left over, and in no other way. -/
theorem beginsQuoted_quoteIdent_iff {ident : String} (hr : rest.head? ≠ some '"')
    {behind : List Char} : BeginsQuoted ((quoteIdent ident).toList ++ rest) name behind ↔
      name = ident.toList ∧ behind = rest := by
  have htext : (quoteIdent ident).toList ++ rest =
      '"' :: (doubleQuotes ident.toList ++ '"' :: rest) := by
    simp [quoteIdent]
  have hread := inQuotes_doubleQuotes ident.toList hr
  constructor
  · rintro ⟨inside, hinside, hquoted⟩
    rw [htext] at hinside
    obtain rfl := (List.cons.inj hinside).2
    rw [quoted_iff, hread] at hquoted
    cases hquoted
    exact ⟨rfl, rfl⟩
  · rintro ⟨rfl, rfl⟩
    exact ⟨_, htext, quoted_iff.2 hread⟩

theorem quoteIdent_injective : Function.Injective quoteIdent := by
  intro a b h
  have ha : BeginsQuoted ((quoteIdent a).toList ++ []) a.toList [] :=
    (beginsQuoted_quoteIdent_iff (by simp)).2 ⟨rfl, rfl⟩
  rw [h, beginsQuoted_quoteIdent_iff (by simp)] at ha
  exact String.toList_inj.1 ha.1

/-! ## Names in columns and subqueries -/

/-- No name ends its own quotes or takes in what stands behind them, unless another quote does. A
quoted identifier followed by any other text is read as its name and that text, so that different
names differ in quotes. The words of a column and what follows it are the alias and the name of the
column, each in a word of its own, and the words of what follows; those of a subquery name its table
and its two keys in the same way before the words of its body. -/
theorem quotes_close_behind_names :
    (∀ (ident : String) (rest : List Char), rest.head? ≠ some '"' → ∀ name behind,
      BeginsQuoted ((quoteIdent ident).toList ++ rest) name behind ↔
        name = ident.toList ∧ behind = rest) ∧
    Function.Injective quoteIdent ∧
    (∀ (c : ColumnRef) (rest : List Char), rest.head? ≠ some '"' →
      Token.ofText (c.text.toList ++ rest) = c.words.map Word.opened ++ Token.ofText rest) ∧
    ∀ (negated : Bool) (join : Join) (inner outer : Alias) (body : Condition) (rest : List Char),
      Token.ofText ((Condition.subquery negated join inner outer body).text.toList ++ rest) =
        (Condition.scopeWords negated join inner outer).map Word.opened ++
          Token.ofText (body.text.toList ++ ')' :: rest) := by
  refine ⟨fun ident rest hr name behind => beginsQuoted_quoteIdent_iff hr, quoteIdent_injective,
    fun c rest hr => ?_, fun negated join inner outer body rest => ?_⟩
  · exact (c.reads hr (Token.reads_ofText rest)).ofText
  · exact (Condition.reads_subquery (Token.reads_ofText _)).ofText

theorem quotes_close_behind_names_hostile :
    " = ?".toList.head? ≠ some '"' ∧
    BeginsQuoted ((quoteIdent "\" OR \"\"=\"").toList ++ " = ?".toList) "\" OR \"\"=\"".toList
      " = ?".toList ∧
    Token.ofText "t0.\"\"\" OR \"\"\"\"=\"\"\" = ?".toList =
      [.name "t0".toList, .symbol '.', .quoted '"' "\" OR \"\"=\"".toList, .symbol '=',
        .parameter ['?']] := by
  have hr : " = ?".toList.head? ≠ some '"' := by decide
  have hcolumn := quotes_close_behind_names.2.2.1 ⟨rootAlias, "\" OR \"\"=\"", false⟩ _ hr
  exact ⟨hr, (quotes_close_behind_names.1 _ _ hr _ _).2 ⟨rfl, rfl⟩, hcolumn⟩

end RowSieve.Sql
