/-
No value of a request reaches the text of a statement. Lists of requests that differ in nothing but
the scalars of their values have queries of the same texts, with equally many parameters; and of
the order that a client asks for, a statement shows one of the listed columns and one of two words.
-/
import RowSieve.Http.Order
import RowSieve.Proofs.Invoice.Search
import RowSieve.Proofs.Sql.Outline

namespace RowSieve.Http

/-! ## Orders that are read -/

theorem Order.column_mem_of_read {text : String} {columns : List String} {o : Order}
    (h : read text columns = .ok o) : o.column ∈ columns := by
  unfold read at h
  split at h
  case h_4 => cases h
  all_goals
    simp only [bind, Except.bind] at h
    split at h
    · rename_i hmem
      cases h
      exact hmem
    · cases h

theorem Order.text_eq (o : Order) (columnText : String → String) :
    o.text columnText = columnText o.column ++ " ASC" ∨
      o.text columnText = columnText o.column ++ " DESC" := by
  rw [Order.text, String.append_assoc]
  cases o.direction with
  | rising => exact .inl rfl
  | falling => exact .inr rfl

end RowSieve.Http

namespace RowSieve.Invoice

open RowSieve.Filter (Request)
open RowSieve.Sql

/-! ## Texts of statements -/

/-- No listed column has a character that is written otherwise between quotes. -/
theorem columnText_of_mem {q : Query} {c : String} (h : c ∈ orderColumns) :
    Filter.Target.columnText q c = "t0.\"" ++ c ++ "\"" := by
  have hall : ∀ c ∈ orderColumns, qualified rootAlias c = "t0.\"" ++ c ++ "\"" := by decide
  exact hall c h

namespace Search

variable {s : Search} {rs rs' : List Request} {q q' : Query}

/-- The outlines of its requests decide the outline of a query. -/
theorem outline_eq_of_query (ho : rs.map Request.outline = rs'.map Request.outline)
    (h : s.query rs = .ok q) (h' : s.query rs' = .ok q') : q.outline = q'.outline := by
  obtain ⟨ps, hp, hf⟩ := query_eq_ok.1 h
  obtain ⟨ps', hp', hf'⟩ := query_eq_ok.1 h'
  exact Query.outline_eq_of_foldlM (Filter.Catalog.outline_predicates ho hp hp') hf hf'

theorem order_text_of_read {text : String} {o : Http.Order}
    (h : Http.Order.read text orderColumns = .ok o) :
    ∃ c ∈ orderColumns, o.text (Filter.Target.columnText q) = "t0.\"" ++ c ++ "\" ASC" ∨
      o.text (Filter.Target.columnText q) = "t0.\"" ++ c ++ "\" DESC" := by
  have hmem := Http.Order.column_mem_of_read h
  have htext := o.text_eq (Filter.Target.columnText q)
  rw [columnText_of_mem hmem] at htext
  refine ⟨o.column, hmem, ?_⟩
  simpa [String.append_assoc] using htext

/-- No value reaches the text of a statement. Lists of requests with the same keys, tokens of
operators and shapes of values have queries of the same texts, with equally many parameters; and an
order that is accepted is shown as a listed column, quoted, and one of two words. -/
theorem texts_show_outlines (s : Search) :
    (∀ (rs rs' : List Request) (q q' : Query),
      rs.map Request.outline = rs'.map Request.outline →
      s.query rs = .ok q → s.query rs' = .ok q' →
      q.conditionTexts = q'.conditionTexts ∧ q.whereClause = q'.whereClause ∧
        q.params.length = q'.params.length) ∧
    ∀ (q : Query) (text : String) (o : Http.Order),
      Http.Order.read text orderColumns = .ok o → ∃ c ∈ orderColumns,
        o.text (Filter.Target.columnText q) = "t0.\"" ++ c ++ "\" ASC" ∨
        o.text (Filter.Target.columnText q) = "t0.\"" ++ c ++ "\" DESC" := by
  refine ⟨fun rs rs' q q' ho h h' => ?_, fun q text o h => order_text_of_read h⟩
  exact Query.texts_eq_of_outline_eq (outline_eq_of_query ho h h')

/-- A value that would end the text early stands where another did. -/
theorem texts_show_outlines_hostile_list : ∃ (s : Search) (q q' : Query),
    s.query [⟨"lineItems.product_name", "notIn", some (.list [.text "Desk", .text "Lamp"])⟩] =
      .ok q ∧
    s.query [⟨"lineItems.product_name", "notIn", some (.list [.text "') OR 1=1 --", .text "?"])⟩] =
      .ok q' ∧
    q.params ≠ q'.params ∧ q.whereClause = q'.whereClause ∧
    q.params.length = q'.params.length := by
  refine ⟨⟨⟨[.ofKind "lineItems.product_name" .text], rfl⟩, Invoice.joins, rfl⟩, ?q, ?q', ?hq, ?hq',
    ?_, ((texts_show_outlines _).1 _ _ _ _ ?ho ?hq ?hq').2⟩
  case ho | hq | hq' => rfl
  decide

end Search

end RowSieve.Invoice
