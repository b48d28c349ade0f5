/-
Listings of invoices. `IsListing` says what a listing is from the statements' side: the rows of a
left join with customers for which the clause is true, in the order of a column with the number
behind it. A store with distinct keys has exactly one such listing; when a statement is carried
out, a count is the number of its rows and a page is a stretch of it.
-/
import Mathlib.Data.Int.Order.Basic
import Mathlib.Data.List.Sort
import Mathlib.Data.Prod.Lex
import RowSieve.Proofs.Invoice.Intersection
import RowSieve.Proofs.Sql.Order
import RowSieve.Proofs.Store.Inserts

namespace RowSieve.Store

open RowSieve.Http (Direction Order)
open RowSieve.Sql

/-! ## The order of invoices -/

/-- How the value of the row in front compares with that of the other. -/
def inFront : Direction → Ordering
  | .rising => .lt
  | .falling => .gt

/-- Whether an invoice stands in front of another: by the column in its direction, and by number
where the values are the same. -/
def Precedes (o : Order) (a b : Invoice) : Prop :=
  ∃ c, (a.cell o.column).compare? (b.cell o.column) = some c ∧
    (c = inFront o.direction ∨ c = .eq ∧ a.id < b.id)

section Order

variable {o : Order} {a b : Invoice}

/-- The values of a column that can be ordered by are compared as elements of a linear order. -/
theorem exists_columnKey {column : String} (h : column ∈ RowSieve.Invoice.orderColumns) :
    ∃ (K : Type) (_ : LinearOrder K) (key : Invoice → K), ∀ a b : Invoice, ∃ c : Ordering,
      (a.cell column).compare? (b.cell column) = some c ∧ c.Compares (key a) (key b) := by
  simp only [RowSieve.Invoice.orderColumns, List.mem_cons, List.not_mem_nil, or_false] at h
  obtain rfl | rfl | rfl | rfl | rfl := h
  · exact ⟨Int, inferInstance, (·.id), fun a b => ⟨_, rfl, (compare_iff _ _).1 rfl⟩⟩
  · exact ⟨List Char, inferInstance, (·.number.toList),
      fun a b => ⟨_, rfl, Cell.compares_texts _ _⟩⟩
  · exact ⟨Int, inferInstance, (·.totalAmount.signedScale),
      fun a b => ⟨_, rfl, (compare_iff _ _).1 rfl⟩⟩
  · exact ⟨List Char, inferInstance, (·.issuedAt.toList),
      fun a b => ⟨_, rfl, Cell.compares_texts _ _⟩⟩
  · exact ⟨List Char, inferInstance, (·.paidAt.toList),
      fun a b => ⟨_, rfl, Cell.compares_texts _ _⟩⟩

/-- The same in the direction of the order: what stands in front is less. -/
theorem exists_key (h : o.column ∈ RowSieve.Invoice.orderColumns) :
    ∃ (K : Type) (_ : LinearOrder K) (key : Invoice → K), ∀ a b : Invoice, ∃ c : Ordering,
      (a.cell o.column).compare? (b.cell o.column) = some c ∧
        (c = inFront o.direction ↔ key a < key b) ∧ (c = .eq ↔ key a = key b) := by
  obtain ⟨column, direction⟩ := o
  obtain ⟨K, _, key, hkey⟩ := exists_columnKey h
  cases direction with
  | rising =>
    refine ⟨K, inferInstance, key, fun a b => ?_⟩
    obtain ⟨c, hc, hk⟩ := hkey a b
    exact ⟨c, hc, hk.eq_lt, hk.eq_eq⟩
  | falling =>
    refine ⟨Kᵒᵈ, inferInstance, fun i => OrderDual.toDual (key i), fun a b => ?_⟩
    obtain ⟨c, hc, hk⟩ := hkey a b
    exact ⟨c, hc, hk.eq_gt, hk.eq_eq⟩

theorem inOrder_iff {c : Ordering}
    (h : (a.cell o.column).compare? (b.cell o.column) = some c) :
    Database.inOrder o a b = true ↔ c = inFront o.direction ∨ c = .eq ∧ a.id ≤ b.id := by
  obtain ⟨column, direction⟩ := o
  unfold Database.inOrder
  rw [h]
  cases direction <;> cases c <;> simp [inFront]

theorem precedes_iff {c : Ordering}
    (h : (a.cell o.column).compare? (b.cell o.column) = some c) :
    Precedes o a b ↔ c = inFront o.direction ∨ c = .eq ∧ a.id < b.id := by
  simp [Precedes, h]

/-- The order of a listing is lexicographic: by the value of the column, and then by number. -/
theorem exists_rank (h : o.column ∈ RowSieve.Invoice.orderColumns) :
    ∃ (K : Type) (_ : LinearOrder K) (rank : Invoice → K ×ₗ Int), ∀ a b,
      (Database.inOrder o a b = true ↔ rank a ≤ rank b) ∧ (Precedes o a b ↔ rank a < rank b) ∧
        (rank a = rank b → a.id = b.id) := by
  obtain ⟨K, _, key, hkey⟩ := exists_key h
  refine ⟨K, inferInstance, fun i => toLex (key i, i.id), fun a b => ?_⟩
  obtain ⟨c, hc, hlt, heq⟩ := hkey a b
  rw [inOrder_iff hc, precedes_iff hc, hlt, heq, Prod.Lex.toLex_le_toLex,
    Prod.Lex.toLex_lt_toLex]
  exact ⟨Iff.rfl, Iff.rfl, fun h => (Prod.mk.inj (toLex_inj.1 h)).2⟩

/-- Sorted rows with distinct numbers stand each in front of the next ones. -/
theorem pairwise_precedes (h : o.column ∈ RowSieve.Invoice.orderColumns) {rows : List Invoice}
    (hn : (rows.map (·.id)).Nodup) :
    (rows.mergeSort (Database.inOrder o)).Pairwise (Precedes o) := by
  obtain ⟨K, _, rank, hrank⟩ := exists_rank h
  have hsorted : (rows.mergeSort (Database.inOrder o)).Pairwise
      fun a b => Database.inOrder o a b = true := by
    refine List.pairwise_mergeSort (fun a b c hab hbc => ?_) (fun a b => ?_) rows
    · exact (hrank a c).1.2 (((hrank a b).1.1 hab).trans ((hrank b c).1.1 hbc))
    · rw [Bool.or_eq_true, (hrank a b).1, (hrank b a).1]
      exact le_total _ _
  have hdistinct : (rows.mergeSort (Database.inOrder o)).Pairwise fun a b => a.id ≠ b.id := by
    rw [← List.pairwise_map (R := (· ≠ ·))]
    exact ((List.mergeSort_perm rows _).map (·.id)).nodup_iff.2 hn
  refine hsorted.imp₂ (fun a b hab hne => ?_) hdistinct
  obtain ⟨hle, hlt, heq⟩ := hrank a b
  exact hlt.2 (lt_of_le_of_ne (hle.1 hab) (mt heq hne))

theorem precedes_asymm (h : o.column ∈ RowSieve.Invoice.orderColumns) (hab : Precedes o a b) :
    ¬ Precedes o b a := by
  obtain ⟨K, _, rank, hrank⟩ := exists_rank h
  rw [(hrank b a).2.1]
  exact lt_asymm ((hrank a b).2.1.1 hab)

end Order

namespace Database

/-! ## The join with customers -/

/-- Invoices joined with their customers; an invoice without one stays, with nothing. -/
def joined (db : Database) : List (Invoice × Option Customer) :=
  db.invoices.flatMap fun i =>
    match db.customers.filter fun c => i.customerId? = some c.id with
    | [] => [(i, none)]
    | cs => cs.map fun c => (i, some c)

/-- A row of the join as a listing shows it, with the number of items of the invoice. -/
def shown (db : Database) (r : Invoice × Option Customer) : InvoiceRow :=
  ⟨r.1, r.2.map (·.name), db.lineItems.countP (·.invoiceId == r.1.id)⟩

section Join

variable {db : Database}

/-- Of rows with distinct keys at most one has a key. -/
theorem filter_id_eq {rows : List Customer} (h : (rows.map (·.id)).Nodup) (n : Int) :
    (rows.filter fun c => some n = some c.id) = (rows.find? (·.id == n)).toList := by
  induction rows with
  | nil => rfl
  | cons c rows ih =>
    rw [List.map_cons, List.nodup_cons] at h
    by_cases hc : c.id = n
    · have hrest : (rows.filter fun c => some n = some c.id) = [] := by
        refine List.filter_eq_nil_iff.2 fun c' hc' hid => h.1 (List.mem_map.2 ⟨c', hc', ?_⟩)
        rw [hc]
        exact (Option.some.inj (of_decide_eq_true hid)).symm
      rw [List.filter_cons_of_pos (by simp [hc]), hrest, List.find?_cons_of_pos (by simp [hc])]
      rfl
    · rw [List.filter_cons_of_neg (by simpa using Ne.symm hc), ih h.2,
        List.find?_cons_of_neg (by simpa using hc)]

/-- In a store with distinct keys the join has one row for each invoice. -/
theorem joined_eq_map (h : db.Keyed) : db.joined = db.invoices.map fun i =>
    (i, i.customerId?.bind fun n => db.customers.find? (·.id == n)) := by
  rw [joined, List.map_eq_flatMap]
  congr 1
  funext i
  cases hi : i.customerId? with
  | none => simp
  | some n =>
    rw [filter_id_eq h.customers, Option.bind_some]
    cases db.customers.find? (·.id == n) <;> rfl

end Join

/-! ## Listings -/

/-- What a statement lists for a query at a moment: the rows of the join for which its clause is
true, one strictly in front of the next. -/
structure IsListing (db : Database) (now : Int) (q : Query) (o : Order)
    (rows : List InvoiceRow) : Prop where
  rows_of_join : rows.Perm ((db.joined.filter fun r =>
    truthOfClause? q.whereClause q.params (db.tables now) (r.1.row now) = some .yes).map db.shown)
  ordered : rows.Pairwise fun a b => Precedes o a.invoice b.invoice

/-- All that a query lists at a moment. -/
def listing (db : Database) (now : Int) (q : Query) (o : Order) : List InvoiceRow :=
  ((db.selected now q).mergeSort (inOrder o)).map db.invoiceRow

section Listings

open RowSieve.Invoice (Search orderColumns)

variable {db : Database} {now : Int} {q : Query} {o : Order} {rows rows' : List InvoiceRow}

theorem IsListing.unique (ho : o.column ∈ orderColumns) (h : db.IsListing now q o rows)
    (h' : db.IsListing now q o rows') : rows = rows' := by
  refine (h.rows_of_join.trans h'.rows_of_join.symm).eq_of_pairwise ?_ h.ordered h'.ordered
  exact fun a b _ _ hab hba => absurd hba (precedes_asymm ho hab)

theorem nodup_selected (h : db.Keyed) : ((db.selected now q).map (·.id)).Nodup :=
  h.invoices.sublist (List.filter_sublist.map _)

theorem nodup_listing (h : db.Keyed) : ((db.listing now q o).map (·.invoice.id)).Nodup := by
  rw [listing, List.map_map]
  exact ((List.mergeSort_perm _ _).map _).nodup_iff.2 (nodup_selected h)

theorem length_listing : (db.listing now q o).length = (db.selected now q).length := by
  rw [listing, List.length_map, List.length_mergeSort]

/-- What a store with distinct keys lists is the listing. -/
theorem isListing_listing (h : db.Keyed) (ho : o.column ∈ orderColumns)
    {s : Search} {rs : List Filter.Request} (hq : s.query rs = .ok q) :
    db.IsListing now q o (db.listing now q o) := by
  constructor
  · have hrow : db.shown ∘ (fun i : Invoice =>
        (i, i.customerId?.bind fun n => db.customers.find? (·.id == n))) = db.invoiceRow := rfl
    rw [joined_eq_map h, List.filter_map, List.map_map, hrow]
    refine List.Perm.map _ ((List.mergeSort_perm _ _).trans (.of_eq ?_))
    refine List.filter_congr fun i _ => ?_
    rw [Bool.eq_iff_iff, ← Search.clause_iff_selects hq]
    simp
  · rw [listing, List.pairwise_map]
    exact pairwise_precedes ho (nodup_selected h)

end Listings

/-! ## Statements that are carried out -/

section Statements

variable {db : Database} {engine : Engine} {q : Query} {o : Order} {limit offset : Nat}

theorem refuse_of_unfit {asked : Question} {fault : Fault} (h : asked.fit = .error fault) :
    db.refuse engine asked = .error fault := by
  rw [refuse, h]
  rfl

/-- What statements can hold decides alone where nothing is come upon. -/
theorem refuse_untroubled {now : Int} (asked : Question) :
    db.refuse (.untroubled now) asked = asked.fit := by
  cases h : asked.fit <;> rw [refuse, h] <;> rfl

/-- A count is the number of rows of the listing, in whatever order. -/
theorem count_eq (h : db.refuse engine (.count q) = .ok ()) :
    db.count engine q = .ok (db.listing engine.now q o).length := by
  rw [count, h, length_listing]
  rfl

theorem count_of_refuse {fault : Fault} (h : db.refuse engine (.count q) = .error fault) :
    db.count engine q = .error fault := by
  rw [count, h]
  rfl

/-- A listing that is carried out is a stretch of all that the query lists. -/
theorem list_eq (h : db.refuse engine (.list q o limit offset) = .ok ()) :
    db.list engine q o limit offset =
      .ok (((db.listing engine.now q o).drop offset).take limit) := by
  rw [list, h, page, listing, ← List.map_drop, ← List.map_take]
  rfl

theorem list_of_refuse {fault : Fault}
    (h : db.refuse engine (.list q o limit offset) = .error fault) :
    db.list engine q o limit offset = .error fault := by
  rw [list, h]
  rfl

end Statements

end Database

end RowSieve.Store
