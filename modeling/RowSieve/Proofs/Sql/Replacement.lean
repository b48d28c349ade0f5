/-
Stored values that are replaced by another one in a column of a table. Rows that hold another value
are reached as before, as long as no join on the way is made by the column; so what neither of the
two values passes is passed by some row that is reached exactly when it was.
-/
import Mathlib.Data.List.Forall2
import RowSieve.Proofs.Filter.Meaning

namespace RowSieve.Sql

/-- A row of `table` is as it was, or, if the table is the target, holds `b` in the column where it
held `a`. -/
def Replaces (a b : Cell) (target column table : String) (row row' : Row) : Prop :=
  ∀ c, row' c = row c ∨ (table = target ∧ c = column) ∧ row c = a ∧ row' c = b

/-- The tables hold the same rows in the same order, but that some of the target's hold `b` in the
column where they held `a`. -/
def ReplacesAll (a b : Cell) (target column : String) (tables tables' : Tables) : Prop :=
  ∀ table, List.Forall₂ (Replaces a b target column table) (tables table) (tables' table)

/-- No join on the way from the table through the relations is made by the column of the target,
but that the last one may lead to it. -/
def Joins.Spares (js : Joins) (target column : String) : (table : String) → List String → Prop
  | _, [] => True
  | table, name :: rest => ∀ join, js.find? table name = some join →
      ¬ (table = target ∧ join.localKey = column) ∧
      (rest ≠ [] → ¬ (join.target = target ∧ join.foreignKey = column)) ∧
      js.Spares target column join.target rest

theorem exists_related {α : Type} {R : α → α → Prop} : ∀ {xs ys : List α}, List.Forall₂ R xs ys →
    ∀ x ∈ xs, ∃ y ∈ ys, R x y
  | _, _, .nil, _, hx => absurd hx List.not_mem_nil
  | _, _, .cons hxy h, z, hz => by
    rcases List.mem_cons.1 hz with rfl | hz
    · exact ⟨_, List.mem_cons_self, hxy⟩
    · obtain ⟨y, hy, hzy⟩ := exists_related h z hz
      exact ⟨y, List.mem_cons_of_mem _ hy, hzy⟩

section Replaces

variable {a b : Cell} {js : Joins} {target column table : String} {tables tables' : Tables}
  {row row' : Row}

theorem Replaces.symm (h : Replaces a b target column table row row') :
    Replaces b a target column table row' row := by
  intro c
  rcases h c with heq | ⟨hc, ha, hb⟩
  · exact .inl heq.symm
  · exact .inr ⟨hc, hb, ha⟩

theorem ReplacesAll.symm (h : ReplacesAll a b target column tables tables') :
    ReplacesAll b a target column tables' tables := by
  intro table
  exact ((h table).imp fun _ _ => Replaces.symm).flip

/-- Another value is kept. -/
theorem Replaces.eq_of_ne (h : Replaces a b target column table row row')
    (hne : row column ≠ a) (c : String) : row' c = row c := by
  rcases h c with heq | ⟨⟨-, rfl⟩, ha, -⟩
  · exact heq
  · exact absurd ha hne

/-- A value of another table or column is kept. -/
theorem Replaces.eq_of_spared (h : Replaces a b target column table row row') {c : String}
    (hc : ¬ (table = target ∧ c = column)) : row' c = row c := by
  rcases h c with heq | ⟨hcolumn, -⟩
  · exact heq
  · exact absurd hcolumn hc

/-- A row that is reached and holds another value is still reached, with that value. -/
theorem Replaces.exists_reached (hall : ReplacesAll a b target column tables tables') :
    ∀ {relations : List String} {table : String} {row row' : Row},
      js.Spares target column table relations → Replaces a b target column table row row' →
      ∀ x ∈ js.reached tables table row relations, x column ≠ a →
        ∃ x' ∈ js.reached tables' table row' relations, x' column = x column
  | [], _, row, row', _, hrow, x, hx, hne => by
    obtain rfl := List.mem_singleton.1 hx
    exact ⟨row', List.mem_singleton_self row', hrow.eq_of_ne hne column⟩
  | name :: rest, table, row, row', hspares, hrow, x, hx, hne => by
    rw [Joins.reached] at hx ⊢
    cases hj : js.find? table name with
    | none =>
      rw [hj] at hx
      exact absurd hx List.not_mem_nil
    | some join =>
      rw [hj] at hx
      obtain ⟨hlocal, hforeign, hrest⟩ := hspares join hj
      obtain ⟨r, hr, hx⟩ := List.mem_flatMap.1 hx
      obtain ⟨hr, hequal⟩ := Join.mem_belonging.1 hr
      obtain ⟨r', hr', hrr'⟩ := exists_related (hall join.target) r hr
      -- The keys are kept: the column makes no join, or the row that it leads to is the last.
      have hkey : r' join.foreignKey = r join.foreignKey := by
        by_cases hnil : rest = []
        · rw [hnil] at hx
          obtain rfl := List.mem_singleton.1 hx
          exact hrr'.eq_of_ne hne _
        · exact hrr'.eq_of_spared (hforeign hnil)
      have hbelongs : r' ∈ join.belonging tables' row' := by
        refine Join.mem_belonging.2 ⟨hr', ?_⟩
        rw [hkey, hrow.eq_of_spared hlocal]
        exact hequal
      obtain ⟨x', hx', heq⟩ := exists_reached hall hrest hrr' x hx hne
      exact ⟨x', List.mem_flatMap.2 ⟨r', hbelongs, hx'⟩, heq⟩

/-- What neither of the values passes, some row that is reached passes after the replacement as
before it. -/
theorem Replaces.exists_passes_iff (hall : ReplacesAll a b target column tables tables')
    {relations : List String} (hspares : js.Spares target column table relations)
    (hrow : Replaces a b target column table row row') {P : Cell → Prop} (ha : ¬ P a)
    (hb : ¬ P b) : (∃ x' ∈ js.reached tables' table row' relations, P (x' column)) ↔
      ∃ x ∈ js.reached tables table row relations, P (x column) := by
  constructor
  · rintro ⟨x', hx', hp⟩
    have hne : x' column ≠ b := fun h => hb (h ▸ hp)
    obtain ⟨x, hx, heq⟩ := exists_reached hall.symm hspares hrow.symm x' hx' hne
    exact ⟨x, hx, heq ▸ hp⟩
  · rintro ⟨x, hx, hp⟩
    have hne : x column ≠ a := fun h => ha (h ▸ hp)
    obtain ⟨x', hx', heq⟩ := exists_reached hall hspares hrow x hx hne
    exact ⟨x', hx', heq ▸ hp⟩

end Replaces

end RowSieve.Sql
