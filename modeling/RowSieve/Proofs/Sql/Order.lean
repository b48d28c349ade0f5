/-
The order of stored values as an order in the usual sense. Texts stand in the lexicographic order
of their characters, numbers in the order of their exact values.
-/
import Mathlib.Data.List.Lex
import Mathlib.Data.Char
import Mathlib.Order.Compare
import RowSieve.Sql.Cell

namespace RowSieve

open Ordering (Compares)

/-! ## Texts -/

theorem Text.lt_iff : ∀ {s t : List Char}, Text.lt s t = true ↔ s < t
  | [], [] => by simp [lt]
  | [], b :: t => by simp [lt]
  | a :: s, [] => by simp [lt]
  | a :: s, b :: t => by
    rw [lt, Bool.or_eq_true, Bool.and_eq_true, beq_iff_eq, decide_eq_true_eq, Text.lt_iff,
      List.cons_lt_cons_iff]
    rfl

namespace Sql.Cell

theorem compares_texts (s t : String) : (compareTexts s t).Compares s.toList t.toList := by
  unfold compareTexts
  split
  case isTrue h => exact congrArg String.toList h
  case isFalse h =>
    split
    case isTrue hlt => exact Text.lt_iff.1 hlt
    case isFalse hlt =>
      have hne : s.toList ≠ t.toList := fun he => h (String.toList_injective he)
      exact lt_of_le_of_ne (not_lt.1 (mt Text.lt_iff.2 hlt)) hne.symm

end Sql.Cell

end RowSieve
