/-
Runs of calls on the store. Every store that calls lead to from the empty one is reached by
insertions alone, since a call that fails leaves the tables as they are and demo data is added row
by row; so it keeps the rules of the schema, whichever of the calls fail.
-/
import RowSieve.Proofs.Store.Inserts
import RowSieve.Store.Call

namespace RowSieve.Store

/-- The row that a call adds. -/
def Entry.row : Entry → NewRow
  | .customer c => .customer c
  | .product p => .product p
  | .invoice n => .invoice n.invoice
  | .lineItem l => .lineItem l

/-- What is answered when the row is added: of an item its number. -/
def Entry.answer (next : Int) : Entry → Answer
  | .lineItem _ => .numbered next
  | _ => .added

section Adding

variable {db : Database}

/-- A call adds what an insertion of its row adds. -/
theorem add_eq_map_insert (e : Entry) :
    db.add e = (db.insert e.row).map (e.answer db.nextItemId, ·) := by
  cases e with
  | customer c => rfl
  | product p => rfl
  | invoice n => rfl
  | lineItem l =>
    simp only [Database.add, Entry.row, Entry.answer, Database.insert]
    cases hl : db.insertLineItem l with
    | error err => rfl
    | ok added =>
      obtain ⟨n, db'⟩ := added
      obtain ⟨-, -, -, rfl, -⟩ := Database.insertLineItem_eq_ok.1 hl
      rfl

/-- A call adds its row when the store keeps the rules with it, and otherwise leaves the store as
it is. -/
theorem call_add_cases (h : db.Sound) (e : Entry) :
    (db.grown e.row).Sound ∧ (Handle.opened db).call (.add e) =
        (.ok (e.answer db.nextItemId), .opened (db.grown e.row)) ∨
      ¬(db.grown e.row).Sound ∧ ∃ err, (Handle.opened db).call (.add e) =
        (.error err, .opened db) := by
  cases hins : db.insert e.row with
  | ok db' =>
    obtain ⟨hs, rfl⟩ := (Database.insert_eq_ok h).1 hins
    refine .inl ⟨hs, ?_⟩
    simp [Handle.call, Handle.runWhole, Handle.run, add_eq_map_insert, hins, Except.map]
  | error err =>
    refine .inr ⟨fun hs => ?_, err, ?_⟩
    · rw [(Database.insert_eq_ok h).2 ⟨hs, rfl⟩] at hins
      cases hins
    · simp [Handle.call, Handle.runWhole, Handle.run, add_eq_map_insert, hins, Except.map]

end Adding

/-! ## Demo data -/

section Seed

variable {db : Database}

theorem reachable_addEach {α : Type} {add : Database → α → Except Error Database}
    (hadd : ∀ {db db' a}, add db a = .ok db' → ∃ row, db.insert row = .ok db') (rows : List α)
    (h : db.Reachable) : (addEach add rows db).2.Reachable := by
  induction rows generalizing db with
  | nil => exact h
  | cons a rows ih =>
    unfold addEach
    split
    · rename_i db' ha
      obtain ⟨row, hrow⟩ := hadd ha
      exact ih (h.insert row hrow)
    · exact h

theorem reachable_next {outcome : Except Error Unit × Database}
    {step : Database → Except Error Unit × Database} (h : outcome.2.Reachable)
    (hstep : ∀ {db : Database}, db.Reachable → (step db).2.Reachable) :
    (next outcome step).2.Reachable := by
  unfold next
  split
  · exact hstep h
  · exact h

/-- Demo data is added by insertions, also when one of them fails half way. -/
theorem reachable_seed (h : db.Reachable) : db.seed.2.Reachable := by
  unfold Database.seed
  split
  · exact h
  · refine reachable_next (reachable_next (reachable_next ?_ ?_) ?_) ?_
    · exact reachable_addEach (fun ha => ⟨.customer _, ha⟩) _ h
    · exact reachable_addEach (fun ha => ⟨.product _, ha⟩) _
    · exact reachable_addEach (fun ha => ⟨.invoice _, ha⟩) _
    · exact reachable_addEach (fun ha => ⟨.lineItem _, ha⟩) _

end Seed

/-! ## Runs -/

namespace Handle

theorem reachable_call {db : Database} (h : db.Reachable) (c : Call) :
    ∃ db', ((opened db).call c).2 = .opened db' ∧ db'.Reachable := by
  cases c with
  | seed => exact ⟨_, rfl, reachable_seed h⟩
  | add e =>
    rcases call_add_cases h.sound e with ⟨hs, hcall⟩ | ⟨-, err, hcall⟩
    · rw [hcall]
      exact ⟨_, rfl, h.insert e.row ((Database.insert_eq_ok h.sound).2 ⟨hs, rfl⟩)⟩
    · rw [hcall]
      exact ⟨db, rfl, h⟩

theorem reachable_after {db : Database} (h : db.Reachable) (calls : List Call) :
    ∃ db', (opened db).after calls = .opened db' ∧ db'.Reachable := by
  induction calls generalizing db with
  | nil => exact ⟨db, rfl, h⟩
  | cons c calls ih =>
    obtain ⟨db', hcall, h'⟩ := reachable_call h c
    rw [after, List.foldl_cons, hcall]
    exact ih h'

/-- Calls keep the rules of the schema, and a call that fails changes nothing. Whatever calls are
made on the empty store, it then keeps the rules; and a further row is added, alone, behind those
of its table and with the values given, exactly when the store keeps the rules with it. An item
gets a number that no other item has, and the call answers with it. -/
theorem calls_keep_rules (calls : List Call) :
    ∃ db : Database, (opened .empty).after calls = .opened db ∧ db.Sound ∧
      (∀ l ∈ db.lineItems, l.id ≠ db.nextItemId) ∧
      (∀ e : Entry,
        (db.grown e.row).Sound ∧ (opened db).call (.add e) =
          (.ok (e.answer db.nextItemId), .opened (db.grown e.row)) ∨
        ¬(db.grown e.row).Sound ∧ ∃ err, (opened db).call (.add e) = (.error err, .opened db)) ∧
      ∀ x : Binary64, (storedReal x).compareTo x = .eq := by
  obtain ⟨db, hafter, h⟩ := reachable_after .empty calls
  refine ⟨db, hafter, h.sound, fun l hl => ?_, call_add_cases h.sound, compareTo_storedReal⟩
  exact Int.ne_of_lt (Database.lt_nextItemId l hl)

end Handle

end RowSieve.Store
