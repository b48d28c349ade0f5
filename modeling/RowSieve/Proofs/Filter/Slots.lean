/-
Lists that are found by their place. Beside the requests a reader can keep the places of those that
collect lists, and look each list up by its key and its operator. Requests are only ever added
behind the others, so a place that has been kept stays right; and the reader goes the same way as
the one that walks along its drafts to the open one.
-/
import RowSieve.Filter.Param

namespace RowSieve.Filter

/-- The list that an item belongs to. -/
def Param.slot (p : Param) : String × String := (p.key, p.operator)

namespace Request

/-- The list that a request collects. -/
def slot (r : Request) : String × String := (r.key, r.operator)

/-- The request with one more item, if its value is a list. -/
def addText (r : Request) (text : String) : Request :=
  match r.value? with
  | some (.list items) => { r with value? := some (.list (items ++ [.text text])) }
  | _ => r

theorem slot_addText (r : Request) (text : String) : (r.addText text).slot = r.slot := by
  unfold addText
  split <;> rfl

end Request

/-- Requests under construction, and the places of those that collect lists. -/
structure Slotted where
  requests : List Request
  slots : List ((String × String) × Nat)

namespace Slotted

def empty : Slotted := ⟨[], []⟩

/-- Adds an item to the request at the place of its list, or takes a place for it at the end. -/
def addItem (s : Slotted) (p : Param) (text : String) : Slotted :=
  match s.slots.find? (·.1 = p.slot) with
  | some (_, i) => { s with requests := s.requests.modify i (·.addText text) }
  | none =>
    ⟨s.requests ++ [⟨p.key, p.operator, some (.list [.text text])⟩],
      s.slots ++ [(p.slot, s.requests.length)]⟩

def addParam (s : Slotted) (p : Param) (text : String) : Slotted :=
  if p.list then s.addItem p text
  else { s with requests := s.requests ++ [⟨p.key, p.operator, p.value? text⟩] }

/-- The requests of query parameters, or the first malformed name. -/
def read (s : Slotted) : List (String × String) → Except String (List Request)
  | [] => .ok s.requests
  | (name, text) :: rest =>
    match ParamName.read name with
    | .unrelated => s.read rest
    | .malformed => .error name
    | .filter p => (s.addParam p text).read rest

/-! ## Places of drafts -/

/-- The places of the open drafts, the first of the drafts standing at `n`. -/
def places (n : Nat) : List Draft → List ((String × String) × Nat)
  | [] => []
  | d :: rest =>
    if d.isOpen then (d.request.slot, n) :: places (n + 1) rest else places (n + 1) rest

/-- The requests of drafts, and the places of the open ones. -/
def ofDrafts (drafts : List Draft) : Slotted := ⟨drafts.map (·.request), places 0 drafts⟩

variable {p : Param} {text : String} {d : Draft} {drafts : List Draft}

theorem places_append (n : Nat) (drafts : List Draft) (d : Draft) :
    places n (drafts ++ [d]) = places n drafts ++
      if d.isOpen then [(d.request.slot, n + drafts.length)] else [] := by
  induction drafts generalizing n with
  | nil => rfl
  | cons d' drafts ih =>
    rw [List.cons_append, places, places, ih, List.length_cons, Nat.succ_add_eq_add_succ]
    split <;> rfl

theorem find?_places_cons_self (ho : d.isOpen = true) (hs : d.request.slot = p.slot) (n : Nat) :
    (places n (d :: drafts)).find? (·.1 = p.slot) = some (p.slot, n) := by
  rw [places, if_pos ho, hs]
  exact List.find?_cons_of_pos (decide_eq_true rfl)

theorem find?_places_cons_of_ne (h : ¬(d.isOpen = true ∧ d.request.slot = p.slot)) (n : Nat) :
    (places n (d :: drafts)).find? (·.1 = p.slot) =
      (places (n + 1) drafts).find? (·.1 = p.slot) := by
  rw [places]
  split
  · rename_i ho
    rw [List.find?_cons_of_neg (by simpa using fun hs => h ⟨ho, hs⟩)]
  · rfl

theorem addItem_cons_self (ho : d.isOpen = true) (hs : d.request.slot = p.slot) :
    Filter.addItem p text (d :: drafts) =
      { d with request := d.request.addText text } :: drafts := by
  obtain ⟨hk, hop⟩ := Prod.mk.inj hs
  have hopen : (d.isOpen && d.request.key == p.key && d.request.operator == p.operator) = true := by
    rw [ho, hk, hop, beq_self_eq_true, beq_self_eq_true]
    rfl
  rw [Filter.addItem, if_pos hopen, Request.addText]
  cases d.request.value? with
  | none => rfl
  | some v => cases v <;> rfl

theorem addItem_cons_of_ne (h : ¬(d.isOpen = true ∧ d.request.slot = p.slot)) :
    Filter.addItem p text (d :: drafts) = d :: Filter.addItem p text drafts := by
  rw [Filter.addItem, if_neg]
  simp only [Bool.and_eq_true, beq_iff_eq, and_assoc]
  rintro ⟨ho, hk, hop⟩
  exact h ⟨ho, Prod.ext hk hop⟩

/-- An item goes to the draft at the place that is found for its list, and behind all drafts if none
is found. -/
theorem addItem_cases (p : Param) (text : String) (n : Nat) (drafts : List Draft) :
    (∃ i, (places n drafts).find? (·.1 = p.slot) = some (p.slot, n + i) ∧
      (Filter.addItem p text drafts).map (·.request) =
        (drafts.map (·.request)).modify i (·.addText text) ∧
      places n (Filter.addItem p text drafts) = places n drafts) ∨
    (places n drafts).find? (·.1 = p.slot) = none ∧
      Filter.addItem p text drafts =
        drafts ++ [⟨⟨p.key, p.operator, some (.list [.text text])⟩, true⟩] := by
  induction drafts generalizing n with
  | nil => exact .inr ⟨rfl, rfl⟩
  | cons d drafts ih =>
    by_cases h : d.isOpen = true ∧ d.request.slot = p.slot
    · refine .inl ⟨0, find?_places_cons_self h.1 h.2 n, ?_, ?_⟩
      · rw [addItem_cons_self h.1 h.2]
        rfl
      · rw [addItem_cons_self h.1 h.2, places, places, Request.slot_addText]
    · rw [addItem_cons_of_ne h, find?_places_cons_of_ne h]
      rcases ih (n + 1) with ⟨i, hfind, hmap, hplaces⟩ | ⟨hfind, hadd⟩
      · refine .inl ⟨i + 1, ?_, ?_, ?_⟩
        · rw [hfind, Nat.succ_add_eq_add_succ]
        · rw [List.map_cons, hmap, List.map_cons, List.modify_succ_cons]
        · rw [places, places, hplaces]
      · exact .inr ⟨hfind, by rw [hadd, List.cons_append]⟩

/-! ## The two readers -/

theorem addItem_ofDrafts (p : Param) (text : String) (drafts : List Draft) :
    (ofDrafts drafts).addItem p text = ofDrafts (Filter.addItem p text drafts) := by
  unfold addItem ofDrafts
  rcases addItem_cases p text 0 drafts with ⟨i, hfind, hmap, hplaces⟩ | ⟨hfind, hadd⟩
  · simp only [hfind, hmap, hplaces, Nat.zero_add]
  · simp only [hfind, hadd, places_append, List.map_append, List.length_map, Nat.zero_add]
    rfl

theorem addParam_ofDrafts (p : Param) (text : String) (drafts : List Draft) :
    (ofDrafts drafts).addParam p text = ofDrafts (Filter.addParam drafts p text) := by
  unfold addParam Filter.addParam
  split
  · exact addItem_ofDrafts p text drafts
  · simp [ofDrafts, places_append]

/-- Looking lists up by their places, a reader goes the same way as with drafts. -/
theorem read_ofDrafts (drafts : List Draft) (pairs : List (String × String)) :
    (ofDrafts drafts).read pairs = readParams drafts pairs := by
  induction pairs generalizing drafts with
  | nil => rfl
  | cons x rest ih =>
    rw [read, readParams]
    cases ParamName.read x.1 with
    | unrelated => exact ih drafts
    | malformed => rfl
    | filter p =>
      simp only [addParam_ofDrafts]
      exact ih (Filter.addParam drafts p x.2)

theorem read_empty (pairs : List (String × String)) : empty.read pairs = readParams [] pairs :=
  read_ofDrafts [] pairs

end Slotted

end RowSieve.Filter
