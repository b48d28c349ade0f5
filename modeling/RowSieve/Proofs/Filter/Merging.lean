/-
Bracket parameters and the requests that come of them. A parameter that is no item of a list begins
a request of its own, and the first item of a list begins the request of all its items; so the
requests stand in the order of the parameters that begin them, and each list has the texts of its
items in their order, whatever stands between them. The invariant of reading is that the drafts are
begun by the parameters that have been read.
-/
import Mathlib.Data.List.Forall2
import Mathlib.Data.List.Sort
import RowSieve.Proofs.Filter.Brackets
import RowSieve.Proofs.Filter.Slots

namespace RowSieve.Filter

/-! ## Parameters that begin requests -/

/-- The parameter at a place has a form and begins a request: it is no item of a list, or no
parameter before it is an item of the same list. -/
structure Begins (pairs : List (String × String)) (i : Nat) (f : ParamForm) (text : String) :
    Prop where
  wellFormed : f.WellFormed
  here : pairs[i]? = some (f.name, text)
  first : f.param.list = true → f.name ∉ (pairs.take i).map (·.1)

/-- What is made of the parameter at a place, which begins a request. -/
def MadeAt {α : Type} (pairs : List (String × String)) (make : ParamForm → String → α) (x : α)
    (i : Nat) : Prop :=
  ∃ f text, Begins pairs i f text ∧ x = make f text

/-- What is made of the parameters that begin requests, in their order, and their places. -/
structure Begun {α : Type} (pairs : List (String × String)) (make : ParamForm → String → α)
    (xs : List α) (places : List Nat) : Prop where
  ordered : places.Pairwise (· < ·)
  mem_places : ∀ {i}, i ∈ places ↔ ∃ f text, Begins pairs i f text
  made : List.Forall₂ (MadeAt pairs make) xs places

namespace Begins

variable {pairs done : List (String × String)} {i j : Nat} {f g : ParamForm} {text t : String}
  {x : String × String}

theorem lt_length (h : Begins pairs i f text) : i < pairs.length :=
  (List.getElem?_eq_some_iff.1 h.here).1

/-- A parameter has one form and one text. -/
theorem unique (h : Begins pairs i f text) (h' : Begins pairs i g t) : f = g ∧ text = t := by
  have hx := Option.some.inj (h.here.symm.trans h'.here)
  exact ⟨h.wellFormed.eq_of_name_eq h'.wellFormed (congrArg Prod.fst hx), congrArg Prod.snd hx⟩

theorem mem_take (h : Begins pairs i f text) (hij : i < j) :
    f.name ∈ (pairs.take j).map (·.1) := by
  refine List.mem_map.2 ⟨(f.name, text), List.mem_of_getElem? (i := i) ?_, rfl⟩
  rw [List.getElem?_take_of_lt hij, h.here]

theorem mem (h : Begins pairs i f text) : f.name ∈ pairs.map (·.1) := by
  have hm := h.mem_take h.lt_length
  rwa [List.take_length] at hm

/-- A list has one parameter that begins it. -/
theorem place_unique (hl : f.param.list = true) (h : Begins pairs i f text)
    (h' : Begins pairs j f t) : i = j := by
  rcases Nat.lt_trichotomy i j with hij | hij | hij
  · exact absurd (h.mem_take hij) (h'.first hl)
  · exact hij
  · exact absurd (h'.mem_take hij) (h.first hl)

/-- One more parameter begins a request or not, and those before it begin what they have begun. -/
theorem append_iff : Begins (done ++ [x]) i f text ↔ Begins done i f text ∨
    i = done.length ∧ f.WellFormed ∧ x = (f.name, text) ∧
      (f.param.list = true → f.name ∉ done.map (·.1)) := by
  constructor
  · intro h
    rcases Nat.lt_or_ge i done.length with hi | hi
    · refine .inl ⟨h.wellFormed, ?_, fun hl => ?_⟩
      · rw [← List.getElem?_append_left hi, h.here]
      · rw [← List.take_append_of_le_length (Nat.le_of_lt hi)]
        exact h.first hl
    · obtain rfl : i = done.length := by
        have := h.lt_length
        rw [List.length_append, List.length_singleton] at this
        omega
      exact .inr ⟨rfl, h.wellFormed, by simpa using h.here, by simpa using h.first⟩
  · rintro (h | ⟨rfl, hf, rfl, hfirst⟩)
    · have hi := h.lt_length
      refine ⟨h.wellFormed, ?_, fun hl => ?_⟩
      · rw [List.getElem?_append_left hi, h.here]
      · rw [List.take_append_of_le_length (Nat.le_of_lt hi)]
        exact h.first hl
    · exact ⟨hf, by simp, by simpa using hfirst⟩

/-- Every list of which there is an item has been begun. -/
theorem exists_of_mem (hf : f.WellFormed) (h : f.name ∈ pairs.map (·.1)) :
    ∃ i t, Begins pairs i f t := by
  obtain ⟨front, back, hs, hfirst⟩ := List.eq_append_cons_of_mem h
  have hi : (pairs.map (·.1))[front.length]? = some f.name := by rw [hs]; simp
  rw [List.getElem?_map] at hi
  obtain ⟨⟨name, t⟩, hx, rfl⟩ := Option.map_eq_some_iff.1 hi
  refine ⟨front.length, t, hf, hx, fun _ => ?_⟩
  rwa [List.map_take, hs, List.take_left]

/-- What begins requests is the same with a parameter that has no form or is a further item of a
list. -/
theorem exists_append_iff (hx : ∀ f : ParamForm, f.WellFormed → f.name = x.1 →
      f.param.list = true ∧ f.name ∈ done.map (·.1)) :
    (∃ f text, Begins (done ++ [x]) i f text) ↔ ∃ f text, Begins done i f text := by
  simp only [append_iff]
  refine exists_congr fun f => exists_congr fun text => or_iff_left ?_
  rintro ⟨-, hf, rfl, hfirst⟩
  obtain ⟨hl, hmem⟩ := hx f hf rfl
  exact hfirst hl hmem

end Begins

/-! ## Requests -/

/-- The texts of all parameters of a name, in their order. -/
def textsOf (name : String) (pairs : List (String × String)) : List String :=
  (pairs.filter (·.1 = name)).map (·.2)

theorem textsOf_append (name : String) (done : List (String × String)) (x : String × String) :
    textsOf name (done ++ [x]) = textsOf name done ++ if x.1 = name then [x.2] else [] := by
  rw [textsOf, textsOf, List.filter_append, List.map_append, List.filter_singleton]
  split <;> simp_all

theorem textsOf_of_notMem {name : String} {done : List (String × String)}
    (h : name ∉ done.map (·.1)) : textsOf name done = [] := by
  rw [textsOf, List.map_eq_nil_iff, List.filter_eq_nil_iff]
  intro y hy hn
  exact h (List.mem_map.2 ⟨y, hy, of_decide_eq_true hn⟩)

namespace ParamForm

/-- The request that a parameter begins; that of an item has the texts of all items. -/
def request (pairs : List (String × String)) (f : ParamForm) (text : String) : Request :=
  ⟨f.param.key, f.param.operator,
    if f.param.list then some (.list ((textsOf f.name pairs).map .text)) else f.param.value? text⟩

/-- The request under construction; that of an item is open. -/
def draft (pairs : List (String × String)) (f : ParamForm) (text : String) : Draft :=
  ⟨f.request pairs text, f.param.list⟩

variable {f g : ParamForm} {done : List (String × String)} {text : String} {x : String × String}

/-- A parameter of another name changes no draft. -/
theorem draft_append (h : f.param.list = true → x.1 ≠ f.name) :
    f.draft (done ++ [x]) text = f.draft done text := by
  rw [draft, draft, request, request]
  split
  · rename_i hl
    rw [textsOf_append, if_neg (h hl), List.append_nil]
  · rfl

/-- An open draft of the key and the operator of an item has been begun by an item of its list. -/
theorem eq_of_isOpen (hl : f.param.list = true) (ho : (g.draft done text).isOpen = true)
    (hkey : (g.draft done text).request.key = f.param.key)
    (hop : (g.draft done text).request.operator = f.param.operator) : g = f := by
  cases f with
  | item k op => cases g <;> simp_all [draft, request, param]
  | _ => cases hl

end ParamForm

/-! ## Drafts -/

/-- The drafts are begun by the parameters that have been read. -/
abbrev Drafted (done : List (String × String)) : List Draft → List Nat → Prop :=
  Begun done (ParamForm.draft done)

namespace Drafted

variable {done : List (String × String)} {drafts : List Draft} {places : List Nat} {f : ParamForm}
  {text : String} {x : String × String}

theorem lt_length (h : Drafted done drafts places) : ∀ i ∈ places, i < done.length := by
  intro i hi
  obtain ⟨f, t, hb⟩ := h.mem_places.1 hi
  exact hb.lt_length

theorem unrelated (h : Drafted done drafts places) (hx : ¬ParamName.IsForm x.1) :
    Drafted (done ++ [x]) drafts places := by
  refine ⟨h.ordered, ?_, h.made.imp ?_⟩
  · intro i
    rw [h.mem_places, Begins.exists_append_iff fun f hf hn => absurd ⟨f, hf, hn⟩ hx]
  · rintro d i ⟨f, t, hb, rfl⟩
    refine ⟨f, t, Begins.append_iff.2 (.inl hb), ?_⟩
    rw [ParamForm.draft_append fun _ hn => hx ⟨f, hb.wellFormed, hn.symm⟩]

/-- A parameter that begins a request adds its draft. -/
theorem snoc (h : Drafted done drafts places) (hf : f.WellFormed)
    (hfirst : f.param.list = true → f.name ∉ done.map (·.1)) :
    Drafted (done ++ [(f.name, text)]) (drafts ++ [f.draft (done ++ [(f.name, text)]) text])
      (places ++ [done.length]) := by
  have hnew : Begins (done ++ [(f.name, text)]) done.length f text :=
    Begins.append_iff.2 (.inr ⟨rfl, hf, rfl, hfirst⟩)
  refine ⟨?_, fun {i} => ?_, List.rel_append (h.made.imp ?_) (.cons ⟨f, text, hnew, rfl⟩ .nil)⟩
  · rw [List.pairwise_append]
    refine ⟨h.ordered, List.pairwise_singleton _ _, fun i hi j hj => ?_⟩
    rw [List.mem_singleton.1 hj]
    exact h.lt_length i hi
  · rw [List.mem_append, List.mem_singleton, h.mem_places]
    constructor
    · rintro (⟨g, t, hb⟩ | rfl)
      · exact ⟨g, t, Begins.append_iff.2 (.inl hb)⟩
      · exact ⟨f, text, hnew⟩
    · rintro ⟨g, t, hb⟩
      exact (Begins.append_iff.1 hb).imp (fun hb => ⟨g, t, hb⟩) fun hb => hb.1
  · rintro d i ⟨g, t, hb, rfl⟩
    refine ⟨g, t, Begins.append_iff.2 (.inl hb), ?_⟩
    refine (ParamForm.draft_append fun hl hn => ?_).symm
    -- a list that has been begun is not begun again
    obtain rfl := hf.eq_of_name_eq hb.wellFormed hn
    exact hfirst hl hb.mem

section Items

variable {i j : Nat} {t : String} {d : Draft} {ds : List Draft} {js : List Nat}
  (hl : f.param.list = true) (hb : Begins done i f t)

include hl hb

/-- An item of a list changes the draft of this list only. -/
theorem madeAt_of_ne (hj : j ≠ i) (h : MadeAt done (ParamForm.draft done) d j) :
    MadeAt (done ++ [(f.name, text)]) (ParamForm.draft (done ++ [(f.name, text)])) d j := by
  obtain ⟨g, u, hg, rfl⟩ := h
  refine ⟨g, u, Begins.append_iff.2 (.inl hg), (ParamForm.draft_append fun _ hn => ?_).symm⟩
  obtain rfl := hb.wellFormed.eq_of_name_eq hg.wellFormed hn
  exact hj (hg.place_unique hl hb)

theorem made_of_notMem (h : List.Forall₂ (MadeAt done (ParamForm.draft done)) ds js) (hi : i ∉ js) :
    List.Forall₂ (MadeAt (done ++ [(f.name, text)]) (ParamForm.draft (done ++ [(f.name, text)])))
      ds js := by
  induction h with
  | nil => exact .nil
  | cons hd _ ih =>
    obtain ⟨hj, hjs⟩ := not_or.1 (mt List.mem_cons.2 hi)
    exact .cons (madeAt_of_ne hl hb (Ne.symm hj) hd) (ih hjs)

/-- An item is added to the draft that the first item of its list has begun. -/
theorem made_addItem (h : List.Forall₂ (MadeAt done (ParamForm.draft done)) ds js)
    (hnodup : js.Nodup) (hi : i ∈ js) :
    List.Forall₂ (MadeAt (done ++ [(f.name, text)]) (ParamForm.draft (done ++ [(f.name, text)])))
      (addItem f.param text ds) js := by
  induction h with
  | nil => cases hi
  | @cons d j ds js hd hds ih =>
    obtain ⟨hj, hnodup⟩ := List.nodup_cons.1 hnodup
    by_cases hij : j = i
    · subst hij
      obtain ⟨g, u, hg, rfl⟩ := hd
      obtain ⟨rfl, rfl⟩ := hb.unique hg
      have hadd : addItem f.param text (f.draft done t :: ds) =
          f.draft (done ++ [(f.name, text)]) t :: ds := by
        simp [addItem, ParamForm.draft, ParamForm.request, hl, textsOf_append]
      rw [hadd]
      exact .cons ⟨f, t, Begins.append_iff.2 (.inl hb), rfl⟩ (made_of_notMem hl hb hds hj)
    · have hpass : addItem f.param text (d :: ds) = d :: addItem f.param text ds := by
        obtain ⟨g, u, hg, rfl⟩ := hd
        refine if_neg fun hc => hij ?_
        simp only [Bool.and_eq_true, beq_iff_eq] at hc
        obtain ⟨⟨hopen, hkey⟩, hop⟩ := hc
        obtain rfl := ParamForm.eq_of_isOpen hl hopen hkey hop
        exact hg.place_unique hl hb
      rw [hpass]
      exact .cons (madeAt_of_ne hl hb hij hd)
        (ih hnodup ((List.mem_cons.1 hi).resolve_left (Ne.symm hij)))

end Items

/-- An item of a list that has been begun is added to it. -/
theorem addItem (h : Drafted done drafts places) (hf : f.WellFormed) (hl : f.param.list = true)
    (hmem : f.name ∈ done.map (·.1)) :
    Drafted (done ++ [(f.name, text)]) (addItem f.param text drafts) places := by
  obtain ⟨i, t, hb⟩ := Begins.exists_of_mem hf hmem
  have hnodup : places.Nodup := h.ordered.imp Nat.ne_of_lt
  refine ⟨h.ordered, ?_, made_addItem hl hb h.made hnodup (h.mem_places.2 ⟨f, t, hb⟩)⟩
  intro j
  rw [h.mem_places, Begins.exists_append_iff]
  intro g hg hn
  obtain rfl := hg.eq_of_name_eq hf hn
  exact ⟨hl, hmem⟩

/-- The first item of a list opens a draft behind the others. -/
theorem addItem_eq (h : Drafted done drafts places) (hf : f.WellFormed) (hl : f.param.list = true)
    (hmem : f.name ∉ done.map (·.1)) : Filter.addItem f.param text drafts =
      drafts ++ [f.draft (done ++ [(f.name, text)]) text] := by
  have hnone : ∀ d ∈ drafts, d.isOpen = true →
      ¬(d.request.key = f.param.key ∧ d.request.operator = f.param.operator) := by
    refine ((List.forall₂_and_left _ places).1 (h.made.imp fun d i hd => ⟨?_, hd⟩)).1
    rintro hopen ⟨hkey, hop⟩
    obtain ⟨g, t, hb, rfl⟩ := hd
    obtain rfl := ParamForm.eq_of_isOpen hl hopen hkey hop
    exact hmem hb.mem
  have hpass : Filter.addItem f.param text (drafts ++ []) =
      drafts ++ Filter.addItem f.param text [] := addItem_append [] hnone
  rw [List.append_nil] at hpass
  rw [hpass]
  simp [Filter.addItem, ParamForm.draft, ParamForm.request, hl, textsOf_append,
    textsOf_of_notMem hmem]

/-- The drafts with what one more parameter adds are begun by the parameters with it. -/
theorem addParam (h : Drafted done drafts places) {p : Param}
    (hp : ParamName.read x.1 = .filter p) :
    ∃ places', Drafted (done ++ [x]) (addParam drafts p x.2) places' := by
  obtain ⟨name, text⟩ := x
  obtain ⟨f, hf, rfl, rfl⟩ := ParamName.exists_form_of_read hp
  unfold Filter.addParam
  by_cases hl : f.param.list = true
  · rw [if_pos hl]
    by_cases hmem : f.name ∈ done.map (·.1)
    · exact ⟨places, h.addItem hf hl hmem⟩
    · rw [h.addItem_eq hf hl hmem]
      exact ⟨_, h.snoc hf fun _ => hmem⟩
  · have hdraft : f.draft (done ++ [(f.name, text)]) text =
        ⟨⟨f.param.key, f.param.operator, f.param.value? text⟩, false⟩ := by
      simp [ParamForm.draft, ParamForm.request, hl]
    rw [if_neg hl, ← hdraft]
    exact ⟨_, h.snoc hf fun h => absurd h hl⟩

end Drafted

/-! ## Reading -/

section Reading

variable {done rest pairs : List (String × String)} {drafts : List Draft} {places : List Nat}
  {rs : List Request} {name : String}

/-- The requests that come of parameters. -/
def Merged (pairs : List (String × String)) (rs : List Request) : Prop :=
  ∃ places, Begun pairs (ParamForm.request pairs) rs places

theorem Begun.unique {α : Type} {make : ParamForm → String → α} {xs ys : List α}
    {places places' : List Nat} (h : Begun pairs make xs places)
    (h' : Begun pairs make ys places') : xs = ys := by
  obtain rfl : places = places' :=
    h.ordered.eq_of_mem_iff h'.ordered fun i => by rw [h.mem_places, h'.mem_places]
  refine List.left_unique_forall₂' ?_ h.made h'.made
  rintro x y i ⟨f, t, hx, rfl⟩ ⟨g, u, hy, rfl⟩
  obtain ⟨rfl, rfl⟩ := hx.unique hy
  rfl

theorem Drafted.merged (h : Drafted pairs drafts places) :
    Merged pairs (drafts.map (·.request)) := by
  refine ⟨places, h.ordered, h.mem_places, List.forall₂_map_left_iff.2 (h.made.imp ?_)⟩
  rintro d i ⟨f, t, hb, rfl⟩
  exact ⟨f, t, hb, rfl⟩

/-- What is read of the parameters behind those that have begun the drafts. -/
theorem Drafted.readParams : ∀ {rest done : List (String × String)} {drafts : List Draft}
    {places : List Nat}, Drafted done drafts places → (∀ x ∈ rest, ParamName.Readable x.1) →
    ∃ rs, readParams drafts rest = .ok rs ∧ Merged (done ++ rest) rs
  | [], done, drafts, places, h, _ => ⟨_, rfl, by rw [List.append_nil]; exact h.merged⟩
  | x :: rest, done, drafts, places, h, hr => by
    obtain ⟨hx, hrest⟩ := List.forall_mem_cons.1 hr
    have hsplit : done ++ x :: rest = (done ++ [x]) ++ rest := by simp
    rw [hsplit, Filter.readParams]
    cases hread : ParamName.read x.1 with
    | malformed => exact absurd hx (ParamName.read_eq_malformed_iff_not_readable.1 hread)
    | unrelated =>
      have hnot : ¬ParamName.IsForm x.1 := fun hform =>
        ParamName.read_eq_unrelated_iff.1 hread hform.opens
      exact (h.unrelated hnot).readParams hrest
    | filter p =>
      obtain ⟨places', h'⟩ := h.addParam hread
      exact h'.readParams hrest

theorem drafted_nil : Drafted [] [] [] := by
  refine ⟨.nil, fun {i} => ⟨fun h => absurd h List.not_mem_nil, ?_⟩, .nil⟩
  rintro ⟨f, t, h⟩
  cases h.here

/-- Reading fails at the first malformed name. -/
theorem readParams_eq_error : readParams drafts rest = .error name ↔ ∃ text,
    rest.find? (fun x => ParamName.read x.1 = .malformed) = some (name, text) := by
  induction rest generalizing drafts with
  | nil => simp [readParams]
  | cons x rest ih =>
    obtain ⟨first, text⟩ := x
    rw [readParams, List.find?_cons]
    cases hread : ParamName.read first with
    | malformed => simp
    | unrelated => simpa [hread] using ih
    | filter p => simpa [hread] using ih

theorem readParams_eq_ok : readParams [] pairs = .ok rs ↔
    (∀ x ∈ pairs, ParamName.Readable x.1) ∧ Merged pairs rs := by
  constructor
  · intro h
    have hr : ∀ x ∈ pairs, ParamName.Readable x.1 := by
      intro x hx
      refine Classical.byContradiction fun hn => ?_
      cases hf : pairs.find? fun x => ParamName.read x.1 = .malformed with
      | none =>
        have hread := ParamName.read_eq_malformed_iff_not_readable.2 hn
        exact List.find?_eq_none.1 hf x hx (decide_eq_true hread)
      | some y => cases h.symm.trans (readParams_eq_error.2 ⟨y.2, hf⟩)
    obtain ⟨rs', h', hm⟩ := drafted_nil.readParams hr
    cases h.symm.trans h'
    exact ⟨hr, hm⟩
  · rintro ⟨hr, places, hb⟩
    obtain ⟨rs', h', places', hb'⟩ := drafted_nil.readParams hr
    rw [h', hb.unique hb']

theorem readParams_filter (drafts : List Draft) (rest : List (String × String)) :
    readParams drafts (rest.filter fun x => ParamName.Opens x.1) = readParams drafts rest := by
  induction rest generalizing drafts with
  | nil => rfl
  | cons x rest ih =>
    rw [List.filter_cons]
    split
    · rw [readParams, readParams]
      cases ParamName.read x.1 <;> simp only [ih]
    · rename_i ho
      rw [decide_eq_true_eq] at ho
      rw [readParams, ParamName.read_eq_unrelated_iff.2 ho, ih]

theorem limited_eq_ok {limits : Limits} {rs all : List Request} :
    limited limits rs = .ok all ↔ all = rs ∧ rs.length ≤ limits.maxRequests := by
  unfold limited
  split
  · rename_i h
    exact ⟨fun h' => (by cases h'), fun h' => absurd h (Nat.not_lt.2 h'.2)⟩
  · rename_i h
    exact ⟨fun h' => ⟨(Except.ok.inj h').symm, Nat.not_lt.1 h⟩, fun h' => by rw [h'.1]⟩

theorem intakeParams_eq_ok {limits : Limits} : intakeParams limits pairs = .ok rs ↔
    ((∀ x ∈ pairs, ParamName.Readable x.1) ∧ Merged pairs rs) ∧
      rs.length ≤ limits.maxRequests := by
  rw [intakeParams, ← readParams_eq_ok]
  cases readParams [] pairs with
  | error name => simp
  | ok all =>
    rw [limited_eq_ok, Except.ok.injEq, eq_comm (a := all)]
    exact and_congr_right fun h => by rw [h]

/-- Merging loses no text and doubles none. Bracket parameters are taken in exactly when each name
that opens like a filter's has one of its forms and there are not too many requests. There is then
one request for each parameter that is no item of a list and one for each list, in the order of the
parameters that begin them; that of a list has the texts of all its items in their order. Parameters
of other names change nothing, also when reading fails; and it is all the same to a reader that
looks each list up by the place which it has kept for it. -/
theorem merging_keeps_texts (limits : Limits) (pairs : List (String × String)) :
    (∀ rs, intakeParams limits pairs = .ok rs ↔
      (∀ x ∈ pairs, ParamName.Readable x.1) ∧ rs.length ≤ limits.maxRequests ∧
        ∃ places, Begun pairs (ParamForm.request pairs) rs places) ∧
    intakeParams limits (pairs.filter fun x => ParamName.Opens x.1) =
      intakeParams limits pairs ∧
    Slotted.empty.read pairs = readParams [] pairs := by
  refine ⟨fun rs => ?_, ?_, Slotted.read_empty pairs⟩
  · rw [intakeParams_eq_ok, and_assoc, and_comm (a := Merged pairs rs)]
    rfl
  · rw [intakeParams, intakeParams, readParams_filter]

-- Two lists and a filter of its own, whose parameters stand between each other and a page.
example : intakeParams .standard [("filter[a][in][]", "1"), ("filter[a][in]", "2"), ("page", "3"),
    ("filter[a][notIn][]", "4"), ("filter[a][in][]", "1")] =
      .ok [⟨"a", "in", some (.list [.text "1", .text "1"])⟩, ⟨"a", "in", some (.list [.text "2"])⟩,
        ⟨"a", "notIn", some (.list [.text "4"])⟩] := by
  rfl

end Reading

end RowSieve.Filter
