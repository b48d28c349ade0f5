/-
Names of filter parameters. A name is read as a filter's exactly when it is written in one of three
forms, and no name is written in two of them; the key and the operator hold anything but a closing
bracket. Any other name that opens like a filter's is malformed, and all the rest are unrelated.
-/
import RowSieve.Filter.Intake

namespace RowSieve.Text

theorem cut?_of_notMem {c : Char} {s : List Char} (h : c ∉ s) (rest : List Char) :
    cut? c (s ++ c :: rest) = some (s, rest) := by
  induction s with
  | nil => simp [cut?]
  | cons x s ih =>
    obtain ⟨hx, hs⟩ := not_or.1 (mt List.mem_cons.2 h)
    rw [List.cons_append, cut?, if_neg (Ne.symm hx), ih hs]
    rfl

theorem of_cut? {c : Char} : ∀ {s front rest : List Char}, cut? c s = some (front, rest) →
    s = front ++ c :: rest ∧ c ∉ front
  | [], _, _, h => by cases h
  | x :: s, front, rest, h => by
    rw [cut?] at h
    split at h
    · rename_i hx
      cases h
      exact ⟨by rw [hx, List.nil_append], List.not_mem_nil⟩
    · rename_i hx
      obtain ⟨⟨front, rest⟩, h', h⟩ := Option.map_eq_some_iff.1 h
      cases h
      obtain ⟨rfl, hc⟩ := of_cut? h'
      exact ⟨rfl, fun hm => (List.mem_cons.1 hm).elim (fun hm => hx hm.symm) hc⟩

theorem after?_eq_some_iff {start s rest : List Char} :
    after? start s = some rest ↔ s = start ++ rest := by
  induction start generalizing s with
  | nil => simp [after?]
  | cons p ps ih =>
    cases s with
    | nil => simp [after?]
    | cons x xs =>
      rw [after?, List.cons_append, List.cons.injEq]
      split
      · rename_i hx
        rw [ih, and_iff_right hx.symm]
      · rename_i hx
        exact ⟨fun h => (by cases h), fun h => absurd h.1.symm hx⟩

end RowSieve.Text

namespace RowSieve.Filter

/-- Whether a text can stand between brackets: it is not empty and closes none. -/
def Bracketable (s : String) : Prop := s.toList ≠ [] ∧ ']' ∉ s.toList

instance (s : String) : Decidable (Bracketable s) := inferInstanceAs (Decidable (_ ∧ _))

theorem Bracketable.isEmpty {s : String} (h : Bracketable s) : s.toList.isEmpty = false :=
  List.isEmpty_eq_false_iff.2 h.1

/-! ## Groups -/

/-- Texts with brackets around each. -/
def bracketed (gs : List (List Char)) : List Char := gs.flatMap fun g => '[' :: (g ++ [']'])

theorem bracketed_cons (g : List Char) (gs : List (List Char)) :
    bracketed (g :: gs) = '[' :: (g ++ ']' :: bracketed gs) := by
  simp [bracketed]

namespace ParamName

theorem groups?_group {inner : List Char} (h : ']' ∉ inner) (fuel : Nat) (rest : List Char) :
    groups? (fuel + 1) ('[' :: (inner ++ ']' :: rest)) = (groups? fuel rest).map (inner :: ·) := by
  rw [groups?, if_pos rfl, Text.cut?_of_notMem h]
  simp only [Option.bind_eq_bind, Option.bind_some]
  cases groups? fuel rest <;> rfl

theorem groups?_bracketed : ∀ {gs : List (List Char)} {fuel : Nat},
    (∀ g ∈ gs, ']' ∉ g) → gs.length ≤ fuel → groups? fuel (bracketed gs) = some gs
  | [], fuel, _, _ => by cases fuel <;> rfl
  | g :: gs, fuel, h, hf => by
    obtain ⟨hg, hgs⟩ := List.forall_mem_cons.1 h
    obtain ⟨fuel, rfl⟩ := Nat.exists_eq_add_of_le' (Nat.lt_of_lt_of_le (Nat.succ_pos _) hf)
    rw [bracketed_cons, groups?_group hg, groups?_bracketed hgs (Nat.le_of_succ_le_succ hf)]
    rfl

theorem of_groups? : ∀ {fuel : Nat} {s : List Char} {gs : List (List Char)},
    groups? fuel s = some gs → s = bracketed gs ∧ ∀ g ∈ gs, ']' ∉ g
  | fuel, [], gs, h => by
    have hgs : gs = [] := by cases fuel <;> exact (Option.some.inj h).symm
    subst hgs
    exact ⟨rfl, fun g hg => absurd hg List.not_mem_nil⟩
  | 0, _ :: _, _, h => by cases h
  | fuel + 1, c :: s, gs, h => by
    rw [groups?] at h
    split at h
    · rename_i hc
      obtain ⟨⟨g, rest⟩, hcut, h⟩ := Option.bind_eq_some_iff.1 h
      obtain ⟨more, hmore, h⟩ := Option.bind_eq_some_iff.1 h
      cases h
      obtain ⟨rfl, hg⟩ := Text.of_cut? hcut
      obtain ⟨rfl, hgs⟩ := of_groups? hmore
      exact ⟨by rw [hc, bracketed_cons], List.forall_mem_cons.2 ⟨hg, hgs⟩⟩
    · cases h

theorem length_le_bracketed (gs : List (List Char)) : gs.length ≤ (bracketed gs).length := by
  induction gs with
  | nil => exact Nat.le_refl 0
  | cons g gs ih => simp only [bracketed_cons, List.length_cons, List.length_append]; omega

/-- The groups of a text are found in no more steps than it has characters. -/
theorem groups?_eq_some_iff {fuel : Nat} {s : List Char} {gs : List (List Char)}
    (h : s.length ≤ fuel) :
    groups? fuel s = some gs ↔ s = bracketed gs ∧ ∀ g ∈ gs, ']' ∉ g := by
  refine ⟨of_groups?, ?_⟩
  rintro ⟨rfl, hgs⟩
  exact groups?_bracketed hgs (Nat.le_trans (length_le_bracketed gs) h)

theorem groups?_eq_of_le {fuel : Nat} {s : List Char} (h : s.length ≤ fuel) :
    groups? fuel s = groups? s.length s := by
  refine Option.ext fun gs => ?_
  rw [groups?_eq_some_iff h, groups?_eq_some_iff (Nat.le_refl _)]

end ParamName

/-! ## Forms -/

/-- The forms that the names of filter parameters have. -/
inductive ParamForm where
  | key (key : String)
  | operator (key operator : String)
  | item (key operator : String)

namespace ParamForm

def name : ParamForm → String
  | key k => "filter[" ++ k ++ "]"
  | operator k op => "filter[" ++ k ++ "][" ++ op ++ "]"
  | item k op => "filter[" ++ k ++ "][" ++ op ++ "][]"

/-- What a name of this form says. -/
def param : ParamForm → Param
  | key k => ⟨k, "equals", false⟩
  | operator k op => ⟨k, op, false⟩
  | item k op => ⟨k, op, true⟩

def WellFormed : ParamForm → Prop
  | key k => Bracketable k
  | operator k op | item k op => Bracketable k ∧ Bracketable op

/-- What stands between the brackets. -/
def groups : ParamForm → List (List Char)
  | key k => [k.toList]
  | operator k op => [k.toList, op.toList]
  | item k op => [k.toList, op.toList, []]

variable {f f' : ParamForm}

theorem toList_name (f : ParamForm) : f.name.toList = "filter".toList ++ bracketed f.groups := by
  cases f <;> simp [name, groups, bracketed]

theorem WellFormed.notMem_groups (h : f.WellFormed) : ∀ g ∈ f.groups, ']' ∉ g := by
  cases f with
  | key k => simpa [groups] using h.2
  | operator k op => simpa [groups] using And.intro h.1.2 h.2.2
  | item k op => simpa [groups] using And.intro h.1.2 h.2.2

theorem groups_injective (h : f.groups = f'.groups) : f = f' := by
  cases f <;> cases f' <;> simp_all [groups, String.toList_inj]

/-- No name is written in two forms. -/
theorem WellFormed.eq_of_name_eq (h : f.WellFormed) (h' : f'.WellFormed) (hn : f.name = f'.name) :
    f = f' := by
  have hb : bracketed f.groups = bracketed f'.groups := by
    have := congrArg String.toList hn
    rwa [toList_name, toList_name, List.append_cancel_left_eq] at this
  have hg := ParamName.groups?_bracketed h.notMem_groups (Nat.le_add_right _ f'.groups.length)
  rw [hb, ParamName.groups?_bracketed h'.notMem_groups (Nat.le_add_left _ _)] at hg
  exact (groups_injective (Option.some.inj hg)).symm

end ParamForm

/-! ## Reading -/

namespace ParamName

/-- Whether a name begins as those of filter parameters do. -/
def Opens (name : String) : Prop := "filter[".toList <+: name.toList

instance (name : String) : Decidable (Opens name) := inferInstanceAs (Decidable (_ <+: _))

variable {name : String} {p : Param} {f : ParamForm}

theorem opens_iff : Opens name ↔
    ∃ rest, Text.after? "filter".toList name.toList = some ('[' :: rest) := by
  simp only [Text.after?_eq_some_iff, Opens, List.IsPrefix, eq_comm (a := name.toList)]
  rfl

theorem opens_name (f : ParamForm) : Opens f.name := by
  rw [Opens, f.toList_name]
  cases f <;> exact ⟨_, rfl⟩

/-- A name is read as what its form says. -/
theorem read_form (h : f.WellFormed) : read f.name = .filter f.param := by
  obtain ⟨rest, hrest⟩ := opens_iff.1 (opens_name f)
  have hb : '[' :: rest = bracketed f.groups := by
    have hs := Text.after?_eq_some_iff.1 hrest
    rw [f.toList_name] at hs
    exact (List.append_cancel_left hs).symm
  have hg : groups? (rest.length + 1) ('[' :: rest) = some f.groups :=
    (groups?_eq_some_iff (Nat.le_refl _)).2 ⟨hb, h.notMem_groups⟩
  unfold read
  rw [hrest]
  simp only [hg]
  cases f with
  | key k => simp [ParamForm.groups, ParamForm.param, Operator.token, Bracketable.isEmpty h]
  | operator k op => simp [ParamForm.groups, ParamForm.param, h.1.isEmpty, h.2.isEmpty]
  | item k op => simp [ParamForm.groups, ParamForm.param, h.1.isEmpty, h.2.isEmpty]

theorem bracketable_ofList {g : List Char} (h : ¬g.isEmpty = true) (hc : ']' ∉ g) :
    Bracketable (.ofList g) := by
  rw [Bracketable, String.toList_ofList]
  exact ⟨mt List.isEmpty_iff.2 h, hc⟩

theorem bracketable_pair {k op : List Char} {gs : List (List Char)}
    (h : ¬(k.isEmpty || op.isEmpty) = true) (hc : ∀ g ∈ k :: op :: gs, ']' ∉ g) :
    Bracketable (.ofList k) ∧ Bracketable (.ofList op) := by
  rw [Bool.or_eq_true, not_or] at h
  exact ⟨bracketable_ofList h.1 (hc k (by simp)), bracketable_ofList h.2 (hc op (by simp))⟩

/-- What is read as a filter's is written in a form that says it. -/
theorem exists_form_of_read (h : read name = .filter p) :
    ∃ f : ParamForm, f.WellFormed ∧ f.name = name ∧ f.param = p := by
  unfold read at h
  split at h
  · rename_i rest hrest
    have hname {fuel : Nat} {gs : List (List Char)} (hg : groups? fuel ('[' :: rest) = some gs)
        (f : ParamForm) (hf : f.groups = gs) : f.name = name := by
      rw [← String.toList_inj, f.toList_name, hf, ← (of_groups? hg).1]
      exact (Text.after?_eq_some_iff.1 hrest).symm
    split at h
    case h_1 k hg =>
      split at h
      · cases h
      · rename_i hk
        cases h
        exact ⟨.key (.ofList k), bracketable_ofList hk ((of_groups? hg).2 k (by simp)),
          hname hg _ (by simp [ParamForm.groups]), rfl⟩
    case h_2 k op hg =>
      split at h
      · cases h
      · rename_i hko
        cases h
        exact ⟨.operator (.ofList k) (.ofList op), bracketable_pair hko (of_groups? hg).2,
          hname hg _ (by simp [ParamForm.groups]), rfl⟩
    case h_3 k op hg =>
      split at h
      · cases h
      · rename_i hko
        cases h
        exact ⟨.item (.ofList k) (.ofList op), bracketable_pair hko (of_groups? hg).2,
          hname hg _ (by simp [ParamForm.groups]), rfl⟩
    case h_4 => cases h
  · cases h

theorem read_eq_filter_iff :
    read name = .filter p ↔ ∃ f : ParamForm, f.WellFormed ∧ f.name = name ∧ f.param = p := by
  refine ⟨exists_form_of_read, ?_⟩
  rintro ⟨f, hf, rfl, rfl⟩
  exact read_form hf

theorem read_eq_unrelated_iff : read name = .unrelated ↔ ¬Opens name := by
  rw [opens_iff]
  unfold read
  split
  · rename_i rest hrest
    refine ⟨fun h => ?_, fun h => absurd ⟨rest, hrest⟩ h⟩
    -- behind the opening nothing is unrelated
    split at h <;> (try split at h) <;> cases h
  · rename_i hrest
    exact ⟨fun _ ⟨rest, h⟩ => hrest rest h, fun _ => rfl⟩

/-- Whether a name is written in a form. -/
def IsForm (name : String) : Prop := ∃ f : ParamForm, f.WellFormed ∧ f.name = name

theorem IsForm.opens (h : IsForm name) : Opens name := by
  obtain ⟨f, -, rfl⟩ := h
  exact opens_name f

/-- Whether a parameter with this name is taken in: as a filter when it opens like one. -/
def Readable (name : String) : Prop := Opens name → IsForm name

theorem read_eq_malformed_iff : read name = .malformed ↔ Opens name ∧ ¬IsForm name := by
  cases h : read name with
  | unrelated => simp [read_eq_unrelated_iff.1 h]
  | filter p =>
    obtain ⟨f, hf, hn, -⟩ := exists_form_of_read h
    exact ⟨fun h => (by cases h), fun h => absurd ⟨f, hf, hn⟩ h.2⟩
  | malformed =>
    refine ⟨fun _ => ⟨?_, ?_⟩, fun _ => rfl⟩
    · refine Decidable.of_not_not fun ho => ?_
      cases h.symm.trans (read_eq_unrelated_iff.2 ho)
    · rintro ⟨f, hf, rfl⟩
      cases h.symm.trans (read_form hf)

theorem read_eq_malformed_iff_not_readable : read name = .malformed ↔ ¬Readable name := by
  rw [read_eq_malformed_iff, Readable, Classical.not_imp]

/-- The names of filters are exactly those of the three forms. A name says what its form says, and
it has no second form; when it opens like a filter's and has none, the parameters that begin with it
are refused; when it does not, it is unrelated. Reading takes no more steps than there are
characters, so that no name is refused for its length. -/
theorem read_follows_forms (name : String) :
    (∀ p, read name = .filter p ↔
      ∃ f : ParamForm, f.WellFormed ∧ f.name = name ∧ f.param = p) ∧
    (∀ f f' : ParamForm, f.WellFormed → f'.WellFormed → f.name = name → f'.name = name → f = f') ∧
    (read name = .malformed ↔ Opens name ∧ ¬IsForm name) ∧
    (read name = .malformed → ∀ limits text rest,
      intakeParams limits ((name, text) :: rest) = .error (.badParam name) ∧
        (IntakeError.badParam name).code = "INVALID_FILTER_PARAM") ∧
    (read name = .unrelated ↔ ¬Opens name) ∧
    ∀ fuel s, s.length ≤ fuel → groups? fuel s = groups? s.length s := by
  refine ⟨fun p => read_eq_filter_iff, fun f f' hf hf' hn hn' => hf.eq_of_name_eq hf' ?_,
    read_eq_malformed_iff, fun h limits text rest => ⟨?_, rfl⟩, read_eq_unrelated_iff,
    fun fuel s => groups?_eq_of_le⟩
  · rw [hn, hn']
  · rw [intakeParams, readParams, h]

-- An opening bracket is a character like others, and a text behind the groups is not.
example : read "filter[a[b][é.]" = .filter ⟨"a[b", "é.", false⟩ ∧
    read "filter[a]b[c]" = .malformed := by
  decide +kernel

end ParamName

end RowSieve.Filter
