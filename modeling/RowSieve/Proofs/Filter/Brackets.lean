/-
Filters written as bracket parameters. A request is written as the parameters of its key and its
operator, and reading them gives the request back. A list that was opened takes in further items
wherever it stands, so reading goes on as long as the lists still to come have other keys or other
operators than the open ones.
-/
import RowSieve.Proofs.Filter.ParamName

namespace RowSieve.Filter

/-! ## Names -/

/-- The name of the parameters of a key and an operator. -/
def Param.name (p : Param) : String :=
  "filter[" ++ p.key ++ "][" ++ p.operator ++ "]" ++ if p.list then "[]" else ""

namespace ParamName

/-- The name of a parameter is read as its parts, whatever else the key and the operator hold. -/
theorem read_name {p : Param} (hk : Bracketable p.key) (ho : Bracketable p.operator) :
    read p.name = .filter p := by
  obtain ⟨key, operator, list⟩ := p
  cases list with
  | false =>
    have hname : Param.name ⟨key, operator, false⟩ = (ParamForm.operator key operator).name :=
      String.append_empty
    rw [hname]
    exact read_form ⟨hk, ho⟩
  | true =>
    have hname : Param.name ⟨key, operator, true⟩ = (ParamForm.item key operator).name :=
      String.append_assoc ..
    rw [hname]
    exact read_form ⟨hk, ho⟩

end ParamName

/-! ## Requests -/

/-- The operators that take no value. -/
def nullTokens : List String := [Operator.isNull.token, Operator.isNotNull.token]

/-- The operators that take a list. -/
def listTokens : List String := [Operator.among.token, Operator.notAmong.token]

/-- The values that parameters can give an operator. -/
inductive Writable (operator : String) : Option RequestValue → Prop where
  | missing (h : operator ∈ nullTokens) : Writable operator none
  | scalar (t : String) (h : operator ∉ listTokens)
      (hn : operator ∈ nullTokens → t ≠ "" ∧ t ≠ "true") :
      Writable operator (some (.scalar (.text t)))
  | list (t : String) (ts : List String) :
      Writable operator (some (.list ((t :: ts).map .text)))

namespace Request

/-- The parameters that write a request; one for each item of a list. -/
def pairs (r : Request) : List (String × String) :=
  match r.value? with
  | none => [(Param.name ⟨r.key, r.operator, false⟩, "")]
  | some (.scalar s) => [(Param.name ⟨r.key, r.operator, false⟩, s.asText)]
  | some (.list items) => items.map fun s => (Param.name ⟨r.key, r.operator, true⟩, s.asText)

def isList (r : Request) : Bool :=
  match r.value? with
  | some (.list _) => true
  | _ => false

/-- Whether two requests would run into one: both are lists, of one key and one operator. -/
def Merges (r r' : Request) : Prop :=
  r.isList = true ∧ r'.isList = true ∧ r.key = r'.key ∧ r.operator = r'.operator

instance (r r' : Request) : Decidable (r.Merges r') := inferInstanceAs (Decidable (_ ∧ _))

end Request

/-! ## Values -/

theorem Operator.ofToken?_eq_some {token : String} {op : Operator} :
    ofToken? token = some op ↔ op.token = token := by
  constructor
  · intro h
    simpa using List.find?_some h
  · rintro rfl
    exact ofToken?_token op

theorem Operator.token_mem_nullTokens {op : Operator} :
    op.arity = .none → op.token ∈ nullTokens := by
  cases op <;> decide

theorem Operator.token_mem_listTokens {op : Operator} :
    op.arity = .list → op.token ∈ listTokens := by
  cases op <;> decide

section Value

variable {p : Param} {text : String}

theorem Param.value?_missing (h : p.operator ∈ nullTokens) : p.value? "" = none := by
  have ha : (Operator.ofToken? p.operator).map Operator.arity = some .none := by
    simp only [nullTokens, List.mem_cons, List.not_mem_nil, or_false] at h
    obtain h | h := h <;> rw [h, Operator.ofToken?_token] <;> rfl
  unfold Param.value?
  rw [ha]
  rfl

theorem Param.value?_scalar (h : p.operator ∉ listTokens)
    (hn : p.operator ∈ nullTokens → text ≠ "" ∧ text ≠ "true") :
    p.value? text = some (.scalar (.text text)) := by
  unfold Param.value?
  split
  case h_1 ha =>
    obtain ⟨op, hop, ha⟩ := Option.map_eq_some_iff.1 ha
    rw [Operator.ofToken?_eq_some] at hop
    obtain ⟨h1, h2⟩ := hn (hop ▸ Operator.token_mem_nullTokens ha)
    simp [h1, h2]
  case h_2 ha =>
    obtain ⟨op, hop, ha⟩ := Option.map_eq_some_iff.1 ha
    rw [Operator.ofToken?_eq_some] at hop
    exact absurd (hop ▸ Operator.token_mem_listTokens ha) h
  case h_3 => rfl

end Value

/-! ## Lists under construction -/

section Lists

variable {p : Param} {text : String} {drafts : List Draft}

/-- Drafts that take no further item of the key and the operator are passed by. -/
theorem addItem_append (tail : List Draft) (h : ∀ d ∈ drafts, d.isOpen = true →
      ¬ (d.request.key = p.key ∧ d.request.operator = p.operator)) :
    addItem p text (drafts ++ tail) = drafts ++ addItem p text tail := by
  induction drafts with
  | nil => rfl
  | cons d drafts ih =>
    obtain ⟨hd, hrest⟩ := List.forall_mem_cons.1 h
    rw [List.cons_append, addItem, if_neg, ih hrest, List.cons_append]
    simp only [Bool.and_eq_true, beq_iff_eq, and_assoc]
    exact fun ⟨ho, hko⟩ => hd ho hko

/-- The items behind the first go to the list that the first has opened. -/
theorem readParams_items {key operator : String} (hk : Bracketable key) (ho : Bracketable operator)
    (h : ∀ d ∈ drafts, d.isOpen = true →
      ¬ (d.request.key = key ∧ d.request.operator = operator)) (rest : List (String × String)) :
    ∀ (ts : List String) (items : List Scalar),
      readParams (drafts ++ [⟨⟨key, operator, some (.list items)⟩, true⟩])
        (ts.map (fun t => (Param.name ⟨key, operator, true⟩, t)) ++ rest) =
      readParams (drafts ++ [⟨⟨key, operator, some (.list (items ++ ts.map .text))⟩, true⟩]) rest
  | [], items => by simp
  | t :: ts, items => by
    have hadd : addItem ⟨key, operator, true⟩ t
        (drafts ++ [⟨⟨key, operator, some (.list items)⟩, true⟩]) =
          drafts ++ [⟨⟨key, operator, some (.list (items ++ [.text t]))⟩, true⟩] := by
      rw [addItem_append _ h]
      simp [addItem]
    rw [List.map_cons, List.cons_append, readParams, ParamName.read_name hk ho]
    simp only [addParam, if_true]
    rw [hadd, readParams_items hk ho h rest ts, List.map_cons, List.append_assoc,
      List.singleton_append]

end Lists

/-! ## Requests read back -/

/-- The parameters of a request add it behind the drafts, when no open draft merges with it. -/
theorem readParams_pairs {r : Request} {drafts : List Draft} (hk : Bracketable r.key)
    (ho : Bracketable r.operator) (hv : Writable r.operator r.value?)
    (h : ∀ d ∈ drafts, d.isOpen = true → r.isList = true →
      ¬ (d.request.key = r.key ∧ d.request.operator = r.operator)) (rest : List (String × String)) :
    readParams drafts (r.pairs ++ rest) = readParams (drafts ++ [⟨r, r.isList⟩]) rest := by
  obtain ⟨key, operator, value?⟩ := r
  cases hv with
  | missing hn =>
    have hvalue := Param.value?_missing (p := ⟨key, operator, false⟩) hn
    simp only [Request.pairs, List.singleton_append]
    rw [readParams, ParamName.read_name hk ho]
    simp only [addParam, Bool.false_eq_true, if_false, hvalue]
    rfl
  | scalar t hl hn =>
    have hvalue := Param.value?_scalar (p := ⟨key, operator, false⟩) hl hn
    simp only [Request.pairs, List.singleton_append]
    rw [readParams, ParamName.read_name hk ho]
    simp only [addParam, Bool.false_eq_true, if_false, Scalar.asText, hvalue]
    rfl
  | list t ts =>
    have habsent := fun d hd ho => h d hd ho rfl
    have hadd : addItem ⟨key, operator, true⟩ t drafts =
        drafts ++ [⟨⟨key, operator, some (.list [.text t])⟩, true⟩] := by
      simpa [addItem] using addItem_append (p := ⟨key, operator, true⟩) [] habsent
    simp only [Request.pairs, List.map_cons, List.map_map, List.cons_append]
    rw [readParams, ParamName.read_name hk ho]
    simp only [addParam, if_true, Scalar.asText, hadd]
    exact readParams_items hk ho habsent rest ts [.text t]

/-- Requests that parameters can write, no two of which run into one, are read back in their order.
The induction keeps that no open draft merges with a request still to come. -/
theorem readParams_requests : ∀ {rs : List Request} {drafts : List Draft},
    (∀ r ∈ rs, Bracketable r.key ∧ Bracketable r.operator ∧ Writable r.operator r.value?) →
    rs.Pairwise (fun r r' => ¬ r.Merges r') →
    (∀ d ∈ drafts, ∀ r ∈ rs, d.isOpen = true → r.isList = true →
      ¬ (d.request.key = r.key ∧ d.request.operator = r.operator)) →
    readParams drafts (rs.flatMap Request.pairs) = .ok (drafts.map (·.request) ++ rs)
  | [], drafts, _, _, _ => by simp [readParams]
  | r :: rs, drafts, hw, hp, hd => by
    obtain ⟨⟨hk, ho, hv⟩, hws⟩ := List.forall_mem_cons.1 hw
    obtain ⟨hr, hps⟩ := List.pairwise_cons.1 hp
    rw [List.flatMap_cons,
      readParams_pairs hk ho hv (fun d hd' => hd d hd' r List.mem_cons_self),
      readParams_requests hws hps, List.map_append, List.append_assoc]
    · rfl
    · intro d hd' r' hr'
      rw [List.mem_append, List.mem_singleton] at hd'
      obtain hd' | rfl := hd'
      · exact hd d hd' r' (List.mem_cons_of_mem r hr')
      · exact fun ho hl hko => hr r' hr' ⟨ho, hl, hko⟩

end RowSieve.Filter
