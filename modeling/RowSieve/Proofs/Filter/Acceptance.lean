/-
Which requests a field accepts, and how it refuses the others. A request is accepted when the field
offers its operator, its value has a shape that the operator takes, and every scalar of the value
stands for something of the field's kind. What is amiss is looked for in that order, and among the
scalars in the order of the list; whatever it is, the refusal names the field.
-/
import RowSieve.Proofs.Filter.Published
import RowSieve.Proofs.Filter.Refusal
import RowSieve.Proofs.Number.Rounding

namespace RowSieve

open RowSieve.Sql (Datum bind_eq_ok bind_eq_error)

namespace Filter

/-! ## What a field asks of a request -/

/-- The field offers the operator under the token. -/
structure Field.Offers (f : Field) (token : String) (op : Operator) : Prop where
  token_eq : op.token = token
  allowed : f.allows op = true
  supported : f.kind.supports op = true

/-- A value of a shape that operators of the arity take, and the scalars in it. -/
inductive Arity.Takes : Arity → Option RequestValue → List Scalar → Prop where
  | nothing : Takes Arity.none Option.none []
  | scalar {a : Arity} (s : Scalar) : a = .scalar ∨ a = .scalarOrList →
      Takes a (some (.scalar s)) [s]
  | list {a : Arity} (s : Scalar) (rest : List Scalar) : a = .list ∨ a = .scalarOrList →
      Takes a (some (.list (s :: rest))) (s :: rest)

/-- A value of no shape that the operator takes, with the text and the reason of the refusal. -/
inductive Operator.Misfits (op : Operator) : Option RequestValue → String → Reason → Prop where
  | needless (v : RequestValue) : op.arity = .none → Misfits op (some v) v.shown (.takesNoValue op)
  | missing : op.arity ≠ .none → Misfits op none "" (.needsValue op)
  | single (s : Scalar) : op.arity = .list →
      Misfits op (some (.scalar s)) s.asText (.needsList op)
  | several (items : List Scalar) : op.arity = .scalar →
      Misfits op (some (.list items)) (RequestValue.list items).shown (.needsSingle op)
  | empty : op.arity = .list ∨ op.arity = .scalarOrList →
      Misfits op (some (.list [])) "[]" .emptyList

/-- The scalar writes a number: an integer if it can be one, of 64 bits with a sign, and else a
binary number. -/
inductive Scalar.WritesNumber : Scalar → Datum → Prop where
  | integer {n : Int} (bounds : -0x8000000000000000 ≤ n ∧ n < 0x10000000000000000) :
      n < 0x8000000000000000 → WritesNumber (.number (.integer n bounds)) (.integer n)
  | wide {n : Int} (bounds : -0x8000000000000000 ≤ n ∧ n < 0x10000000000000000) :
      0x8000000000000000 ≤ n → WritesNumber (.number (.integer n bounds)) (.real (.ofInt n))
  | real {x : Binary64} (finite : x.isFinite = true) :
      WritesNumber (.number (.real x finite)) (.real x)
  | integerText {s : String} {n : Int} :
      Number.readInteger .signed64 (Text.trim s.toList) = .ok n →
      WritesNumber (.text s) (.integer n)
  | realText {s : String} {x : Binary64} :
      (∀ n, Number.readInteger .signed64 (Text.trim s.toList) ≠ .ok n) →
      Binary64.read? (Text.trim s.toList) = some x → x.isFinite = true →
      WritesNumber (.text s) (.real x)

/-- The scalar writes a truth value: the value itself, the integer one or zero, or the text of one
of these. -/
inductive Scalar.WritesTruth : Scalar → Bool → Prop where
  | bool (b : Bool) : WritesTruth (.bool b) b
  | one (bounds : -0x8000000000000000 ≤ (1 : Int) ∧ (1 : Int) < 0x10000000000000000) :
      WritesTruth (.number (.integer 1 bounds)) true
  | zero (bounds : -0x8000000000000000 ≤ (0 : Int) ∧ (0 : Int) < 0x10000000000000000) :
      WritesTruth (.number (.integer 0 bounds)) false
  | trueText : WritesTruth (.text "true") true
  | oneText : WritesTruth (.text "1") true
  | falseText : WritesTruth (.text "false") false
  | zeroText : WritesTruth (.text "0") false

namespace Field

/-- What a scalar stands for as a value of the field's kind. Days and instants are written as text
only; a choice is named by its label. -/
inductive StandsFor (f : Field) : Scalar → Datum → Prop where
  | text (s : Scalar) : f.kind = .text → StandsFor f s (.text s.asText)
  | number {s : Scalar} {d : Datum} : f.kind = .number → s.WritesNumber d → StandsFor f s d
  | date {s : String} {d : Day} : f.kind = .date → Day.read? s = some d →
      StandsFor f (.text s) (.text d.stored)
  | datetime {s : String} {t : Instant} : f.kind = .datetime → Instant.read? s = some t →
      StandsFor f (.text s) (.text t.stored)
  | boolean {s : Scalar} {b : Bool} : f.kind = .boolean → s.WritesTruth b →
      StandsFor f s (.bool b)
  | choice {s : Scalar} {m : Labels} {code : String} : f.kind = .choice → f.labels? = some m →
      m.code? s.asText = some code → StandsFor f s (.text code)

/-- The refusal of a scalar that stands for nothing; it repeats the scalar's own text. -/
inductive Mismatch (f : Field) (s : Scalar) : Error → Prop where
  | number : f.kind = .number → Mismatch f s (.invalidValue f.key s.asText .notNumber)
  | date : f.kind = .date → Mismatch f s (.invalidValue f.key s.asText .notDate)
  | datetime : f.kind = .datetime → Mismatch f s (.invalidValue f.key s.asText .notDatetime)
  | boolean : f.kind = .boolean → Mismatch f s (.invalidValue f.key s.asText .notBoolean)
  | unlabelled : f.kind = .choice → f.labels? = none →
      Mismatch f s (.invalidValue f.key s.asText .noLabels)
  | label {m : Labels} : f.kind = .choice → f.labels? = some m →
      Mismatch f s (.unknownLabel f.key s.asText m.labels)

/-- The first scalar of a list that stands for nothing, and its refusal. -/
inductive Spoils (f : Field) : List Scalar → Error → Prop where
  | first (before after : List Scalar) {s : Scalar} {e : Error} :
      (∀ t ∈ before, ∃ d, f.StandsFor t d) → (∀ d, ¬ f.StandsFor s d) → f.Mismatch s e →
      Spoils f (before ++ s :: after) e

/-- Why a request is refused: for its operator; else for the shape of its value; else for the first
scalar that stands for nothing. -/
inductive Refuses (f : Field) (r : Request) : Error → Prop where
  | operator : (∀ op, ¬ f.Offers r.operator op) →
      Refuses f r (.unsupportedOperator f.key r.operator f.operatorTokens)
  | shape {op : Operator} {shown : String} {reason : Reason} : f.Offers r.operator op →
      op.Misfits r.value? shown reason → Refuses f r (.invalidValue f.key shown reason)
  | scalar {op : Operator} {ss : List Scalar} {e : Error} : f.Offers r.operator op →
      op.arity.Takes r.value? ss → f.Spoils ss e → Refuses f r e

/-- The request asks for an operator that the field offers, with a value of a shape that it takes,
whose scalars all stand for something. -/
def Admits (f : Field) (r : Request) : Prop :=
  ∃ op ss, f.Offers r.operator op ∧ op.arity.Takes r.value? ss ∧
    ∀ s ∈ ss, ∃ d, f.StandsFor s d

end Field

/-! ## Scalars -/

namespace Scalar

theorem toNumber?_eq_some {s : Scalar} {d : Datum} : s.toNumber? = some d ↔ s.WritesNumber d := by
  constructor
  · intro h
    rcases s with b | (⟨n, bounds⟩ | ⟨x, finite⟩) | s
    · cases h
    · by_cases hn : n < 0x8000000000000000
      · have hint : (JsonNumber.integer n bounds).toInt64? = some n := if_pos hn
        simp only [toNumber?, hint] at h
        cases h
        exact .integer bounds hn
      · have hint : (JsonNumber.integer n bounds).toInt64? = none := if_neg hn
        simp only [toNumber?, hint, Option.map_eq_some_iff, Option.filter_eq_some_iff] at h
        obtain ⟨x, ⟨hx, -⟩, rfl⟩ := h
        cases hx
        exact .wide bounds (Int.not_lt.1 hn)
    · simp only [toNumber?, JsonNumber.toInt64?, Option.map_eq_some_iff,
        Option.filter_eq_some_iff] at h
      obtain ⟨y, ⟨hy, -⟩, rfl⟩ := h
      cases hy
      exact .real finite
    · simp only [toNumber?, numberOfText?] at h
      split at h
      · rename_i n hn
        cases h
        exact .integerText hn
      · rename_i e he
        obtain ⟨x, hx, rfl⟩ := Option.map_eq_some_iff.1 h
        obtain ⟨hread, hfinite⟩ := Option.filter_eq_some_iff.1 hx
        exact .realText (fun n hn => by rw [he] at hn; cases hn) hread hfinite
  · intro h
    cases h with
    | integer bounds hn =>
      have hint : (JsonNumber.integer _ bounds).toInt64? = some _ := if_pos hn
      simp only [toNumber?, hint]
    | @wide n bounds hn =>
      have hint : (JsonNumber.integer n bounds).toInt64? = none := if_neg (Int.not_lt.2 hn)
      have hfinite : (Binary64.ofInt n).isFinite = true := Binary64.isFinite_ofInt (by omega)
      simp [toNumber?, hint, JsonNumber.toBinary64, Option.filter, hfinite]
    | real finite =>
      simp [toNumber?, JsonNumber.toInt64?, JsonNumber.toBinary64, Option.filter, finite]
    | integerText hn => simp only [toNumber?, numberOfText?, hn]
    | realText hnone hread hfinite =>
      simp only [toNumber?, numberOfText?]
      split
      · rename_i n hn
        exact absurd hn (hnone n)
      · simp [hread, Option.filter, hfinite]

theorem toBool?_eq_some {s : Scalar} {b : Bool} : s.toBool? = some b ↔ s.WritesTruth b := by
  constructor
  · intro h
    unfold toBool? at h
    split at h
    · cases h
      exact .bool b
    · -- Only an integer has a form in 64 bits, and it is that integer.
      rename_i n
      rcases n with ⟨n, bounds⟩ | ⟨x, finite⟩
      · simp only [JsonNumber.toInt64?] at h
        split at h
        · rename_i hn
          split at hn <;> cases hn
          cases h
          exact .one bounds
        · rename_i hn
          split at hn <;> cases hn
          cases h
          exact .zero bounds
        · cases h
      · cases h
    · cases h
      exact .trueText
    · cases h
      exact .oneText
    · cases h
      exact .falseText
    · cases h
      exact .zeroText
    · cases h
  · intro h
    cases h <;> rfl

end Scalar

namespace Field

variable {f : Field}

theorem datum_eq_ok {s : Scalar} {d : Datum} : f.datum s = .ok d ↔ f.StandsFor s d := by
  constructor
  · intro h
    unfold datum at h
    simp only at h
    split at h
    case h_1 hk =>
      cases h
      exact .text s hk
    case h_6 hk =>
      split at h
      · cases h
      · rename_i m hm
        split at h
        · rename_i code hcode
          cases h
          exact .choice hk hm hcode
        · cases h
    all_goals
      rename_i hk
      split at h <;> cases h
      rename_i hd
    · exact .number hk (Scalar.toNumber?_eq_some.1 hd)
    · rcases s with b | n | s <;> try cases hd
      obtain ⟨d, hread, rfl⟩ := Option.map_eq_some_iff.1 hd
      exact .date hk hread
    · rcases s with b | n | s <;> try cases hd
      obtain ⟨t, hread, rfl⟩ := Option.map_eq_some_iff.1 hd
      exact .datetime hk hread
    · obtain ⟨b, hb, rfl⟩ := Option.map_eq_some_iff.1 hd
      exact .boolean hk (Scalar.toBool?_eq_some.1 hb)
  · intro h
    cases h with
    | text s hk => simp only [datum, hk]
    | number hk hd => simp only [datum, hk, Scalar.toNumber?_eq_some.2 hd]
    | date hk hread => simp only [datum, hk, Scalar.toDay?, hread, Option.map_some]
    | datetime hk hread => simp only [datum, hk, Scalar.toInstant?, hread, Option.map_some]
    | boolean hk hb => simp only [datum, hk, Scalar.toBool?_eq_some.2 hb, Option.map_some]
    | choice hk hm hcode => simp only [datum, hk, hm, hcode]

/-- A scalar that stands for nothing is refused in one way only. -/
theorem datum_eq_error {s : Scalar} {e : Error} :
    f.datum s = .error e ↔ (∀ d, ¬ f.StandsFor s d) ∧ f.Mismatch s e := by
  constructor
  · intro h
    refine ⟨fun d hd => ?_, ?_⟩
    · rw [datum_eq_ok.2 hd] at h
      cases h
    · unfold datum at h
      simp only at h
      split at h
      case h_1 => cases h
      case h_6 hk =>
        split at h
        · rename_i hm
          cases h
          exact .unlabelled hk hm
        · rename_i m hm
          split at h <;> cases h
          exact .label hk hm
      all_goals
        rename_i hk
        split at h <;> cases h
      · exact .number hk
      · exact .date hk
      · exact .datetime hk
      · exact .boolean hk
  · rintro ⟨hnone, hm⟩
    cases hd : f.datum s with
    | ok d => exact absurd (datum_eq_ok.1 hd) (hnone d)
    | error e' =>
      -- The kind decides the refusal, and for a choice its labels do.
      unfold datum at hd
      cases hm with
      | number hk | date hk | datetime hk | boolean hk =>
        simp only [hk] at hd
        split at hd <;> cases hd
        rfl
      | unlabelled hk hm =>
        simp only [hk, hm] at hd
        cases hd
        rfl
      | label hk hm =>
        simp only [hk, hm] at hd
        split at hd <;> cases hd
        rfl

/-! ## Lists of scalars -/

theorem exists_data {ss : List Scalar} :
    (∃ ds, f.data ss = .ok ds) ↔ ∀ s ∈ ss, ∃ d, f.StandsFor s d := by
  induction ss with
  | nil => exact ⟨fun _ s hs => absurd hs List.not_mem_nil, fun _ => ⟨[], rfl⟩⟩
  | cons s ss ih =>
    rw [List.forall_mem_cons, ← ih]
    constructor
    · rintro ⟨ds, h⟩
      obtain ⟨d, hd, h⟩ := bind_eq_ok.1 h
      obtain ⟨ds, hds, -⟩ := bind_eq_ok.1 h
      exact ⟨⟨d, datum_eq_ok.1 hd⟩, ds, hds⟩
    · rintro ⟨⟨d, hd⟩, ds, hds⟩
      exact ⟨d :: ds, bind_eq_ok.2 ⟨d, datum_eq_ok.2 hd, bind_eq_ok.2 ⟨ds, hds, rfl⟩⟩⟩

theorem Spoils.cons {s : Scalar} {ss : List Scalar} {e : Error} {d : Datum}
    (hd : f.StandsFor s d) (h : f.Spoils ss e) : f.Spoils (s :: ss) e := by
  obtain ⟨before, after, hbefore, hnone, hm⟩ := h
  exact .first (s :: before) after (List.forall_mem_cons.2 ⟨⟨d, hd⟩, hbefore⟩) hnone hm

theorem data_eq_error {ss : List Scalar} {e : Error} : f.data ss = .error e ↔ f.Spoils ss e := by
  constructor
  · intro h
    induction ss with
    | nil => cases h
    | cons s ss ih =>
      rcases bind_eq_error.1 h with hd | ⟨d, hd, h⟩
      · obtain ⟨hnone, hm⟩ := datum_eq_error.1 hd
        exact .first [] ss (by simp) hnone hm
      · rcases bind_eq_error.1 h with hds | ⟨ds, -, h⟩
        · exact (ih hds).cons (datum_eq_ok.1 hd)
        · cases h
  · rintro ⟨before, after, hbefore, hnone, hm⟩
    induction before with
    | nil => exact bind_eq_error.2 (.inl (datum_eq_error.2 ⟨hnone, hm⟩))
    | cons t before ih =>
      obtain ⟨⟨d, hd⟩, hbefore⟩ := List.forall_mem_cons.1 hbefore
      exact bind_eq_error.2
        (.inr ⟨d, datum_eq_ok.2 hd, bind_eq_error.2 (.inl (ih hbefore))⟩)

/-! ## Shapes -/

section Shapes

variable {op : Operator} {value? : Option RequestValue} {ss : List Scalar}

/-- A value has a shape that the operator takes, or it misfits. -/
theorem misfits_or_takes (op : Operator) (value? : Option RequestValue) :
    (∃ shown reason, op.Misfits value? shown reason) ∨ ∃ ss, op.arity.Takes value? ss := by
  rcases value? with _ | ((_ | ⟨s, rest⟩) | s)
  all_goals cases ha : op.arity
  case none.none => exact .inr ⟨[], .nothing⟩
  case none.list | none.scalar | none.scalarOrList =>
    exact .inl ⟨_, _, .missing (by rw [ha]; decide)⟩
  case some.list.nil.none | some.list.cons.none | some.scalar.none =>
    exact .inl ⟨_, _, .needless _ ha⟩
  case some.list.nil.scalar | some.list.cons.scalar => exact .inl ⟨_, _, .several _ ha⟩
  case some.list.nil.list => exact .inl ⟨_, _, .empty (.inl ha)⟩
  case some.list.nil.scalarOrList => exact .inl ⟨_, _, .empty (.inr ha)⟩
  case some.list.cons.list => exact .inr ⟨_, .list s rest (.inl rfl)⟩
  case some.list.cons.scalarOrList => exact .inr ⟨_, .list s rest (.inr rfl)⟩
  case some.scalar.list => exact .inl ⟨_, _, .single s ha⟩
  case some.scalar.scalar => exact .inr ⟨_, .scalar s (.inl rfl)⟩
  case some.scalar.scalarOrList => exact .inr ⟨_, .scalar s (.inr rfl)⟩

theorem operand_of_misfits {shown : String} {reason : Reason}
    (h : op.Misfits value? shown reason) :
    f.operand op value? = .error (.invalidValue f.key shown reason) := by
  unfold operand
  cases h with
  | needless v ha => simp only [ha]
  | missing ha => cases ha' : op.arity <;> simp_all
  | single s ha => simp only [ha]
  | several items ha => simp only [ha]
  | empty ha => rcases ha with ha | ha <;> simp only [ha]

/-- With a shape that fits, it is up to the scalars. -/
theorem operand_of_takes (h : op.arity.Takes value? ss) :
    ∃ g : List Datum → Operand, f.operand op value? = (f.data ss).map g := by
  unfold operand
  generalize op.arity = a at h ⊢
  cases h with
  | nothing => exact ⟨fun _ => .none, rfl⟩
  | scalar s ha =>
    let g (ds : List Datum) : Operand := ds.head?.elim .none .one
    have hone : (f.datum s).map Operand.one = (f.data [s]).map g := by
      rw [data]
      cases f.datum s <;> rfl
    refine ⟨g, ?_⟩
    rcases ha with rfl | rfl <;> exact hone
  | list s rest ha =>
    refine ⟨.many, ?_⟩
    rcases ha with rfl | rfl <;> rfl

theorem exists_operand_iff : (∃ value, f.operand op value? = .ok value) ↔
    ∃ ss, op.arity.Takes value? ss ∧ ∀ s ∈ ss, ∃ d, f.StandsFor s d := by
  constructor
  · rintro ⟨value, h⟩
    rcases misfits_or_takes op value? with ⟨shown, reason, hm⟩ | ⟨ss, ht⟩
    · rw [operand_of_misfits hm] at h
      cases h
    · obtain ⟨g, hg⟩ := operand_of_takes (f := f) ht
      obtain ⟨ds, hds, -⟩ := map_eq_ok.1 (hg.symm.trans h)
      exact ⟨ss, ht, exists_data.1 ⟨ds, hds⟩⟩
  · rintro ⟨ss, ht, hss⟩
    obtain ⟨g, hg⟩ := operand_of_takes (f := f) ht
    obtain ⟨ds, hds⟩ := exists_data.2 hss
    exact ⟨g ds, hg.trans (map_eq_ok.2 ⟨ds, hds, rfl⟩)⟩

theorem operand_eq_error {e : Error} : f.operand op value? = .error e ↔
    (∃ shown reason, op.Misfits value? shown reason ∧ e = .invalidValue f.key shown reason) ∨
      ∃ ss, op.arity.Takes value? ss ∧ f.Spoils ss e := by
  constructor
  · intro h
    rcases misfits_or_takes op value? with ⟨shown, reason, hm⟩ | ⟨ss, ht⟩
    · rw [operand_of_misfits hm] at h
      cases h
      exact .inl ⟨shown, reason, hm, rfl⟩
    · obtain ⟨g, hg⟩ := operand_of_takes (f := f) ht
      exact .inr ⟨ss, ht, data_eq_error.1 (map_eq_error.1 (hg.symm.trans h))⟩
  · rintro (⟨shown, reason, hm, rfl⟩ | ⟨ss, ht, hs⟩)
    · exact operand_of_misfits hm
    · obtain ⟨g, hg⟩ := operand_of_takes (f := f) ht
      exact hg.trans (map_eq_error.2 (data_eq_error.2 hs))

end Shapes

/-! ## Requests -/

theorem offers_iff {token : String} {op : Operator} :
    f.operator token = .ok op ↔ f.Offers token op := by
  rw [operator_eq_ok]
  exact ⟨fun ⟨ht, ha, hs⟩ => ⟨ht, ha, hs⟩, fun ⟨ht, ha, hs⟩ => ⟨ht, ha, hs⟩⟩

theorem operator_eq_error {token : String} {e : Error} : f.operator token = .error e ↔
    (∀ op, ¬ f.Offers token op) ∧ e = .unsupportedOperator f.key token f.operatorTokens := by
  constructor
  · intro h
    refine ⟨fun op hop => ?_, ?_⟩
    · rw [offers_iff.2 hop] at h
      cases h
    · unfold operator at h
      split at h <;> cases h
      rfl
  · rintro ⟨hnone, rfl⟩
    unfold operator
    split
    · rename_i op hop
      have hok : f.operator token = .ok op := by rw [operator, hop]
      exact absurd (offers_iff.1 hok) (hnone op)
    · rfl

/-- A field accepts the requests that it admits and no others, and refuses the others for the first
thing that is amiss, in its own name. -/
theorem accepts_what_it_admits (f : Field) (r : Request) :
    ((∃ p, f.predicate r = .ok p) ↔ f.Admits r) ∧
    ∀ e, (f.predicate r = .error e ↔ f.Refuses r e) ∧
      (f.predicate r = .error e → e.field = f.key) := by
  have hrefuses : ∀ e, f.predicate r = .error e ↔ f.Refuses r e := by
    intro e
    rw [predicate, bind_eq_error]
    constructor
    · rintro (h | ⟨op, hop, h⟩)
      · obtain ⟨hnone, rfl⟩ := operator_eq_error.1 h
        exact .operator hnone
      · rcases bind_eq_error.1 h with h | ⟨value, -, h⟩
        · rcases operand_eq_error.1 h with ⟨shown, reason, hm, rfl⟩ | ⟨ss, ht, hs⟩
          · exact .shape (offers_iff.1 hop) hm
          · exact .scalar (offers_iff.1 hop) ht hs
        · cases h
    · intro h
      cases h with
      | operator hnone => exact .inl (operator_eq_error.2 ⟨hnone, rfl⟩)
      | shape hop hm =>
        have hoperand := operand_eq_error (f := f).2 (.inl ⟨_, _, hm, rfl⟩)
        exact .inr ⟨_, offers_iff.2 hop, bind_eq_error.2 (.inl hoperand)⟩
      | scalar hop ht hs =>
        have hoperand := operand_eq_error.2 (.inr ⟨_, ht, hs⟩)
        exact .inr ⟨_, offers_iff.2 hop, bind_eq_error.2 (.inl hoperand)⟩
  refine ⟨?_, fun e => ⟨hrefuses e, fun h => ?_⟩⟩
  · constructor
    · rintro ⟨p, hp⟩
      obtain ⟨op, value, hop, hv, -⟩ := predicate_eq_ok.1 hp
      obtain ⟨ss, ht, hss⟩ := exists_operand_iff.1 ⟨value, hv⟩
      exact ⟨op, ss, offers_iff.1 hop, ht, hss⟩
    · rintro ⟨op, ss, hop, ht, hss⟩
      obtain ⟨value, hv⟩ := exists_operand_iff.2 ⟨ss, ht, hss⟩
      exact ⟨_, predicate_eq_ok.2 ⟨op, value, offers_iff.2 hop, hv, rfl⟩⟩
  · exact (rejects_of_predicate h).blames.field_eq

example : (ofKind "total" .number).predicate ⟨"total", "lessThan", some (.list [])⟩ =
    .error (.invalidValue "total" "[]" (.needsSingle .below)) := rfl

end Field

end Filter

end RowSieve
