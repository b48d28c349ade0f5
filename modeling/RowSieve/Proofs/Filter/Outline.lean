/-
What of a predicate does not depend on the values of its request. The outline of a predicate is
the predicate with a blank for every value. The outline of a request is its key, the token of its
operator and the shape of its value; requests of one outline ask for predicates of one outline.
-/
import RowSieve.Proofs.Filter.Catalog
import RowSieve.Proofs.Filter.Compiled

namespace RowSieve.Filter

open RowSieve.Sql

/-! ## Outlines of predicates -/

/-- What stands for any value in an outline. -/
def blank : Datum := .text ""

namespace Predicate

mutual

/-- The predicate with blanks for its values; how many there are can still be seen. -/
def outline : Predicate → Predicate
  | compare c op _ => compare c op blank
  | among c values negated => among c (List.replicate values.length blank) negated
  | like c _ negated => like c "" negated
  | isNull c negated sentinel? => isNull c negated (sentinel?.map fun _ => blank)
  | all items => all (outlines items)
  | any items => any (outlines items)
  | having relation body => having relation body.outline
  | lacking relation body => lacking relation body.outline

def outlines : List Predicate → List Predicate
  | [] => []
  | p :: rest => p.outline :: outlines rest

end

theorem outlines_eq_map : ∀ ps : List Predicate, outlines ps = ps.map outline
  | [] => rfl
  | p :: ps => by rw [outlines, outlines_eq_map ps, List.map_cons]

theorem outline_related (negated : Bool) (relation : String) (p : Predicate) :
    (related negated relation p).outline = related negated relation p.outline := by
  cases negated <;> rfl

theorem outline_conj : ∀ ps : List Predicate, (conj ps).outline = conj (ps.map outline)
  | [] => rfl
  | [p] => rfl
  | p :: p' :: ps => by
    rw [conj, outline, outlines_eq_map]
    · rfl
    · simp

theorem outline_disj : ∀ ps : List Predicate, (disj ps).outline = disj (ps.map outline)
  | [] => rfl
  | [p] => rfl
  | p :: p' :: ps => by
    rw [disj, outline, outlines_eq_map]
    · rfl
    · simp

theorem outline_reach (leaf : Predicate) : ∀ relations : List String,
    (reach relations leaf).outline = reach relations leaf.outline
  | [] => rfl
  | r :: rest => by rw [reach, outline, outline_reach leaf rest, reach]

theorem outline_reachNone (leaf : Predicate) : ∀ relations : List String,
    (reachNone relations leaf).outline = reachNone relations leaf.outline
  | [] => rfl
  | r :: rest => by rw [reachNone, outline, outline_reach, reachNone]

end Predicate

/-! ## Shapes of values -/

/-- The shape of a value: there is none, it is a scalar, or it is a list of some length. -/
inductive Shape where
  | missing
  | scalar
  | list (length : Nat)
deriving DecidableEq

/-- The shape of the value that a request came with. -/
def Shape.ofValue? : Option RequestValue → Shape
  | none => missing
  | some (.scalar _) => scalar
  | some (.list items) => list items.length

/-- What a request asks for, the scalars of its value left aside. -/
structure Request.Outline where
  key : String
  operator : String
  shape : Shape
deriving DecidableEq

def Request.outline (r : Request) : Request.Outline := ⟨r.key, r.operator, .ofValue? r.value?⟩

/-- An operand of the shape with blanks for its values. -/
def Shape.operand : Shape → Operand
  | missing => .none
  | scalar => .one blank
  | list n => .many (List.replicate n blank)

def Operand.shape : Operand → Shape
  | none => .missing
  | one _ => .scalar
  | many ds => .list ds.length

theorem Operand.length_values_shape (value : Operand) :
    value.shape.operand.values.length = value.values.length := by
  cases value with
  | many ds => exact List.length_replicate
  | _ => rfl

namespace Field

variable {f : Field} {op : Operator} {value : Operand}

/-- A value keeps its shape when it becomes an operand: no list is taken apart. -/
theorem shape_of_operand {value? : Option RequestValue} (h : f.operand op value? = .ok value) :
    value.shape = .ofValue? value? := by
  rcases operand_cases h with ⟨-, rfl, rfl⟩ | ⟨s, d, -, rfl, -, rfl⟩ |
    ⟨s, rest, ds, -, rfl, hds, rfl⟩
  · rfl
  · rfl
  · exact congrArg Shape.list (length_data hds)

/-! ## Requests of one outline -/

/-- Tests that differ in their values only have one outline, as often as there are values. -/
theorem outline_values {g : Datum → Predicate} {p : Predicate} (hg : ∀ d, (g d).outline = p)
    (ds : List Datum) : (ds.map g).map Predicate.outline = List.replicate ds.length p := by
  rw [List.map_map]
  exact List.map_eq_replicate_iff.2 fun d _ => hg d

theorem outline_comparisons (c : Comparison) : (f.comparisons c value).outline =
    .conj (List.replicate value.values.length (.compare f.comparedColumn c blank)) := by
  rw [comparisons, Predicate.outline_conj, outline_values (g := f.comparison c) fun d => rfl]

theorem outline_likenesses (anchor : Like.Anchor) : (f.likenesses anchor value).outline =
    .disj (List.replicate value.values.length (.like f.comparedColumn "" false)) := by
  rw [likenesses, Predicate.outline_disj,
    outline_values (g := f.likeness anchor false) fun d => rfl]

/-- The outline of a test is that of the test with blanks. -/
theorem outline_test (f : Field) (op : Operator) (value : Operand) :
    (f.test op value).outline = (f.test op value.shape.operand).outline := by
  cases op
  case equals | notEquals =>
    cases value with
    | many ds => simp only [test, Operand.shape, Shape.operand, Predicate.outline,
        List.length_replicate]
    | _ => rfl
  case among | notAmong =>
    simp only [test, Predicate.outline, Operand.length_values_shape]
  case contains | startsWith | endsWith =>
    simp only [test, outline_likenesses, Operand.length_values_shape]
  case notContains =>
    simp only [test, Predicate.outline_conj]
    rw [outline_values (g := f.likeness .anywhere true) fun d => rfl,
      outline_values (g := f.likeness .anywhere true) fun d => rfl, Operand.length_values_shape]
  case below | atMost | above | atLeast =>
    simp only [test, outline_comparisons, Operand.length_values_shape]
  case isNull | isNotNull => rfl

theorem outline_placed (f : Field) (op : Operator) (value : Operand) :
    (f.placed op value).outline = (f.placed op value.shape.operand).outline := by
  unfold placed
  cases f.path.relations with
  | nil => exact outline_test f op value
  | cons r rest =>
    cases op
    case equals =>
      cases value with
      | many ds =>
        simp only [Operator.polarity, Operand.shape, Shape.operand, Predicate.outline_conj]
        rw [outline_values (p := .reach (r :: rest) (.compare f.comparedColumn .eq blank)),
          outline_values (p := .reach (r :: rest) (.compare f.comparedColumn .eq blank)),
          List.length_replicate]
        all_goals exact fun d => Predicate.outline_reach _ _
      | _ => simp only [Operator.polarity, Operand.shape, Shape.operand, Predicate.outline_reach,
          outline_test f .equals]
    case notEquals | notAmong | notContains | isNull =>
      simp only [Operator.polarity, Predicate.outline_reachNone]
      rw [outline_test]
    all_goals
      simp only [Operator.polarity, Predicate.outline_reach]
      rw [outline_test]

/-- The predicate that a request asks for has an outline that its own outline decides. -/
theorem outline_predicate {r r' : Request} {p p' : Predicate} (h : r.outline = r'.outline)
    (hp : f.predicate r = .ok p) (hp' : f.predicate r' = .ok p') : p.outline = p'.outline := by
  obtain ⟨op, value, hop, hv, rfl⟩ := predicate_eq_ok.1 hp
  obtain ⟨op', value', hop', hv', rfl⟩ := predicate_eq_ok.1 hp'
  injection h with hkey htoken hshape
  rw [htoken, hop'] at hop
  cases hop
  rw [outline_placed, outline_placed f op value', shape_of_operand hv, shape_of_operand hv', hshape]

end Field

namespace Catalog

variable {c : Catalog}

theorem outline_predicate {r r' : Request} {p p' : Predicate} (h : r.outline = r'.outline)
    (hp : c.predicate r = .ok p) (hp' : c.predicate r' = .ok p') : p.outline = p'.outline := by
  obtain ⟨f, hf, hp⟩ := bind_eq_ok.1 hp
  obtain ⟨f', hf', hp'⟩ := bind_eq_ok.1 hp'
  have hkey : r.key = r'.key := congrArg Request.Outline.key h
  rw [hkey, hf'] at hf
  cases hf
  exact Field.outline_predicate h hp hp'

/-- Lists of requests of the same outlines ask for predicates of the same outlines. -/
theorem outline_predicates {rs rs' : List Request} {ps ps' : List Predicate}
    (ho : rs.map Request.outline = rs'.map Request.outline) (h : c.predicates rs = .ok ps)
    (h' : c.predicates rs' = .ok ps') :
    ps.map Predicate.outline = ps'.map Predicate.outline := by
  induction rs generalizing rs' ps ps' with
  | nil =>
    cases rs' with
    | nil => cases h; cases h'; rfl
    | cons r' rs' => cases ho
  | cons r rs ih =>
    cases rs' with
    | nil => cases ho
    | cons r' rs' =>
      obtain ⟨p, ps, hp, hps, rfl⟩ := predicates_cons_eq_ok.1 h
      obtain ⟨p', ps', hp', hps', rfl⟩ := predicates_cons_eq_ok.1 h'
      obtain ⟨hr, hrs⟩ := List.cons.inj ho
      rw [List.map_cons, List.map_cons, outline_predicate hr hp hp', ih hrs hps hps']

end Catalog

end RowSieve.Filter
