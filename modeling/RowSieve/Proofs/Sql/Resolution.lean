/-
Conditions from predicates. A predicate becomes a condition exactly when its relations join; the
next free alias never falls, and the condition says of the rows in scope what the predicate says
of the row it is about. Each of these is read off one induction over the resolution of predicates,
`ofPredicate_induct`.
-/
import RowSieve.Proofs.Filter.Meaning

namespace RowSieve.Sql

open RowSieve.Filter (Column Comparison Predicate)

/-! ## Relations that join -/

mutual

/-- Whether every relation of a predicate about rows of `table` has a join where it stands. -/
def Joins.Covers (js : Joins) (table : String) : Predicate → Prop
  | .all items | .any items => js.CoversAll table items
  | .having relation body | .lacking relation body =>
    ∃ join, js.find? table relation = some join ∧ js.Covers join.target body
  | _ => True

def Joins.CoversAll (js : Joins) (table : String) : List Predicate → Prop
  | [] => True
  | p :: rest => js.Covers table p ∧ js.CoversAll table rest

end

theorem Joins.coversAll_iff {js : Joins} {table : String} {ps : List Predicate} :
    js.CoversAll table ps ↔ ∀ p ∈ ps, js.Covers table p := by
  induction ps with
  | nil => simp [Joins.CoversAll]
  | cons p ps ih => rw [Joins.CoversAll, ih, List.forall_mem_cons]

theorem Joins.covers_conj {js : Joins} {table : String} {ps : List Predicate} :
    js.Covers table (.conj ps) ↔ ∀ p ∈ ps, js.Covers table p := by
  unfold Predicate.conj
  split
  · simp
  · rw [Joins.Covers, Joins.coversAll_iff]

theorem Joins.covers_disj {js : Joins} {table : String} {ps : List Predicate} :
    js.Covers table (.disj ps) ↔ ∀ p ∈ ps, js.Covers table p := by
  unfold Predicate.disj
  split
  · simp
  · rw [Joins.Covers, Joins.coversAll_iff]

/-- The relations of a chain join exactly when it can be walked to a table where those of the leaf
join. -/
theorem Joins.covers_reach {js : Joins} {leaf : Predicate} :
    ∀ {rels : List String} {table : String},
      js.Covers table (.reach rels leaf) ↔ ∃ target, js.walk table rels = .ok target ∧
        js.Covers target leaf
  | [], table => by simp [Predicate.reach, Joins.walk]
  | name :: rest, table => by
    simp only [Predicate.reach, Joins.Covers, Joins.walk_cons_eq_ok, Joins.covers_reach]
    constructor
    · rintro ⟨join, hj, target, hw, hl⟩
      exact ⟨target, ⟨join, hj, hw⟩, hl⟩
    · rintro ⟨target, ⟨join, hj, hw⟩, hl⟩
      exact ⟨join, hj, target, hw, hl⟩

theorem Joins.covers_reachNone {js : Joins} {leaf : Predicate} {rels : List String}
    {table : String} :
    js.Covers table (.reachNone rels leaf) ↔ ∃ target, js.walk table rels = .ok target ∧
      js.Covers target leaf := by
  rw [← Joins.covers_reach]
  cases rels with
  | nil => rfl
  | cons name rest => simp only [Predicate.reach, Predicate.reachNone, Joins.Covers]

/-! ## Resolution step by step -/

theorem bind_eq_ok {ε α β : Type} {x : Except ε α} {f : α → Except ε β} {b : β} :
    (x >>= f) = .ok b ↔ ∃ a, x = .ok a ∧ f a = .ok b := by
  cases x with
  | error e => simp [bind, Except.bind]
  | ok a => simp [bind, Except.bind]

theorem bind_eq_error {ε α β : Type} {x : Except ε α} {f : α → Except ε β} {e : ε} :
    (x >>= f) = .error e ↔ x = .error e ∨ ∃ a, x = .ok a ∧ f a = .error e := by
  cases x with
  | error e => simp [bind, Except.bind]
  | ok a => simp [bind, Except.bind]

theorem Joins.resolve_eq_ok {js : Joins} {table relation : String} {join : Join} :
    js.resolve table relation = .ok join ↔ js.find? table relation = some join := by
  unfold Joins.resolve
  split <;> simp_all

theorem Joins.resolve_eq_error {js : Joins} {table relation : String} {e : Filter.Error} :
    js.resolve table relation = .error e ↔
      js.find? table relation = none ∧ e = .unknownRelation relation table := by
  unfold Joins.resolve
  cases js.find? table relation <;> simp [eq_comm]

namespace Condition

section Steps

variable {js : Joins} {table : String} {scope free next : Alias} {c : Condition}

theorem ofPredicate_all_eq_ok {ps : List Predicate} :
    ofPredicate js table scope free (.all ps) = .ok (c, next) ↔
      ∃ cs, ofPredicates js table scope free ps = .ok (cs, next) ∧ c = .all cs := by
  rw [ofPredicate, bind_eq_ok]
  constructor
  · rintro ⟨⟨cs, n⟩, h, h'⟩; cases h'; exact ⟨cs, h, rfl⟩
  · rintro ⟨cs, h, rfl⟩; exact ⟨(cs, next), h, rfl⟩

theorem ofPredicate_any_eq_ok {ps : List Predicate} :
    ofPredicate js table scope free (.any ps) = .ok (c, next) ↔
      ∃ cs, ofPredicates js table scope free ps = .ok (cs, next) ∧ c = .any cs := by
  rw [ofPredicate, bind_eq_ok]
  constructor
  · rintro ⟨⟨cs, n⟩, h, h'⟩; cases h'; exact ⟨cs, h, rfl⟩
  · rintro ⟨cs, h, rfl⟩; exact ⟨(cs, next), h, rfl⟩

/-- A predicate about related rows becomes a subquery on the join's target: its body is resolved
there, under the first free alias. -/
theorem ofPredicate_related {n : Bool} {relation : String} {p : Predicate} :
    ofPredicate js table scope free (.related n relation p) =
      js.resolve table relation >>= fun join =>
        ofPredicate js join.target free (free + 1) p >>= fun r =>
          .ok (.subquery n join free scope r.1, r.2) := by
  cases n <;> rfl

theorem ofPredicate_related_eq_ok {n : Bool} {relation : String} {p : Predicate} :
    ofPredicate js table scope free (.related n relation p) = .ok (c, next) ↔
      ∃ join body, js.find? table relation = some join ∧
        ofPredicate js join.target free (free + 1) p = .ok (body, next) ∧
        c = .subquery n join free scope body := by
  rw [ofPredicate_related, bind_eq_ok]
  constructor
  · rintro ⟨join, hj, h⟩
    obtain ⟨⟨body, n⟩, hb, h⟩ := bind_eq_ok.1 h
    cases h
    exact ⟨join, body, Joins.resolve_eq_ok.1 hj, hb, rfl⟩
  · rintro ⟨join, body, hj, hb, rfl⟩
    exact ⟨join, Joins.resolve_eq_ok.2 hj, bind_eq_ok.2 ⟨(body, next), hb, rfl⟩⟩

theorem ofPredicates_cons_eq_ok {p : Predicate} {ps : List Predicate} {cs : List Condition} :
    ofPredicates js table scope free (p :: ps) = .ok (cs, next) ↔
      ∃ c mid rest, ofPredicate js table scope free p = .ok (c, mid) ∧
        ofPredicates js table scope mid ps = .ok (rest, next) ∧ cs = c :: rest := by
  rw [ofPredicates, bind_eq_ok]
  constructor
  · rintro ⟨⟨c, mid⟩, hc, h⟩
    obtain ⟨⟨rest, n⟩, hr, h⟩ := bind_eq_ok.1 h
    cases h
    exact ⟨c, mid, rest, hc, hr, rfl⟩
  · rintro ⟨c, mid, rest, hc, hr, rfl⟩
    exact ⟨(c, mid), hc, bind_eq_ok.2 ⟨(rest, next), hr, rfl⟩⟩

/-! ### Failures -/

section Failures

variable {e : Filter.Error}

theorem ofPredicate_all_eq_error {ps : List Predicate} :
    ofPredicate js table scope free (.all ps) = .error e ↔
      ofPredicates js table scope free ps = .error e := by
  rw [ofPredicate, bind_eq_error, or_iff_left (by rintro ⟨_, -, h⟩; cases h)]

theorem ofPredicate_any_eq_error {ps : List Predicate} :
    ofPredicate js table scope free (.any ps) = .error e ↔
      ofPredicates js table scope free ps = .error e := by
  rw [ofPredicate, bind_eq_error, or_iff_left (by rintro ⟨_, -, h⟩; cases h)]

/-- A predicate about related rows is refused because its relation has no join, or as its body
is. -/
theorem ofPredicate_related_eq_error {n : Bool} {relation : String} {p : Predicate} :
    ofPredicate js table scope free (.related n relation p) = .error e ↔
      (js.find? table relation = none ∧ e = .unknownRelation relation table) ∨
        ∃ join, js.find? table relation = some join ∧
          ofPredicate js join.target free (free + 1) p = .error e := by
  rw [ofPredicate_related, bind_eq_error, Joins.resolve_eq_error]
  refine or_congr_right (exists_congr fun join => ?_)
  rw [Joins.resolve_eq_ok, bind_eq_error, or_iff_left (by rintro ⟨_, -, h⟩; cases h)]

theorem ofPredicates_cons_eq_error {p : Predicate} {ps : List Predicate} :
    ofPredicates js table scope free (p :: ps) = .error e ↔
      ofPredicate js table scope free p = .error e ∨
        ∃ c mid, ofPredicate js table scope free p = .ok (c, mid) ∧
          ofPredicates js table scope mid ps = .error e := by
  rw [ofPredicates, bind_eq_error, Prod.exists]
  refine or_congr_right (exists_congr fun c => exists_congr fun mid => and_congr_right fun _ => ?_)
  rw [bind_eq_error, or_iff_left (by rintro ⟨_, -, h⟩; cases h)]

end Failures

end Steps

/-- What has to be shown of each kind of predicate for `M` to hold of all resolutions of predicates
and `L` of those of lists: of the table, the scope, the first free alias, what is resolved, what
comes of it, and the next free alias. -/
structure ResolutionCases (js : Joins)
    (M : String → Alias → Alias → Predicate → Condition → Alias → Prop)
    (L : String → Alias → Alias → List Predicate → List Condition → Alias → Prop) : Prop where
  compare : ∀ {t a f} c op v, M t a f (.compare c op v) (.compare ⟨a, c⟩ op v) f
  among : ∀ {t a f} c vs n, M t a f (.among c vs n) (.among ⟨a, c⟩ vs n) f
  like : ∀ {t a f} c s n, M t a f (.like c s n) (.like ⟨a, c⟩ s n) f
  isNull : ∀ {t a f} c n v, M t a f (.isNull c n v) (.isNull ⟨a, c⟩ n v) f
  all : ∀ {t a f ps cs m}, L t a f ps cs m → M t a f (.all ps) (.all cs) m
  any : ∀ {t a f ps cs m}, L t a f ps cs m → M t a f (.any ps) (.any cs) m
  related : ∀ {t a f n r p j c m}, js.find? t r = some j → M j.target f (f + 1) p c m →
    M t a f (.related n r p) (.subquery n j f a c) m
  nil : ∀ {t a f}, L t a f [] [] f
  cons : ∀ {t a f p ps c cs k m}, M t a f p c k → L t a k ps cs m → L t a f (p :: ps) (c :: cs) m

section Induct

variable {js : Joins}
  {M : String → Alias → Alias → Predicate → Condition → Alias → Prop}
  {L : String → Alias → Alias → List Predicate → List Condition → Alias → Prop}

mutual

/-- Induction over the resolution of a predicate. -/
theorem ofPredicate_induct (s : ResolutionCases js M L) : ∀ (p : Predicate) {table : String}
    {scope free next : Alias} {c : Condition},
    ofPredicate js table scope free p = .ok (c, next) → M table scope free p c next
  | .compare .., _, _, _, _, _, h => by rw [ofPredicate] at h; cases h; exact s.compare ..
  | .among .., _, _, _, _, _, h => by rw [ofPredicate] at h; cases h; exact s.among ..
  | .like .., _, _, _, _, _, h => by rw [ofPredicate] at h; cases h; exact s.like ..
  | .isNull .., _, _, _, _, _, h => by rw [ofPredicate] at h; cases h; exact s.isNull ..
  | .all ps, _, _, _, _, _, h => by
    obtain ⟨cs, hs, rfl⟩ := ofPredicate_all_eq_ok.1 h
    exact s.all (ofPredicates_induct s ps hs)
  | .any ps, _, _, _, _, _, h => by
    obtain ⟨cs, hs, rfl⟩ := ofPredicate_any_eq_ok.1 h
    exact s.any (ofPredicates_induct s ps hs)
  | .having r p, _, _, _, _, _, h => by
    obtain ⟨j, body, hj, hb, rfl⟩ := (ofPredicate_related_eq_ok (n := false)).1 h
    exact s.related (n := false) hj (ofPredicate_induct s p hb)
  | .lacking r p, _, _, _, _, _, h => by
    obtain ⟨j, body, hj, hb, rfl⟩ := (ofPredicate_related_eq_ok (n := true)).1 h
    exact s.related (n := true) hj (ofPredicate_induct s p hb)

theorem ofPredicates_induct (s : ResolutionCases js M L) : ∀ (ps : List Predicate) {table : String}
    {scope free next : Alias} {cs : List Condition},
    ofPredicates js table scope free ps = .ok (cs, next) → L table scope free ps cs next
  | [], _, _, _, _, _, h => by rw [ofPredicates] at h; cases h; exact s.nil
  | p :: ps, _, _, _, _, _, h => by
    obtain ⟨c, mid, rest, hc, hr, rfl⟩ := ofPredicates_cons_eq_ok.1 h
    exact s.cons (ofPredicate_induct s p hc) (ofPredicates_induct s ps hr)

end

end Induct

/-! ## What resolution keeps -/

theorem value_mk (scopes : Scopes) (a : Alias) (c : Column) :
    ColumnRef.value scopes ⟨a, c⟩ = c.value (scopes a) := rfl

/-- What a subquery asks of a row of its target: that it belongs to the row outside and satisfies
the body. -/
theorem eval_subquery (tables : Tables) (scopes : Scopes) (negated : Bool) (join : Join)
    {inner outer : Alias} (hne : outer ≠ inner) (body : Condition) :
    (subquery negated join inner outer body).eval tables scopes =
      (Truth.ofBool ((join.belonging tables (scopes outer)).any fun r =>
        (body.eval tables (scopes.with inner r)).selects)).notIf negated := by
  rw [eval]
  simp only [Join.belonging, List.any_filter, Truth.selects_and, Scopes.with, if_neg hne]

section Kept

variable {js : Joins} {table : String} {scope free next : Alias} {p : Predicate} {c : Condition}

/-- The next free alias never falls, and a condition says of the rows in scope what its predicate
says of the row it is about. The scope lies below the aliases of subqueries, so that none of these
hides its row. -/
theorem ofPredicate_sound (tables : Tables)
    (h : ofPredicate js table scope free p = .ok (c, next)) :
    free ≤ next ∧ ∀ scopes, scope < free →
      c.eval tables scopes = p.eval js tables table (scopes scope) := by
  refine ofPredicate_induct
    (M := fun t a f p c m => f ≤ m ∧ ∀ scopes, a < f →
      c.eval tables scopes = p.eval js tables t (scopes a))
    (L := fun t a f ps cs m => f ≤ m ∧ ∀ scopes, a < f →
      evalAll tables scopes cs = Predicate.evalAll js tables t (scopes a) ps ∧
      evalAny tables scopes cs = Predicate.evalAny js tables t (scopes a) ps)
    ⟨?_, ?_, ?_, ?_, ?_, ?_, ?_, ?_, ?_⟩ p h
  · intro t a f c op v
    exact ⟨Nat.le_refl _, fun scopes _ => by rw [eval, Predicate.eval, value_mk]⟩
  · intro t a f c vs n
    exact ⟨Nat.le_refl _, fun scopes _ => by rw [eval, Predicate.eval, value_mk]⟩
  · intro t a f c s n
    exact ⟨Nat.le_refl _, fun scopes _ => by rw [eval, Predicate.eval, value_mk]⟩
  · intro t a f c n v
    refine ⟨Nat.le_refl _, fun scopes _ => ?_⟩
    cases n <;> rw [eval, Predicate.eval, value_mk]
  · rintro t a f ps cs m ⟨hle, hs⟩
    exact ⟨hle, fun scopes ha => by rw [eval, Predicate.eval, (hs scopes ha).1]⟩
  · rintro t a f ps cs m ⟨hle, hs⟩
    exact ⟨hle, fun scopes ha => by rw [eval, Predicate.eval, (hs scopes ha).2]⟩
  · rintro t a f n r p j c m hj ⟨hle, hb⟩
    refine ⟨Nat.le_of_succ_le hle, fun scopes ha => ?_⟩
    rw [eval_subquery tables scopes n j (Nat.ne_of_lt ha), Predicate.eval_related, hj]
    simp only
    congr 3
    funext row
    rw [hb _ (Nat.lt_succ_self f)]
    simp only [Scopes.with, if_true]
  · intro t a f
    exact ⟨Nat.le_refl _, fun scopes _ => ⟨by rw [evalAll, Predicate.evalAll],
      by rw [evalAny, Predicate.evalAny]⟩⟩
  · rintro t a f p ps c cs k m ⟨hle, hc⟩ ⟨hle', hs⟩
    refine ⟨Nat.le_trans hle hle', fun scopes ha => ?_⟩
    obtain ⟨h1, h2⟩ := hs scopes (Nat.lt_of_lt_of_le ha hle)
    exact ⟨by rw [evalAll, Predicate.evalAll, hc scopes ha, h1],
      by rw [evalAny, Predicate.evalAny, hc scopes ha, h2]⟩

/-- Every relation of a predicate that becomes a condition joins. -/
theorem covers_of_ofPredicate (h : ofPredicate js table scope free p = .ok (c, next)) :
    js.Covers table p := by
  refine ofPredicate_induct (M := fun t _ _ p _ _ => js.Covers t p)
    (L := fun t _ _ ps _ _ => js.CoversAll t ps) ⟨?_, ?_, ?_, ?_, ?_, ?_, ?_, ?_, ?_⟩ p h
  · intros; exact trivial
  · intros; exact trivial
  · intros; exact trivial
  · intros; exact trivial
  · intro _ _ _ ps _ _ hs; exact hs
  · intro _ _ _ ps _ _ hs; exact hs
  · intro _ _ _ n _ _ j _ _ hj hb
    cases n <;> exact ⟨j, hj, hb⟩
  · intros; exact trivial
  · intro _ _ _ _ _ _ _ _ _ hp hs; exact ⟨hp, hs⟩

end Kept

section Exists

variable {js : Joins}

mutual

/-- A predicate becomes a condition when its relations join, whatever the aliases. -/
theorem exists_ofPredicate : ∀ (p : Predicate) {table : String} (scope free : Alias),
    js.Covers table p → ∃ c next, ofPredicate js table scope free p = .ok (c, next)
  | .compare .., _, _, _, _ => ⟨_, _, by rw [ofPredicate]⟩
  | .among .., _, _, _, _ => ⟨_, _, by rw [ofPredicate]⟩
  | .like .., _, _, _, _ => ⟨_, _, by rw [ofPredicate]⟩
  | .isNull .., _, _, _, _ => ⟨_, _, by rw [ofPredicate]⟩
  | .all ps, _, scope, free, h => by
    obtain ⟨cs, next, hs⟩ := exists_ofPredicates ps scope free h
    exact ⟨_, next, ofPredicate_all_eq_ok.2 ⟨cs, hs, rfl⟩⟩
  | .any ps, _, scope, free, h => by
    obtain ⟨cs, next, hs⟩ := exists_ofPredicates ps scope free h
    exact ⟨_, next, ofPredicate_any_eq_ok.2 ⟨cs, hs, rfl⟩⟩
  | .having r p, _, scope, free, h => by
    obtain ⟨j, hj, hp⟩ := h
    obtain ⟨c, next, hc⟩ := exists_ofPredicate p free (free + 1) hp
    exact ⟨_, next, (ofPredicate_related_eq_ok (n := false)).2 ⟨j, c, hj, hc, rfl⟩⟩
  | .lacking r p, _, scope, free, h => by
    obtain ⟨j, hj, hp⟩ := h
    obtain ⟨c, next, hc⟩ := exists_ofPredicate p free (free + 1) hp
    exact ⟨_, next, (ofPredicate_related_eq_ok (n := true)).2 ⟨j, c, hj, hc, rfl⟩⟩

theorem exists_ofPredicates : ∀ (ps : List Predicate) {table : String} (scope free : Alias),
    js.CoversAll table ps → ∃ cs next, ofPredicates js table scope free ps = .ok (cs, next)
  | [], _, _, _, _ => ⟨_, _, by rw [ofPredicates]⟩
  | p :: ps, _, scope, free, h => by
    obtain ⟨c, mid, hc⟩ := exists_ofPredicate p scope free h.1
    obtain ⟨rest, next, hs⟩ := exists_ofPredicates ps scope mid h.2
    exact ⟨_, next, ofPredicates_cons_eq_ok.2 ⟨c, mid, rest, hc, hs, rfl⟩⟩

end

end Exists

/-! ## What is refused -/

section Refused

variable {js : Joins}

mutual

/-- A predicate is refused for nothing but a relation without a join. -/
theorem ofPredicate_error : ∀ (p : Predicate) {table : String} {scope free : Alias}
    {e : Filter.Error}, ofPredicate js table scope free p = .error e →
    ∃ relation last, e = .unknownRelation relation last ∧ js.find? last relation = none
  | .compare .., _, _, _, _, h | .among .., _, _, _, _, h | .like .., _, _, _, _, h
  | .isNull .., _, _, _, _, h => by rw [ofPredicate] at h; cases h
  | .all ps, _, _, _, _, h => ofPredicates_error ps (ofPredicate_all_eq_error.1 h)
  | .any ps, _, _, _, _, h => ofPredicates_error ps (ofPredicate_any_eq_error.1 h)
  | .having r p, _, _, _, _, h => by
    obtain ⟨hj, rfl⟩ | ⟨_, -, hb⟩ := (ofPredicate_related_eq_error (n := false)).1 h
    · exact ⟨_, _, rfl, hj⟩
    · exact ofPredicate_error p hb
  | .lacking r p, _, _, _, _, h => by
    obtain ⟨hj, rfl⟩ | ⟨_, -, hb⟩ := (ofPredicate_related_eq_error (n := true)).1 h
    · exact ⟨_, _, rfl, hj⟩
    · exact ofPredicate_error p hb

theorem ofPredicates_error : ∀ (ps : List Predicate) {table : String} {scope free : Alias}
    {e : Filter.Error}, ofPredicates js table scope free ps = .error e →
    ∃ relation last, e = .unknownRelation relation last ∧ js.find? last relation = none
  | [], _, _, _, _, h => by rw [ofPredicates] at h; cases h
  | p :: ps, _, _, _, _, h => by
    obtain hp | ⟨_, _, -, hs⟩ := ofPredicates_cons_eq_error.1 h
    · exact ofPredicate_error p hp
    · exact ofPredicates_error ps hs

end

end Refused

end Condition

end RowSieve.Sql
