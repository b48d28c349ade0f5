/-
Runs of steps on a target. Whatever steps are made and whichever of them fail, the target after
them is one that predicates have been added to, one after another; additions that fail can be left
out of a run; and targets that answer additions alike answer runs alike.
-/
import RowSieve.Filter.Step
import RowSieve.Proofs.Filter.Catalog

namespace RowSieve.Filter

/-- The predicate that is added, if it is understood. -/
def Addition.predicate? : Addition → Except Error Predicate
  | .request f r => f.predicate r
  | .predicate p => .ok p
  | .reach relations leaf => .ok (.reach relations leaf)
  | .reachNone relations leaf => .ok (.reachNone relations leaf)

namespace Target

variable {τ : Type} [Target τ] {t t' : τ} {e : Error} {p : Predicate} {ps : List Predicate}

/-! ## Single steps -/

theorem step_of_add (h : add t p = .ok t') : step t (.ok p) = (.ok (), t') := by
  simp only [step, h]

theorem step_of_refused (h : add t p = .error e) : step t (.ok p) = (.error e, t) := by
  simp only [step, h]

theorem extend_eq_step (t : τ) (a : Addition) : extend t a = step t a.predicate? := by
  cases a <;> rfl

/-- An addition adds its predicate, or leaves the target as it was. -/
theorem extend_cases (t : τ) (a : Addition) :
    (∃ p t', a.predicate? = .ok p ∧ add t p = .ok t' ∧ extend t a = (.ok (), t')) ∨
      ∃ e, extend t a = (.error e, t) := by
  rw [extend_eq_step]
  cases hp : a.predicate? with
  | error e => exact .inr ⟨e, rfl⟩
  | ok p =>
    cases ha : add t p with
    | error e => exact .inr ⟨e, step_of_refused ha⟩
    | ok t' => exact .inl ⟨p, t', rfl, ha, step_of_add ha⟩

/-- Predicates are added one after another, all of them or those before the first that is
refused. -/
theorem addAll_cases (t : τ) (ps : List Predicate) :
    (∃ t', addAll t ps = (.ok (), t') ∧ ps.foldlM add t = .ok t') ∨
      ∃ front p back t' e, ps = front ++ p :: back ∧ front.foldlM add t = .ok t' ∧
        add t' p = .error e ∧ addAll t ps = (.error e, t') := by
  induction ps generalizing t with
  | nil => exact .inl ⟨t, rfl, rfl⟩
  | cons p ps ih =>
    rw [addAll]
    cases ha : add t p with
    | error e => exact .inr ⟨[], p, ps, t, e, rfl, rfl, ha, rfl⟩
    | ok mid =>
      have hcons (qs : List Predicate) : (p :: qs).foldlM add t = qs.foldlM add mid := by
        rw [List.foldlM_cons, ha]; rfl
      rcases ih mid with ⟨t', hall, hf⟩ | ⟨front, q, back, t', e, rfl, hf, hq, hall⟩
      · exact .inl ⟨t', hall, by rw [hcons, hf]⟩
      · exact .inr ⟨p :: front, q, back, t', e, rfl, by rw [hcons, hf], hq, hall⟩

theorem addAll_of_foldlM {ps : List Predicate} (h : ps.foldlM add t = .ok t') :
    addAll t ps = (.ok (), t') := by
  rcases addAll_cases t ps with ⟨t'', hall, hf⟩ | ⟨front, p, back, mid, e, rfl, hf, hp, -⟩
  · rw [h] at hf
    cases hf
    exact hall
  · rw [List.foldlM_append, hf] at h
    have hr : (p :: back).foldlM add mid = .error e := by rw [List.foldlM_cons, hp]; rfl
    cases h.symm.trans hr

/-! ## Targets that are reached -/

theorem foldlM_of_extend (t : τ) (a : Addition) :
    ∃ ps : List Predicate, ps.foldlM add t = .ok (extend t a).2 := by
  rcases extend_cases t a with ⟨p, t', -, ha, h⟩ | ⟨e, h⟩
  · refine ⟨[p], ?_⟩
    rw [h, List.foldlM_cons, ha]
    rfl
  · exact ⟨[], by rw [h]; rfl⟩

theorem foldlM_of_addRequests (t : τ) (c : Catalog) (rs : List Request) :
    ∃ ps : List Predicate, ps.foldlM add t = .ok (addRequests t c rs).2 := by
  unfold addRequests
  cases c.predicates rs with
  | error e => exact ⟨[], rfl⟩
  | ok ps =>
    rcases addAll_cases t ps with ⟨t', h, hf⟩ | ⟨front, p, back, t', e, -, hf, -, h⟩
    · exact ⟨ps, by simp only [h, hf]⟩
    · exact ⟨front, by simp only [h, hf]⟩

theorem foldlM_of_perform (t : τ) (s : Step) :
    ∃ ps : List Predicate, ps.foldlM add t = .ok (perform t s).2 := by
  cases s with
  | add a => exact foldlM_of_extend t a
  | batch c rs => exact foldlM_of_addRequests t c rs

theorem run_cons (t : τ) (s : Step) (steps : List Step) :
    run t (s :: steps) = ((perform t s).1 :: (run (perform t s).2 steps).1,
      (run (perform t s).2 steps).2) := rfl

/-- Whatever steps are made, the target after them is one that predicates have been added to, one
after another. -/
theorem foldlM_of_run (t : τ) (steps : List Step) :
    ∃ ps : List Predicate, ps.foldlM add t = .ok (run t steps).2 := by
  induction steps generalizing t with
  | nil => exact ⟨[], rfl⟩
  | cons s steps ih =>
    obtain ⟨ps, hp⟩ := foldlM_of_perform t s
    obtain ⟨qs, hq⟩ := ih (perform t s).2
    refine ⟨ps ++ qs, ?_⟩
    rw [List.foldlM_append, hp, run_cons]
    exact hq

/-! ## Failures left out -/

/-- The steps that have succeeded. -/
def kept (steps : List Step) (answers : List (Except Error Answer)) : List Step :=
  ((steps.zip answers).filter fun x => x.2.isOk).map (·.1)

theorem kept_cons_ok (s : Step) (steps : List Step) (answer : Answer)
    (answers : List (Except Error Answer)) :
    kept (s :: steps) (.ok answer :: answers) = s :: kept steps answers := rfl

theorem kept_cons_error (s : Step) (steps : List Step) (e : Error)
    (answers : List (Except Error Answer)) :
    kept (s :: steps) (.error e :: answers) = kept steps answers := rfl

/-- A run goes the same way without the additions that fail, and none of the others then does. -/
theorem run_kept (t : τ) (as : List Addition) :
    run t (kept (as.map .add) (run t (as.map .add)).1) =
      ((kept (as.map .add) (run t (as.map .add)).1).map fun _ => .ok .added,
        (run t (as.map .add)).2) := by
  induction as generalizing t with
  | nil => rfl
  | cons a as ih =>
    rw [List.map_cons, run_cons]
    -- the addition is kept and succeeds once more, or is left out of a target it has not changed
    rcases extend_cases t a with ⟨p, t', -, -, h⟩ | ⟨e, h⟩
    · have hp : perform t (.add a) = (.ok .added, t') := by simp only [perform, h, Except.map]
      rw [hp, kept_cons_ok, run_cons, hp, ih t', List.map_cons]
    · have hp : perform t (.add a) = (.error e, t) := by simp only [perform, h, Except.map]
      rw [hp, kept_cons_error, ih t]

end Target

/-! ## Runs without a refusal -/

/-- The predicates that a step adds one after another; none if it is not understood. -/
def Step.predicates : Step → List Predicate
  | .add a => match a.predicate? with
    | .ok p => [p]
    | .error _ => []
  | .batch c rs => match c.predicates rs with
    | .ok ps => ps
    | .error _ => []

/-- What a step answers when none of its predicates is refused. -/
def Step.answer : Step → Except Error Answer
  | .add a => a.predicate?.map fun _ => .added
  | .batch c rs => (c.predicates rs).map fun ps => .counted ps.length

namespace Target

variable {τ : Type} [Target τ] {t t' : τ}

theorem perform_of_foldlM {s : Step} (h : s.predicates.foldlM add t = .ok t') :
    perform t s = (s.answer, t') := by
  cases s with
  | add a =>
    rw [perform, extend_eq_step, Step.answer]
    rw [Step.predicates] at h
    cases hp : a.predicate? with
    | error e =>
      rw [hp] at h
      cases h
      rfl
    | ok p =>
      rw [hp, List.foldlM_cons] at h
      obtain ⟨t'', ha, h⟩ := Sql.bind_eq_ok.1 h
      cases h
      rw [step_of_add ha]
      rfl
  | batch c rs =>
    rw [perform, addRequests, Step.answer]
    rw [Step.predicates] at h
    cases hp : c.predicates rs with
    | error e =>
      rw [hp] at h
      cases h
      rfl
    | ok ps =>
      rw [hp] at h
      simp only [addAll_of_foldlM h]
      rfl

/-- Steps none of whose predicates is refused add all of them, and answer what any target
answers. -/
theorem run_of_foldlM {steps : List Step}
    (h : (steps.flatMap Step.predicates).foldlM add t = .ok t') :
    run t steps = (steps.map Step.answer, t') := by
  induction steps generalizing t with
  | nil =>
    cases h
    rfl
  | cons s steps ih =>
    rw [List.flatMap_cons, List.foldlM_append] at h
    obtain ⟨mid, hs, hrest⟩ := Sql.bind_eq_ok.1 h
    rw [run_cons, perform_of_foldlM hs, ih hrest, List.map_cons]

end Target

/-! ## Runs of requests -/

/-- Whether a step adds only what requests ask for. -/
def Step.IsRequest : Step → Prop
  | .add (.request _ _) | .batch _ _ => True
  | _ => False

namespace Target

section Requests

variable {τ : Type} [Target τ] {t t' : τ} {P : τ → Prop}
  (hadd : ∀ {t t' : τ} {f : Field} {r : Request} {p : Predicate}, f.predicate r = .ok p →
    add t p = .ok t' → P t → P t')

include hadd

theorem foldlM_requests {ps : List Predicate} (ht : P t)
    (hps : ∀ p ∈ ps, ∃ (f : Field) (r : Request), f.predicate r = .ok p)
    (h : ps.foldlM add t = .ok t') : P t' := by
  induction ps generalizing t with
  | nil =>
    cases h
    exact ht
  | cons p ps ih =>
    obtain ⟨⟨f, r, hp⟩, hps⟩ := List.forall_mem_cons.1 hps
    rw [List.foldlM_cons] at h
    obtain ⟨mid, ha, h⟩ := Sql.bind_eq_ok.1 h
    exact ih (hadd hp ha ht) hps h

theorem addRequests_requests (ht : P t) (c : Catalog) (rs : List Request) :
    P (addRequests t c rs).2 := by
  unfold addRequests
  cases hps : c.predicates rs with
  | error e => exact ht
  | ok ps =>
    have haccepted : ∀ p ∈ ps, ∃ (f : Field) (r : Request), f.predicate r = .ok p := by
      intro p hp
      obtain ⟨r, -, hr⟩ := (Catalog.mem_predicates hps).1 hp
      obtain ⟨f, -, hf⟩ := Sql.bind_eq_ok.1 hr
      exact ⟨f, r, hf⟩
    rcases addAll_cases t ps with ⟨t', h, hf⟩ | ⟨front, p, back, t', e, rfl, hf, -, h⟩
    · simp only [h]
      exact foldlM_requests hadd ht haccepted hf
    · -- those before the first that is refused stay
      simp only [h]
      exact foldlM_requests hadd ht (fun p hp => haccepted p (List.mem_append_left _ hp)) hf

theorem perform_request (ht : P t) {s : Step} (hs : s.IsRequest) : P (perform t s).2 := by
  cases s with
  | batch c rs => exact addRequests_requests hadd ht c rs
  | add a =>
    show P (extend t a).2
    rcases extend_cases t a with ⟨p, t', hp, ha, h⟩ | ⟨e, h⟩
    · rw [h]
      cases a with
      | request f r => exact hadd hp ha ht
      | _ => exact hs.elim
    · rw [h]
      exact ht

/-- What every accepted request keeps, a run of requests keeps, whichever of them fail. -/
theorem run_requests (ht : P t) {steps : List Step} (h : ∀ s ∈ steps, s.IsRequest) :
    P (run t steps).2 := by
  induction steps generalizing t with
  | nil => exact ht
  | cons s steps ih =>
    obtain ⟨hs, hsteps⟩ := List.forall_mem_cons.1 h
    rw [run_cons]
    exact ih (perform_request hadd ht hs) hsteps

end Requests

end Target

/-! ## Targets that answer alike -/

namespace Target

variable {σ τ : Type} [Target σ] [Target τ] {f : σ → τ}

section Alike

variable (hf : ∀ s p, add (f s) p = (add s p).map f)

include hf

theorem step_alike (s : σ) (p : Except Error Predicate) :
    step (f s) p = ((step s p).1, f (step s p).2) := by
  cases p with
  | error e => rfl
  | ok p => cases h : add s p <;> simp [step, hf, h, Except.map]

theorem addAll_alike (s : σ) (ps : List Predicate) :
    addAll (f s) ps = ((addAll s ps).1, f (addAll s ps).2) := by
  induction ps generalizing s with
  | nil => rfl
  | cons p ps ih =>
    cases h : add s p with
    | error e => simp [addAll, hf, h, Except.map]
    | ok s' => simpa [addAll, hf, h, Except.map] using ih s'

theorem addRequests_alike (s : σ) (c : Catalog) (rs : List Request) :
    addRequests (f s) c rs = ((addRequests s c rs).1, f (addRequests s c rs).2) := by
  unfold addRequests
  cases c.predicates rs with
  | error e => rfl
  | ok ps =>
    simp only [addAll_alike hf]
    rcases addAll s ps with ⟨outcome, s'⟩
    cases outcome <;> rfl

theorem perform_alike (s : σ) (st : Step) :
    perform (f s) st = ((perform s st).1, f (perform s st).2) := by
  cases st with
  | add a => simp only [perform, extend_eq_step, step_alike hf]
  | batch c rs => simp only [perform, addRequests_alike hf]

/-- Targets that answer additions alike answer runs alike. -/
theorem run_alike (s : σ) (steps : List Step) :
    run (f s) steps = ((run s steps).1, f (run s steps).2) := by
  induction steps generalizing s with
  | nil => rfl
  | cons st steps ih => simp only [run_cons, perform_alike hf, ih]

end Alike

end Target

end RowSieve.Filter
