/-
What users mean by a path. Joined to a directory, a path goes on below it unless it is absolute.
What a user writes is anchored at the home directory behind a tilde and at the current directory
otherwise, so the result is absolute and means itself; only a path that is absolute behind the
tilde and its separator leaves the home directory.
-/
import RowSieve.Files.Path
import RowSieve.Proofs.Text.Cutting

namespace RowSieve.Files.Path

open RowSieve.Text (isBlank trim)

variable {home current base rest p : Path}

/-! ## Joined paths -/

theorem names_append (a b : Path) : names (a ++ '/' :: b) = a.names ++ b.names := by
  rw [names, names, names, steps, steps, steps, Text.split_append, List.filter_append]

/-- A path that is joined to a directory goes where this goes and then on. -/
theorem names_join (h : rest.isAbsolute = false) (base : Path) :
    (base.join rest).names = base.names ++ rest.names := by
  rw [join, if_neg (by simp [h])]
  split
  · rename_i hlast
    cases hbase : base.getLast? with
    | none =>
      rw [List.getLast?_eq_none_iff.1 hbase]
      rfl
    | some c =>
      -- The separator that ends the base is the one between the two.
      obtain ⟨front, rfl⟩ := List.getLast?_eq_some_iff.1 hbase
      obtain rfl : c = '/' := by simpa using hlast
      have hnames : names (front ++ ['/']) = names front := by
        rw [names_append]
        exact List.append_nil _
      rw [List.append_assoc, List.singleton_append, names_append, hnames]
  · exact names_append base rest

theorem ne_nil_of_isAbsolute (h : p.isAbsolute) : p ≠ [] := by
  rintro rfl
  cases h

/-- The path is the directory `base` or goes on below it. -/
def Above (base p : Path) : Prop := base.isAbsolute ∧ p.isAbsolute ∧ base.names <+: p.names

instance (base p : Path) : Decidable (Above base p) := inferInstanceAs (Decidable (_ ∧ _ ∧ _))

theorem above_join (hbase : base.isAbsolute) (h : rest.isAbsolute = false) :
    Above base (base.join rest) := by
  refine ⟨hbase, isAbsolute_join hbase rest, ?_⟩
  rw [names_join h]
  exact List.prefix_append _ _

/-! ## Paths without blanks at the ends -/

/-- Whether no blank ends the path. -/
def EndsPlain (p : Path) : Prop := ∀ c ∈ p.getLast?, isBlank c = false

theorem endsPlain_of_trim (h : trim p = p) : EndsPlain p := by
  rw [← h]
  exact Text.isBlank_of_getLast?_trim p

theorem EndsPlain.of_append {a b : Path} (h : EndsPlain (a ++ b)) : EndsPlain b := by
  intro c hc
  refine h c ?_
  rw [List.getLast?_append, Option.mem_def.1 hc]
  rfl

theorem EndsPlain.append {a b : Path} (ha : EndsPlain a) (hb : EndsPlain b) :
    EndsPlain (a ++ b) := by
  intro c hc
  rw [List.getLast?_append] at hc
  cases h : b.getLast? with
  | none => exact ha c (by rwa [h] at hc)
  | some d => exact hb c (by rw [h] at hc ⊢; exact hc)

theorem EndsPlain.join (hbase : EndsPlain base) (hrest : EndsPlain rest) :
    EndsPlain (base.join rest) := by
  have hslash : EndsPlain ['/'] := by
    rintro c ⟨⟩
    rfl
  unfold Path.join
  split
  · exact hrest
  · split
    · exact hbase.append hrest
    · exact hbase.append (hslash.append hrest)

theorem trim_of_endsPlain (habs : p.isAbsolute) (h : EndsPlain p) : trim p = p := by
  refine Text.trim_of_ends (fun c hc => ?_) h
  have hfirst : p.head? = some '/' := by simpa [isAbsolute] using habs
  rw [hfirst] at hc
  obtain rfl := Option.some.inj hc
  rfl

/-! ## Anchors -/

/-- The text is a tilde, a separator and `rest`. -/
inductive BehindTilde : (text rest : Path) → Prop where
  | slash (rest : Path) : BehindTilde ('~' :: '/' :: rest) rest
  | backslash (rest : Path) : BehindTilde ('~' :: '\\' :: rest) rest

/-- Where a text without blanks around it leads, from the home directory and the current one. -/
structure Anchors (home current text result : Path) : Prop where
  isAbsolute : result.isAbsolute
  tilde : text = ['~'] → result = home
  belowHome : ∀ rest, BehindTilde text rest → rest.isAbsolute = false →
    result = home.join rest ∧ Above home result
  /-- The home directory does not count where the rest is absolute. -/
  besideHome : ∀ rest, BehindTilde text rest → rest.isAbsolute → result = rest
  absolute : text.isAbsolute → result = text
  nothing : text = [] → result = current
  belowCurrent : text ≠ [] → text.isAbsolute = false → text ≠ ['~'] →
    (∀ rest, ¬BehindTilde text rest) → result = current.join text

theorem BehindTilde.ne_nil {text : Path} (h : BehindTilde text rest) : text ≠ [] := by
  cases h <;> exact List.cons_ne_nil _ _

theorem anchor_of_behindTilde {text : Path} (h : BehindTilde text rest) (home : Path) :
    anchor home text = home.join rest := by
  cases h <;> rfl

theorem anchor_of_other {text : Path} (htilde : text ≠ ['~'])
    (h : ∀ rest, ¬BehindTilde text rest) (home : Path) : anchor home text = text := by
  unfold anchor
  split
  · exact absurd rfl htilde
  · exact absurd (.slash _) (h _)
  · exact absurd (.backslash _) (h _)
  · rfl

theorem anchor_of_isAbsolute {text : Path} (h : text.isAbsolute) (home : Path) :
    anchor home text = text := by
  refine anchor_of_other ?_ ?_ home
  · rintro rfl
    cases h
  · rintro rest (_ | _) <;> cases h

theorem EndsPlain.anchor {text : Path} (hhome : EndsPlain home) (htext : EndsPlain text) :
    EndsPlain (anchor home text) := by
  unfold Path.anchor
  split
  · exact hhome
  · exact hhome.join (htext.of_append (a := ['~', '/']))
  · exact hhome.join (htext.of_append (a := ['~', '\\']))
  · exact htext

/-! ## Expanded paths -/

variable {input : Path}

theorem expand_of_trim_eq_nil (h : trim input = []) : expand home current input = current := by
  simp [expand, h]

theorem expand_of_trim_ne_nil (h : trim input ≠ []) :
    expand home current input = current.join (anchor home (trim input)) := by
  simp [expand, h]

theorem isAbsolute_expand (hcurrent : current.isAbsolute) :
    (expand home current input).isAbsolute := by
  by_cases h : trim input = []
  · rwa [expand_of_trim_eq_nil h]
  · rw [expand_of_trim_ne_nil h]
    exact isAbsolute_join hcurrent _

theorem endsPlain_expand (hhome : EndsPlain home) (hcurrent : EndsPlain current) :
    EndsPlain (expand home current input) := by
  by_cases h : trim input = []
  · rwa [expand_of_trim_eq_nil h]
  · rw [expand_of_trim_ne_nil h]
    exact hcurrent.join (hhome.anchor (Text.isBlank_of_getLast?_trim input))

/-- An absolute path without blanks around it means itself. -/
theorem expand_of_isAbsolute (habs : p.isAbsolute) (h : trim p = p) :
    expand home current p = p := by
  have hne : trim p ≠ [] := by
    rw [h]
    exact ne_nil_of_isAbsolute habs
  rw [expand_of_trim_ne_nil hne, h, anchor_of_isAbsolute habs, join_of_isAbsolute habs]

theorem anchors_expand (hhome : home.isAbsolute) (hcurrent : current.isAbsolute) :
    Anchors home current (trim input) (expand home current input) := by
  have hexpand (h : trim input ≠ []) :
      expand home current input = current.join (anchor home (trim input)) := expand_of_trim_ne_nil h
  have hbehind {rest} (h : BehindTilde (trim input) rest) :
      expand home current input = current.join (home.join rest) := by
    rw [hexpand h.ne_nil, anchor_of_behindTilde h]
  constructor
  case isAbsolute => exact isAbsolute_expand hcurrent
  case tilde =>
    intro h
    rw [hexpand (by simp [h]), h]
    exact join_of_isAbsolute hhome _
  case belowHome =>
    intro rest h hrest
    have hresult : expand home current input = home.join rest := by
      rw [hbehind h, join_of_isAbsolute (isAbsolute_join hhome rest)]
    exact ⟨hresult, hresult ▸ above_join hhome hrest⟩
  case besideHome =>
    intro rest h hrest
    rw [hbehind h, join_of_isAbsolute hrest, join_of_isAbsolute hrest]
  case absolute =>
    intro h
    rw [hexpand (ne_nil_of_isAbsolute h), anchor_of_isAbsolute h, join_of_isAbsolute h]
  case nothing => exact expand_of_trim_eq_nil
  case belowCurrent =>
    intro hne _ htilde hbehind
    rw [hexpand hne, anchor_of_other htilde hbehind]

/-- A path that a user means is absolute and found from its anchor: the home directory, the current
one, or none where it is absolute already, also behind a tilde and a separator. Expanding it once
more changes nothing. -/
theorem expansion_is_anchored (hhome : home.isAbsolute) (hcurrent : current.isAbsolute)
    (htrim : trim home = home) (htrim' : trim current = current) (input : Path) :
    Anchors home current (trim input) (expand home current input) ∧
      expand home current (expand home current input) = expand home current input := by
  have habs : (expand home current input).isAbsolute := isAbsolute_expand hcurrent
  have hends : EndsPlain (expand home current input) :=
    endsPlain_expand (endsPlain_of_trim htrim) (endsPlain_of_trim htrim')
  exact ⟨anchors_expand hhome hcurrent, expand_of_isAbsolute habs (trim_of_endsPlain habs hends)⟩

theorem expansion_is_anchored_backslash :
    (isAbsolute "/home/ada".toList ∧ isAbsolute "/srv".toList ∧
      trim "/home/ada".toList = "/home/ada".toList ∧ trim "/srv".toList = "/srv".toList) ∧
    Anchors "/home/ada".toList "/srv".toList "~\\data//x".toList "/home/ada/data//x".toList ∧
    expand "/home/ada".toList "/srv".toList "/home/ada/data//x".toList =
      "/home/ada/data//x".toList := by
  have habs : isAbsolute "/home/ada".toList ∧ isAbsolute "/srv".toList := by decide
  have htrim : trim "/home/ada".toList = "/home/ada".toList ∧
      trim "/srv".toList = "/srv".toList := by decide
  have htext : trim " ~\\data//x\n".toList = "~\\data//x".toList := by decide
  have hresult : expand "/home/ada".toList "/srv".toList " ~\\data//x\n".toList =
      "/home/ada/data//x".toList := by decide
  have hanchored := expansion_is_anchored habs.1 habs.2 htrim.1 htrim.2 " ~\\data//x\n".toList
  rw [htext, hresult] at hanchored
  exact ⟨⟨habs.1, habs.2, htrim⟩, hanchored⟩

/-- Two separators behind the tilde lead out of the home directory. -/
theorem doubled_separator_leaves_home :
    ¬∀ home current input : Path, home.isAbsolute → current.isAbsolute → trim home = home →
      trim current = current → ['~', '/'] <+: trim input →
        Above home (expand home current input) := by
  intro hall
  have habove := hall "/home/ada".toList "/srv".toList "~//etc".toList (by decide) (by decide)
    (by decide) (by decide) (by decide)
  exact absurd habove (by decide)

end RowSieve.Files.Path
