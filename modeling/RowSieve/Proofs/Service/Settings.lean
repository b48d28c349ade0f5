/-
Settings member by member. A file laid over others decides the members that it gives and leaves all
others as they were, also those of a section of which it gives some; so files can be laid over each
other in any grouping, and each setting that a server runs with is the first that is given, from
the arguments down.
-/
import Mathlib.Data.List.Induction
import RowSieve.Proofs.Sql.Resolution
import RowSieve.Service.Settings

namespace RowSieve.Service

open RowSieve.CommandLine (Arguments)
open RowSieve.Files (Path)
open RowSieve.Sql (bind_eq_ok)

/-! ## Sections -/

section Sections

variable {α β : Type} {blank : α} {overlay : α → α → α}

/-- Laying over keeps what is laid over nothing, and does not depend on grouping. -/
structure LaysOver (blank : α) (overlay : α → α → α) : Prop where
  blank_overlay : ∀ x, overlay blank x = x
  assoc : ∀ x y z, overlay (overlay x y) z = overlay x (overlay y z)

/-- A section that is laid over another decides the field if it gives it. -/
structure Decides (blank : α) (overlay : α → α → α) (field : α → Option β) : Prop where
  blank_eq : field blank = none
  overlay_eq : ∀ base upper, field (overlay base upper) = (field upper).or (field base)

theorem overlaySection_none (h : LaysOver blank overlay) (x? : Option α) :
    overlaySection blank overlay none x? = x? := by
  cases x? with
  | none => rfl
  | some x => exact congrArg some (h.blank_overlay x)

theorem overlaySection_assoc (h : LaysOver blank overlay) (x? y? z? : Option α) :
    overlaySection blank overlay (overlaySection blank overlay x? y?) z? =
      overlaySection blank overlay x? (overlaySection blank overlay y? z?) := by
  rcases z? with _ | z
  · rfl
  · rcases y? with _ | y
    · exact congrArg (fun z => some (overlay (x?.getD blank) z)) (h.blank_overlay z).symm
    · exact congrArg some (h.assoc _ y z)

/-- A section without the field is as good as none. -/
theorem Decides.overlaySection {field : α → Option β} (h : Decides blank overlay field)
    (base? upper? : Option α) : (overlaySection blank overlay base? upper?).bind field =
      (upper?.bind field).or (base?.bind field) := by
  cases upper? with
  | none => rfl
  | some upper =>
    cases base? with
    | none => exact (h.overlay_eq blank upper).trans (by rw [h.blank_eq]; rfl)
    | some base => exact h.overlay_eq base upper

end Sections

theorem ServerSection.laysOver : LaysOver blank overlay where
  blank_overlay x := by simp [overlay, blank]
  assoc x y z := by simp [overlay, Option.or_assoc]

theorem DatabaseSection.laysOver : LaysOver blank overlay where
  blank_overlay x := by simp [overlay, blank]
  assoc x y z := by simp [overlay, Option.or_assoc]

theorem FilterSection.laysOver : LaysOver blank overlay where
  blank_overlay x := by simp [overlay, blank]
  assoc x y z := by simp [overlay, Option.or_assoc]

/-! ## First values -/

/-- The first value that is given. -/
def firstGiven? {α : Type} : List (Option α) → Option α
  | [] => none
  | none :: lower => firstGiven? lower
  | some v :: _ => some v

/-- The first value that is given, or else the default. -/
def firstGiven {α : Type} (standard : α) (layers : List (Option α)) : α :=
  (firstGiven? layers).getD standard

theorem firstGiven?_cons {α : Type} (v? : Option α) (lower : List (Option α)) :
    firstGiven? (v? :: lower) = v?.or (firstGiven? lower) := by
  cases v? <;> rfl

/-! ## Members of files -/

/-- A member of a file of settings, with the type of its value. -/
inductive Member : Type → Type where
  | host : Member String
  | port : Member Nat
  | databasePath : Member String
  | seedDemo : Member Bool
  | maxFilters : Member Nat
  | maxJsonBytes : Member Nat
  | debug : Member Bool

namespace SettingsFile

variable {α : Type}

/-- The member, if the file gives it. -/
def member? (f : SettingsFile) : Member α → Option α
  | .host => f.server?.bind (·.host?)
  | .port => f.server?.bind (·.port?)
  | .databasePath => f.database?.bind (·.path?)
  | .seedDemo => f.database?.bind (·.seedDemo?)
  | .maxFilters => f.filters?.bind (·.maxFilters?)
  | .maxJsonBytes => f.filters?.bind (·.maxJsonBytes?)
  | .debug => f.debug?

/-- A file laid over another decides the members that it gives, and no others. -/
theorem member?_overlay (base upper : SettingsFile) (m : Member α) :
    (base.overlay upper).member? m = (upper.member? m).or (base.member? m) := by
  cases m with
  | debug => rfl
  | host | port => exact Decides.overlaySection ⟨rfl, fun _ _ => rfl⟩ _ _
  | databasePath | seedDemo => exact Decides.overlaySection ⟨rfl, fun _ _ => rfl⟩ _ _
  | maxFilters | maxJsonBytes => exact Decides.overlaySection ⟨rfl, fun _ _ => rfl⟩ _ _

example : overlay ⟨some ⟨some "base.host", some 1000⟩, none, some ⟨some 5, none⟩, none, []⟩
    ⟨some ⟨none, some 2000⟩, none, none, some true, []⟩ =
      ⟨some ⟨some "base.host", some 2000⟩, none, some ⟨some 5, none⟩, some true, []⟩ := rfl

theorem member?_blank (m : Member α) : blank.member? m = none := by
  cases m <;> rfl

theorem overlay_assoc (a b c : SettingsFile) :
    (a.overlay b).overlay c = a.overlay (b.overlay c) := by
  simp only [overlay, overlaySection_assoc ServerSection.laysOver,
    overlaySection_assoc DatabaseSection.laysOver, overlaySection_assoc FilterSection.laysOver,
    Option.or_assoc]

theorem overlay_blank (a : SettingsFile) : a.overlay blank = a := by
  simp [overlay, blank, overlaySection]

/-- Laid over nothing, a file keeps all that is a setting. -/
theorem blank_overlay (a : SettingsFile) : blank.overlay a = { a with unknown := [] } := by
  simp only [overlay, blank, overlaySection_none ServerSection.laysOver,
    overlaySection_none DatabaseSection.laysOver, overlaySection_none FilterSection.laysOver,
    Option.or_none]

/-- Files laid over each other, the last of them topmost. -/
def stack (files : List SettingsFile) : SettingsFile := files.foldl overlay blank

/-- The topmost file that gives a member decides it. -/
theorem member?_stack (files : List SettingsFile) (m : Member α) :
    (stack files).member? m = firstGiven? (files.reverse.map (·.member? m)) := by
  induction files using List.reverseRecOn with
  | nil => exact member?_blank m
  | append_singleton files top ih =>
    rw [stack, List.foldl_append, List.foldl_cons, List.foldl_nil, member?_overlay,
      List.reverse_append, List.reverse_singleton, List.singleton_append, List.map_cons,
      firstGiven?_cons, ← ih]
    rfl

/-- The member, if there is a file and it gives it. -/
def told (file? : Option SettingsFile) (m : Member α) : Option α := file?.bind (·.member? m)

theorem member?_stack_two (profile? overlay? : Option SettingsFile) (m : Member α) :
    (stack (profile?.toList ++ overlay?.toList)).member? m =
      firstGiven? [told overlay? m, told profile? m] := by
  rw [member?_stack]
  cases profile? <;> cases overlay? <;> simp [told, firstGiven?_cons]

theorem member?_getD (file? : Option SettingsFile) (m : Member α) :
    (file?.getD blank).member? m = told file? m := by
  cases file? with
  | none => exact member?_blank m
  | some file => rfl

end SettingsFile

/-! ## Settings of a server -/

namespace Settings

open SettingsFile (told)

/-- Each setting is the first that is given: by the arguments, which switch demo data and debug mode
on or leave them to the files; by the file on top; by the profile; or else by default. -/
structure Resolves (s : Surroundings) (args : Arguments) (profile? overlay? : Option SettingsFile)
    (settings : Settings) : Prop where
  host : settings.host =
    firstGiven defaultHost [args.host?, told overlay? .host, told profile? .host]
  port : settings.port =
    firstGiven defaultPort [args.port?, told overlay? .port, told profile? .port]
  databasePath : settings.databasePath? =
    (firstGiven? [args.dbPath?, told overlay? .databasePath, told profile? .databasePath]).map
      fun p => s.expand p.toList
  seedDemo : settings.seedDemo =
    if args.seedDemo then true
    else firstGiven false [told overlay? .seedDemo, told profile? .seedDemo]
  maxRequests : settings.limits.maxRequests =
    firstGiven Filter.Limits.standard.maxRequests
      [args.maxFilters?, told overlay? .maxFilters, told profile? .maxFilters]
  maxJsonBytes : settings.limits.maxJsonBytes =
    firstGiven Filter.Limits.standard.maxJsonBytes
      [told overlay? .maxJsonBytes, told profile? .maxJsonBytes]
  debug : settings.debug =
    if args.debug then true else firstGiven false [told overlay? .debug, told profile? .debug]

/-- Settings that a server can run with. -/
structure Fit (settings : Settings) : Prop where
  host_ne : settings.host ≠ ""
  port_ne : settings.port ≠ 0
  maxRequests_ne : settings.limits.maxRequests ≠ 0
  maxJsonBytes_ne : settings.limits.maxJsonBytes ≠ 0

variable {s : Surroundings} {args : Arguments}

/-- Only the members of a file count. -/
theorem layered_eq (s : Surroundings) (args : Arguments) (file : SettingsFile) :
    layered s args file =
      { host := (args.host?.or (file.member? .host)).getD defaultHost
        port := (args.port?.or (file.member? .port)).getD defaultPort
        databasePath? :=
          (args.dbPath?.or (file.member? .databasePath)).map fun p => s.expand p.toList
        seedDemo := args.seedDemo || (file.member? .seedDemo).getD false
        limits :=
          ⟨(args.maxFilters?.or (file.member? .maxFilters)).getD Filter.Limits.standard.maxRequests,
            (file.member? .maxJsonBytes).getD Filter.Limits.standard.maxJsonBytes⟩
        debug := args.debug || (file.member? .debug).getD false } := by
  obtain ⟨server?, database?, filters?, debug?, unknown⟩ := file
  cases server? <;> cases database? <;> cases filters? <;> rfl

theorem resolves_layered (s : Surroundings) (args : Arguments)
    (profile? overlay? : Option SettingsFile) : Resolves s args profile? overlay?
      (layered s args (SettingsFile.stack (profile?.toList ++ overlay?.toList))) := by
  have hswitch (on : Bool) (files : List (Option Bool)) :
      (on || firstGiven false files) = if on then true else firstGiven false files := by
    cases on <;> rfl
  simp only [layered_eq, SettingsFile.member?_stack_two]
  constructor
  case seedDemo => exact hswitch _ _
  case debug => exact hswitch _ _
  all_goals simp only [firstGiven, firstGiven?_cons]

theorem unfit?_eq_none {settings : Settings} : settings.unfit? = none ↔ settings.Fit := by
  have refused {what : Unfit} (h : ¬ settings.Fit) : some what = none ↔ settings.Fit :=
    iff_of_false (fun h' => (by cases h')) h
  unfold unfit?
  split
  · rename_i hhost
    exact refused fun h => h.host_ne (String.isEmpty_iff.1 hhost)
  · rename_i hhost
    split
    · rename_i hport
      exact refused fun h => h.port_ne hport
    · rename_i hport
      split
      · rename_i hrequests
        exact refused fun h => h.maxRequests_ne hrequests
      · rename_i hrequests
        split
        · rename_i hbytes
          exact refused fun h => h.maxJsonBytes_ne hbytes
        · rename_i hbytes
          exact iff_of_true rfl ⟨mt String.isEmpty_iff.2 hhost, hport, hrequests, hbytes⟩

/-! ## Files that are found -/

/-- What is found at a path: nothing, or a file that says something. -/
inductive Finds (s : Surroundings) (p : Path) : Option SettingsFile → Prop where
  | nothing : s.exists? p = false → Finds s p none
  | file {text : String} {file : SettingsFile} : s.exists? p = true → s.readText p = .ok text →
      SettingsFile.ofText text = .ok file → Finds s p (some file)

/-- What is found on top: a file that is asked for has to be there. -/
inductive FindsTopmost (s : Surroundings) (args : Arguments) : Option SettingsFile → Prop where
  | here {file? : Option SettingsFile} : args.config? = none → Finds s fileName file? →
      FindsTopmost s args file?
  | asked {path : String} {file : SettingsFile} : args.config? = some path →
      Finds s (s.expand path.toList) (some file) → FindsTopmost s args (some file)

variable {p : Path} {file : SettingsFile}

theorem readFile_eq_ok : readFile s p = .ok file ↔
    ∃ text, s.readText p = .ok text ∧ SettingsFile.ofText text = .ok file := by
  unfold readFile
  cases s.readText p with
  | error fault => simp
  | ok text => cases hfile : SettingsFile.ofText text <;> simp [Except.mapError, hfile]

theorem finds_none : Finds s p none ↔ s.exists? p = false :=
  ⟨fun h => by cases h; assumption, .nothing⟩

theorem finds_some : Finds s p (some file) ↔ s.exists? p = true ∧ readFile s p = .ok file := by
  rw [readFile_eq_ok]
  constructor
  · rintro (_ | ⟨hexists, htext, hfile⟩)
    exact ⟨hexists, _, htext, hfile⟩
  · rintro ⟨hexists, text, htext, hfile⟩
    exact .file hexists htext hfile

/-- A file that may be missing says nothing if it is. -/
theorem readFile?_eq_ok : readFile? s p = .ok file ↔
    ∃ file?, Finds s p file? ∧ file = file?.getD .blank := by
  unfold readFile?
  cases hexists : s.exists? p <;>
    simp [Option.exists, finds_none, finds_some, hexists, eq_comm]

theorem readTopmost_eq_ok : readTopmost s args = .ok file ↔
    ∃ file?, FindsTopmost s args file? ∧ file = file?.getD .blank := by
  unfold readTopmost
  constructor
  · intro h
    split at h
    · rename_i hconfig
      obtain ⟨file?, hfound, rfl⟩ := readFile?_eq_ok.1 h
      exact ⟨file?, .here hconfig hfound, rfl⟩
    · rename_i path hconfig
      simp only at h
      split at h
      · rename_i hexists
        exact ⟨some file, .asked hconfig (finds_some.2 ⟨hexists, h⟩), rfl⟩
      · cases h
  · rintro ⟨file?, hfound, rfl⟩
    cases hfound with
    | here hconfig hfound =>
      rw [hconfig]
      exact readFile?_eq_ok.2 ⟨file?, hfound, rfl⟩
    | asked hconfig hfound =>
      obtain ⟨hexists, hfile⟩ := finds_some.1 hfound
      simp only [hconfig, hexists, if_true]
      exact hfile

/-- There are settings when every file that is there says something, a file that is asked for is
there, and the settings that result are fit for a server. -/
theorem load_eq_ok {settings : Settings} : load s args = .ok settings ↔
    ∃ profile? overlay?, Finds s (profilePath s) profile? ∧ FindsTopmost s args overlay? ∧
      settings = layered s args (SettingsFile.stack (profile?.toList ++ overlay?.toList)) ∧
        settings.Fit := by
  have hlayered (profile? overlay? : Option SettingsFile) :
      layered s args ((profile?.getD .blank).overlay (overlay?.getD .blank)) =
        layered s args (SettingsFile.stack (profile?.toList ++ overlay?.toList)) := by
    simp only [layered_eq, SettingsFile.member?_stack_two, SettingsFile.member?_overlay,
      SettingsFile.member?_getD, firstGiven?_cons, firstGiven?, Option.or_none]
  unfold load
  constructor
  · intro h
    obtain ⟨profile, hprofile, h⟩ := bind_eq_ok.1 h
    obtain ⟨topmost, htopmost, h⟩ := bind_eq_ok.1 h
    obtain ⟨profile?, hfound, rfl⟩ := readFile?_eq_ok.1 hprofile
    obtain ⟨overlay?, hontop, rfl⟩ := readTopmost_eq_ok.1 htopmost
    simp only [hlayered] at h
    split at h
    · cases h
    · rename_i hunfit
      cases h
      exact ⟨profile?, overlay?, hfound, hontop, rfl, unfit?_eq_none.1 hunfit⟩
  · rintro ⟨profile?, overlay?, hfound, hontop, rfl, hfit⟩
    refine bind_eq_ok.2 ⟨_, readFile?_eq_ok.2 ⟨profile?, hfound, rfl⟩,
      bind_eq_ok.2 ⟨_, readTopmost_eq_ok.2 ⟨overlay?, hontop, rfl⟩, ?_⟩⟩
    simp only [hlayered, unfit?_eq_none.2 hfit]

end Settings

/-! ## Layers -/

/-- Laying files over each other is associative, with the blank file as its unit as far as settings
go. A file decides the members that it gives and keeps all others, whichever sections it has. Every
setting that comes of arguments, profile and overlay is the first that is given. A server gets its
settings from the files that are found, and only if they are fit. -/
theorem layers_resolve_by_member :
    (∀ a b c : SettingsFile, (a.overlay b).overlay c = a.overlay (b.overlay c)) ∧
    (∀ a : SettingsFile, a.overlay .blank = a ∧
      SettingsFile.blank.overlay a = { a with unknown := [] }) ∧
    (∀ (base upper : SettingsFile) {α : Type} (m : Member α),
      (base.overlay upper).member? m = firstGiven? [upper.member? m, base.member? m]) ∧
    ∀ (s : Surroundings) (args : Arguments),
      (∀ profile? overlay? : Option SettingsFile, Settings.Resolves s args profile? overlay?
        (Settings.layered s args (SettingsFile.stack (profile?.toList ++ overlay?.toList)))) ∧
      ∀ settings, Settings.load s args = .ok settings ↔
        ∃ profile? overlay?, Settings.Finds s (Settings.profilePath s) profile? ∧
          Settings.FindsTopmost s args overlay? ∧ settings =
            Settings.layered s args (SettingsFile.stack (profile?.toList ++ overlay?.toList)) ∧
          settings.Fit := by
  refine ⟨SettingsFile.overlay_assoc,
    fun a => ⟨SettingsFile.overlay_blank a, SettingsFile.blank_overlay a⟩,
    fun base upper α m => ?_,
    fun s args => ⟨Settings.resolves_layered s args, fun settings => Settings.load_eq_ok⟩⟩
  rw [SettingsFile.member?_overlay, firstGiven?_cons, firstGiven?_cons, firstGiven?, Option.or_none]

end RowSieve.Service
