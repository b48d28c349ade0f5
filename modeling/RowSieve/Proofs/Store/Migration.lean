/-
What bringing a file to the current version does. No run changes the rows of the tables or takes
back a record of the history, and one that fails changes nothing. After a run that succeeds a file
that had a version, or no table of versions, has the current version or a later one, and a second
run leaves it as it is. A table of versions without a row is read as version zero and stays without
one: the change is only in the history, where it stands in the way of every later run. All this
holds whenever the runs are made and however long they take.
-/
import RowSieve.Store.Migration

namespace RowSieve

theorem Number.Bounds.check_eq_ok {b : Number.Bounds} {n m : Int} :
    b.check n = .ok m ↔ b.Contains n ∧ m = n := by
  unfold check Contains
  by_cases hlo : n < b.lo
  · simp [hlo, Int.not_le.2 hlo]
  · by_cases hhi : b.hi < n
    · simp [hlo, hhi, Int.not_le.2 hhi]
    · simp [hlo, hhi, Int.not_lt.1 hlo, Int.not_lt.1 hhi, eq_comm]

namespace Store.File

variable {f f' : File} {stamp : Stamp} {stamps : Int → Stamp}

/-! ## The history -/

/-- Whether the history has a record of a version. -/
def Recorded (f : File) (version : Int) : Prop := ∃ row ∈ f.history, row.version = version

/-- The file with a record behind its history. -/
def recorded (f : File) (stamp : Stamp) (version : Int) (name statements : String) : File :=
  { f with history? := f.history?.map fun rows => rows ++ [entry stamp version name statements] }

section Record

variable {version : Int} {name statements : String}

theorem recorded_iff {rows : List HistoryRow} (h : f.history? = some rows) :
    f.Recorded version ↔ ∃ row ∈ rows, row.version = version := by
  simp only [Recorded, history, h, List.mem_mergeSort, Option.getD_some]

theorem record_of_recorded (hrows : f.history? ≠ none) (h : f.Recorded version) :
    f.record stamp version name statements =
      .error (.statement (.primaryKey "schema_migrations" "version")) := by
  obtain ⟨rows, hrows⟩ := Option.ne_none_iff_exists'.1 hrows
  have hany : rows.any (·.version == version) = true := by
    simpa using (recorded_iff hrows).1 h
  simp only [record, hrows, hany, if_true]

theorem record_of_new (hrows : f.history? ≠ none) (h : ¬f.Recorded version) :
    f.record stamp version name statements = .ok (f.recorded stamp version name statements) := by
  obtain ⟨rows, hrows⟩ := Option.ne_none_iff_exists'.1 hrows
  have hany : ¬rows.any (·.version == version) = true := by
    simpa using mt (recorded_iff hrows).2 h
  simp only [record, recorded, hrows, hany, Option.map_some]
  rfl

/-- A change is recorded once. -/
theorem record_eq_ok : f.record stamp version name statements = .ok f' ↔
    f.history? ≠ none ∧ ¬f.Recorded version ∧ f' = f.recorded stamp version name statements := by
  constructor
  · intro h
    have hrows : f.history? ≠ none := by
      intro hnone
      simp [record, hnone] at h
    have hnew : ¬f.Recorded version := by
      intro hrecorded
      rw [record_of_recorded hrows hrecorded] at h
      cases h
    rw [record_of_new hrows hnew] at h
    exact ⟨hrows, hnew, (Except.ok.inj h).symm⟩
  · rintro ⟨hrows, hnew, rfl⟩
    exact record_of_new hrows hnew

theorem recorded_recorded (hrows : f.history? ≠ none) :
    (f.recorded stamp version name statements).Recorded version := by
  obtain ⟨rows, hrows⟩ := Option.ne_none_iff_exists'.1 hrows
  rw [recorded_iff (congrArg (Option.map _) hrows)]
  exact ⟨_, List.mem_append_right _ (.head _), rfl⟩

end Record

/-! ## What no run changes -/

/-- The rows of the tables are the same, and the records of the history are the first ones. -/
structure Keeps (f f' : File) : Prop where
  data : f'.data = f.data
  history : f.history?.getD [] <+: f'.history?.getD []

theorem Keeps.refl (f : File) : f.Keeps f := ⟨rfl, List.prefix_rfl⟩

theorem Keeps.trans {f'' : File} (h : f.Keeps f') (h' : f'.Keeps f'') : f.Keeps f'' :=
  ⟨h'.data.trans h.data, h.history.trans h'.history⟩

theorem Keeps.recorded {version : Int} {name statements : String} (h : f.Keeps f') :
    f.Keeps (f'.recorded stamp version name statements) := by
  refine h.trans ⟨rfl, ?_⟩
  simp only [File.recorded]
  cases f'.history? with
  | none => exact List.prefix_rfl
  | some rows => exact List.prefix_append _ _

/-! ## Single versions -/

/-- The file with the tables and indexes that were missing, at the current version. -/
def withSchema (f : File) (stamp : Stamp) : File :=
  { f.createMissing with
    versions? := some (some ⟨Schema.version, stamp.time, some "Initial schema"⟩) }.recorded
    stamp Schema.version "initial_schema" Schema.statements

/-- The file at version two, which the table of versions tells if it has a row. -/
def atSecond (f : File) (stamp : Stamp) : File :=
  { f with
    hasNameIndex := true
    versions? := f.versions?.map fun (row? : Option VersionRow) =>
      row?.map fun _ => ⟨2, stamp.time, some secondVersionName⟩ }.recorded
    stamp 2 secondVersionName Schema.secondVersion

theorem applySchema_eq_ok : f.applySchema stamp = .ok f' ↔
    ¬f.Recorded Schema.version ∧ f' = f.withSchema stamp := by
  rw [applySchema, record_eq_ok]
  exact and_iff_right (by simp [createMissing])

theorem applySecond_eq_ok : f.applySecond stamp = .ok f' ↔
    f.hasLineItems = true ∧ f.history? ≠ none ∧ ¬f.Recorded 2 ∧ f' = f.atSecond stamp := by
  cases hitems : f.hasLineItems with
  | false => simp [applySecond, hitems]
  | true =>
    rw [applySecond, if_neg (by simp [hitems]), record_eq_ok]
    exact (and_iff_right rfl).symm

theorem applySecond_of_recorded (hitems : f.hasLineItems = true) (hrows : f.history? ≠ none)
    (h : f.Recorded 2) : f.applySecond stamp =
      .error (.statement (.primaryKey "schema_migrations" "version")) := by
  rw [applySecond, if_neg (by simp [hitems])]
  exact record_of_recorded hrows h

theorem applySchema_keeps (h : f.applySchema stamp = .ok f') : f.Keeps f' := by
  obtain ⟨-, rfl⟩ := applySchema_eq_ok.1 h
  exact Keeps.recorded ⟨rfl, List.prefix_rfl⟩

theorem applyVersion_keeps {version : Int} (h : f.applyVersion stamp version = .ok f') :
    f.Keeps f' := by
  unfold applyVersion at h
  split at h
  · cases h
    exact Keeps.refl f
  · split at h
    · obtain ⟨-, -, -, rfl⟩ := applySecond_eq_ok.1 h
      exact Keeps.recorded ⟨rfl, List.prefix_rfl⟩
    · cases h

/-! ## Runs -/

theorem applyVersions_keeps (version : Int) (steps : Nat) (f : File) :
    f.Keeps (applyVersions stamps version steps f).2 := by
  induction steps generalizing version f with
  | zero => exact Keeps.refl f
  | succ steps ih =>
    rw [applyVersions]
    split
    case h_1 f' h => exact (applyVersion_keeps h).trans (ih _ f')
    case h_2 => exact Keeps.refl f

/-- Whether a run succeeds or fails, the rows of the tables and the records stay. -/
theorem migrate_keeps (f : File) (stamps : Int → Stamp) : f.Keeps (f.migrate stamps).2 := by
  unfold migrate
  split
  · split
    case h_1 f' h => exact applySchema_keeps h
    case h_2 => exact Keeps.refl f
  · split
    case h_1 => exact Keeps.refl f
    case h_2 => exact applyVersions_keeps _ _ f

/-- The run from a version to the current one: it fails on versions that are not known, it leaves a
file that has the current version, and otherwise all that it does is the second version. -/
theorem applyVersions_current (current : Int) (f : File) :
    applyVersions stamps (current + 1) (Schema.version - current).toNat f =
      if current < 0 then (.error (unknownVersion (current + 1)), f)
      else if Schema.version ≤ current then (.ok (), f)
      else match f.applySecond (stamps 2) with
        | .ok f' => (.ok (), f')
        | .error e => (.error e, f) := by
  have hsecond : applyVersions stamps 2 1 f = match f.applySecond (stamps 2) with
      | .ok f' => (.ok (), f')
      | .error e => (.error e, f) := rfl
  have hversion : Schema.version = 2 := rfl
  by_cases hbelow : current < 0
  · obtain ⟨steps, hsteps⟩ : ∃ steps, (Schema.version - current).toNat = steps + 1 :=
      ⟨_, (Nat.succ_pred_eq_of_pos (by omega)).symm⟩
    have hunknown : f.applyVersion (stamps (current + 1)) (current + 1) =
        .error (unknownVersion (current + 1)) := by
      rw [applyVersion, if_neg (by omega), if_neg (by omega)]
    rw [if_pos hbelow, hsteps, applyVersions, hunknown]
  · rw [if_neg hbelow]
    by_cases hdone : Schema.version ≤ current
    · rw [if_pos hdone, Int.toNat_of_nonpos (by omega)]
      rfl
    · rw [if_neg hdone, ← hsecond]
      -- the step to version one does nothing, so both runs come to the same
      obtain rfl | rfl : current = 0 ∨ current = 1 := by omega
      · rfl
      · rfl

/-- The version that a file is taken to have, where there is a table of versions. -/
def readVersion (row? : Option VersionRow) : Int := (row?.map (·.version)).getD 0

/-- How a file is brought to the current version. -/
inductive Brought (stamps : Int → Stamp) (f : File) : File → Prop where
  /-- There is no table of versions. -/
  | created : f.versions? = none → ¬f.Recorded Schema.version →
      Brought stamps f (f.withSchema (stamps Schema.version))
  /-- The file has the current version, or a later one that can be read. -/
  | current {row : VersionRow} : f.versions? = some (some row) → Schema.version ≤ row.version →
      row.version ≤ Number.Bounds.signed32.hi → Brought stamps f f
  /-- The file has version zero or one, or is taken to have version zero. -/
  | second {row? : Option VersionRow} : f.versions? = some row? → 0 ≤ readVersion row? →
      readVersion row? < Schema.version → f.hasLineItems = true → f.history? ≠ none →
      ¬f.Recorded 2 → Brought stamps f (f.atSecond (stamps 2))

/-- A run that finds a table of versions. -/
theorem migrate_of_versions {row? : Option VersionRow} (h : f.versions? = some row?) {current : Int}
    (hread : Number.Bounds.signed32.check (readVersion row?) = .ok current) :
    f.migrate stamps = if current < 0 then (.error (unknownVersion (current + 1)), f)
      else if Schema.version ≤ current then (.ok (), f)
      else match f.applySecond (stamps 2) with
        | .ok f' => (.ok (), f')
        | .error e => (.error e, f) := by
  rw [readVersion] at hread
  rw [← applyVersions_current, migrate, h]
  simp only [hread]

/-- A run either brings the file to the current version or fails and changes nothing. -/
theorem migrate_ends (f : File) (stamps : Int → Stamp) :
    (∃ f', f.migrate stamps = (.ok (), f') ∧ f.Brought stamps f') ∨
      ∃ e, f.migrate stamps = (.error e, f) := by
  cases hv : f.versions? with
  | none =>
    cases hschema : f.applySchema (stamps Schema.version) with
    | error e => exact .inr ⟨e, by rw [migrate, hv]; simp only [hschema]⟩
    | ok f' =>
      obtain ⟨hnew, rfl⟩ := applySchema_eq_ok.1 hschema
      exact .inl ⟨_, by rw [migrate, hv]; simp only [hschema], .created hv hnew⟩
  | some row? =>
    cases hread : Number.Bounds.signed32.check (readVersion row?) with
    | error e =>
      rw [readVersion] at hread
      exact .inr ⟨.value 0 e.message, by rw [migrate, hv]; simp only [hread]⟩
    | ok current =>
      obtain ⟨⟨-, hhi⟩, rfl⟩ := Number.Bounds.check_eq_ok.1 hread
      rw [migrate_of_versions hv hread]
      by_cases hlo : readVersion row? < 0
      · exact .inr ⟨_, if_pos hlo⟩
      · rw [if_neg hlo]
        by_cases hdone : Schema.version ≤ readVersion row?
        · cases row? with
          | none => exact absurd hdone (by decide)
          | some row => exact .inl ⟨f, if_pos hdone, .current hv hdone hhi⟩
        · rw [if_neg hdone]
          cases hsecond : f.applySecond (stamps 2) with
          | error e => exact .inr ⟨e, rfl⟩
          | ok f' =>
            obtain ⟨hitems, hrows, hnew, rfl⟩ := applySecond_eq_ok.1 hsecond
            exact .inl ⟨_, rfl,
              .second hv (Int.not_lt.1 hlo) (Int.not_le.1 hdone) hitems hrows hnew⟩

theorem Brought.migrate (h : f.Brought stamps f') : f.migrate stamps = (.ok (), f') := by
  have hversion : 0 ≤ Schema.version ∧ Schema.version ≤ Number.Bounds.signed32.hi := by decide
  have hread {n : Int} (hlo : 0 ≤ n) (hhi : n ≤ Number.Bounds.signed32.hi) :
      Number.Bounds.signed32.check n = .ok n :=
    Number.Bounds.check_eq_ok.2 ⟨⟨Int.le_trans (by decide) hlo, hhi⟩, rfl⟩
  cases h with
  | created hv hnew =>
    rw [File.migrate, hv]
    simp only [applySchema_eq_ok.2 ⟨hnew, rfl⟩]
  | @current row hv hdone hhi =>
    have hlo : 0 ≤ readVersion (some row) := Int.le_trans hversion.1 hdone
    rw [migrate_of_versions hv (hread hlo hhi), if_neg (Int.not_lt.2 hlo)]
    exact if_pos hdone
  | second hv hlo hold hitems hrows hnew =>
    have hhi := Int.le_trans (Int.le_of_lt hold) hversion.2
    rw [migrate_of_versions hv (hread hlo hhi), if_neg (Int.not_lt.2 hlo),
      if_neg (Int.not_le.2 hold), applySecond_eq_ok.2 ⟨hitems, hrows, hnew, rfl⟩]

/-- A run succeeds just when the file can be brought to the current version. -/
theorem migrate_eq_ok : f.migrate stamps = (.ok (), f') ↔ f.Brought stamps f' := by
  refine ⟨fun h => ?_, Brought.migrate⟩
  rcases migrate_ends f stamps with ⟨g, hg, hbrought⟩ | ⟨e, he⟩
  · rw [h] at hg
    cases hg
    exact hbrought
  · rw [h] at he
    cases he

/-! ## Second runs -/

/-- A file that has the current version or a later one is left as it is by every run. -/
theorem migrate_current {row : VersionRow} (h : f.versions? = some (some row))
    (hdone : Schema.version ≤ row.version) (hhi : row.version ≤ Number.Bounds.signed32.hi)
    (stamps : Int → Stamp) : f.migrate stamps = (.ok (), f) :=
  (Brought.current h hdone hhi).migrate

/-- Version two gives a table of versions no row. The next run begins with it again, and the record
is in its way. -/
theorem migrate_atSecond (hv : f.versions? = some none) (hitems : f.hasLineItems = true)
    (hrows : f.history? ≠ none) : (f.atSecond stamp).migrate stamps =
      (.error (.statement (.primaryKey "schema_migrations" "version")), f.atSecond stamp) := by
  have hv' : (f.atSecond stamp).versions? = some none := by simp [atSecond, recorded, hv]
  have hrows' : (f.atSecond stamp).history? ≠ none := by simpa [atSecond, recorded] using hrows
  have hread : Number.Bounds.signed32.check (readVersion none) = .ok 0 := rfl
  have hrefused : (f.atSecond stamp).applySecond (stamps 2) =
      .error (.statement (.primaryKey "schema_migrations" "version")) :=
    applySecond_of_recorded hitems hrows' (recorded_recorded hrows)
  rw [migrate_of_versions hv' hread, if_neg (by decide), if_neg (by decide),
    hrefused]

/-- What a run leaves behind that succeeds. The rows of the tables are those of before. If there
was no table of versions, or it had its row, then this row is there and tells the current version or
a later one that the file had, and a second run, whenever it is made, succeeds and changes nothing,
neither of the times nor of the history. If the table was there without its row, it still has none,
and every further run fails and changes nothing. -/
theorem migrate_converges_with_row (h : f.migrate stamps = (.ok (), f')) :
    f'.data = f.data ∧
    (f.versions? ≠ some none → (∀ later, f'.migrate later = (.ok (), f')) ∧
      ∃ row, f'.version? = some row ∧
        row.version = f.version?.elim Schema.version fun old => max old.version Schema.version) ∧
    (f.versions? = some none → f'.version? = none ∧ ∀ later, f'.migrate later =
      (.error (.statement (.primaryKey "schema_migrations" "version")), f')) := by
  have hdata : f'.data = f.data := by
    have hkeeps := (migrate_keeps f stamps).data
    rwa [h] at hkeeps
  have hreadable : Schema.version ≤ Number.Bounds.signed32.hi := by decide
  refine ⟨hdata, ?_⟩
  cases migrate_eq_ok.1 h with
  | created hv hnew =>
    refine ⟨fun _ => ⟨migrate_current rfl (Int.le_refl _) hreadable, _, rfl, ?_⟩,
      fun hnone => nomatch hv.symm.trans hnone⟩
    rw [version?, hv]
    rfl
  | @current row hv hdone hhi =>
    have hrow : f.version? = some row := by rw [version?, hv, Option.join_some]
    refine ⟨fun _ => ⟨migrate_current hv hdone hhi, row, hrow, ?_⟩,
      fun hnone => nomatch hv.symm.trans hnone⟩
    rw [hrow]
    exact (Int.max_eq_left hdone).symm
  | @second row? hv hlo hold hitems hrows hnew =>
    cases row? with
    | none =>
      refine ⟨fun hsome => absurd hv hsome,
        fun _ => ⟨?_, fun later => migrate_atSecond hv hitems hrows⟩⟩
      simp [version?, atSecond, recorded, hv]
    | some row =>
      obtain ⟨new, htwo, hrow⟩ : ∃ new : VersionRow, new.version = Schema.version ∧
          (f.atSecond (stamps 2)).versions? = some (some new) :=
        ⟨⟨2, (stamps 2).time, some secondVersionName⟩, rfl, by simp [atSecond, recorded, hv]⟩
      refine ⟨fun _ => ⟨migrate_current hrow (Int.le_of_eq htwo.symm)
        (htwo.symm ▸ hreadable), new, ?_, ?_⟩, fun hnone => nomatch hv.symm.trans hnone⟩
      · rw [version?, hrow, Option.join_some]
      · rw [version?, hv, htwo]
        exact (Int.max_eq_right (Int.le_of_lt hold)).symm

/-- A file of version one with a customer, whose history starts with this version. -/
theorem migrate_converges_with_row_version_one :
    let db : Database := ⟨[⟨1, "Acme GmbH", "DE", "A", none⟩], [], [], []⟩
    let f : File := ⟨some (some ⟨1, 0, some "Initial schema"⟩),
      some [⟨1, "initial_schema", 0, "", none, 1⟩], true, false, db⟩
    let stamp : Stamp := ⟨1700000000, 3⟩
    f.migrate (fun _ => stamp) = (.ok (), f.atSecond stamp) ∧ (f.atSecond stamp).data = db ∧
      (f.atSecond stamp).version? = some ⟨2, 1700000000, some secondVersionName⟩ ∧
      ∀ later, (f.atSecond stamp).migrate later = (.ok (), f.atSecond stamp) := by
  intro db f stamp
  have hmigrate : f.migrate (fun _ => stamp) = (.ok (), f.atSecond stamp) := rfl
  obtain ⟨hdata, hsome, -⟩ := migrate_converges_with_row hmigrate
  exact ⟨hmigrate, hdata, rfl, (hsome (by decide)).1⟩

/-- A row of the table of versions is missing: a run succeeds once, but not again. -/
theorem migrate_fails_again :
    ¬∀ (f f' : File) (stamps later : Int → Stamp), f.migrate stamps = (.ok (), f') →
      f'.data = f.data ∧ f'.migrate later = (.ok (), f') ∧ ∃ row, f'.version? = some row ∧
        row.version = f.version?.elim Schema.version fun old => max old.version Schema.version := by
  intro hall
  let stamp : Stamp := ⟨0, 0⟩
  have hmigrate : File.migrate ⟨some none, some [], true, true, .empty⟩ (fun _ => stamp) =
      (.ok (), atSecond ⟨some none, some [], true, true, .empty⟩ stamp) := rfl
  obtain ⟨-, -, row, hrow, -⟩ := hall _ _ _ (fun _ => stamp) hmigrate
  cases hrow

end Store.File

end RowSieve
