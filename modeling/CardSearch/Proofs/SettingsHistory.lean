import CardSearch.Program.Run
import CardSearch.Proofs.SettingsFile
import Mathlib.Logic.Function.Basic

/-!
# A settings command changes one key or nothing

Only a command that sets a key writes a file (`saved_perform`). What it writes is
what it has loaded with one assignment made, and this is what the next run loads
(`load_of_encode`): loaded settings have a version that can be told and is not an
earlier one (`IsLoaded`), an assignment leaves the version alone, and so nothing is
lost or brought up to date when they are read back. A run thus does to the settings
that can be loaded what `Turn.accept` does, and a history of runs does it run by run.
-/

namespace CardSearch

/-! ## Assignments and keys -/

namespace Assignment

/-- The key that an assignment is for. -/
def key : Assignment → String
  | cards _ => "cards"
  | sortBy _ => "search.sort_by"
  | descending _ => "search.descending"
  | limit _ => "search.limit"
  | color _ => "output.color"

theorem map_eq_ok_iff {α : Type} {read : Except SettingsError α} {make : α → Assignment}
    {a : Assignment} : read.map make = .ok a ↔ ∃ v, read = .ok v ∧ make v = a := by
  cases read <;> simp [Except.map]

theorem key_of_read {k value : String} {a : Assignment} (h : read k value = .ok a) : a.key = k := by
  unfold read at h
  split at h
  · rw [← Except.ok.inj h]
    rfl
  · obtain ⟨v, -, rfl⟩ := map_eq_ok_iff.1 h
    rfl
  · obtain ⟨v, -, rfl⟩ := map_eq_ok_iff.1 h
    rfl
  · obtain ⟨v, -, rfl⟩ := map_eq_ok_iff.1 h
    rfl
  · obtain ⟨v, -, rfl⟩ := map_eq_ok_iff.1 h
    rfl
  · cases h

theorem read_unlimited {value : String}
    (h : unlimitedWords.contains (Text.lowercaseString value) = true) :
    read "search.limit" value = .ok (limit none) := by
  rw [Text.lowercaseString] at h
  simp only [read, readLimit, h, if_true]
  rfl

theorem version_apply (a : Assignment) (s : Settings) : (a.apply s).version = s.version := by
  cases a <;> rfl

end Assignment

namespace Settings

/-- What a key is set to, as the assignment that sets it so. -/
def assigned? (s : Settings) (key : String) : Option Assignment :=
  match key with
  | "cards" => s.cards.map .cards
  | "search.sort_by" => s.search.sortBy.map .sortBy
  | "search.descending" => s.search.descending.map .descending
  | "search.limit" => some (.limit s.search.limit)
  | "output.color" => s.color.map .color
  | _ => none

/-- Settings that are others with one key set. -/
structure ChangedAt (key : String) (a : Assignment) (s s' : Settings) : Prop where
  assigned : s'.assigned? key = some a
  others : ∀ other, other ≠ key → s'.assigned? other = s.assigned? other
  version : s'.version = s.version

theorem changedAt_apply (a : Assignment) (s : Settings) : ChangedAt a.key a s (a.apply s) where
  assigned := by cases a <;> rfl
  others key h := by
    unfold assigned?
    cases a <;> split <;> first | rfl | exact absurd rfl h
  version := a.version_apply s

/-! ## Settings that have been loaded -/

/-- The version can be told, and it is not an earlier one. -/
structure IsLoaded (s : Settings) : Prop where
  version_lt : s.version < versionCount
  current_le : currentVersion ≤ s.version

theorem isLoaded_default : IsLoaded {} := ⟨by decide, by decide⟩

theorem IsLoaded.migrate_eq {s : Settings} (h : IsLoaded s) : s.migrate = s := by
  by_cases hnewer : s.isNewer = true
  · exact if_pos hnewer
  · have hversion : s.version = currentVersion := by
      have := h.current_le
      simp only [isNewer, decide_eq_true_eq] at hnewer
      omega
    rw [migrate, if_neg hnewer, ← hversion]

theorem isLoaded_migrate {s : Settings} (h : s.version < versionCount) : IsLoaded s.migrate := by
  by_cases hnewer : s.isNewer = true
  · rw [migrate, if_pos hnewer]
    exact ⟨h, Nat.le_of_lt (of_decide_eq_true hnewer)⟩
  · rw [migrate, if_neg hnewer]
    exact ⟨(by decide : currentVersion < versionCount), Nat.le_refl currentVersion⟩

theorem IsLoaded.apply {s : Settings} (h : IsLoaded s) (a : Assignment) : IsLoaded (a.apply s) := by
  have hversion := a.version_apply s
  exact ⟨hversion ▸ h.version_lt, hversion ▸ h.current_le⟩

theorem version_lt_of_ofFields? {fields : Toml.Fields} {s : Settings}
    (h : ofFields? fields = some s) : s.version < versionCount := by
  obtain ⟨version, hversion, h⟩ := Option.bind_eq_some_iff.1 h
  have hs : s.version = version.getD currentVersion := by
    simp only [Option.bind_eq_bind, Option.bind_eq_some_iff, Option.some.injEq] at h
    obtain ⟨_, -, _, -, _, -, _, -, _, -, rfl⟩ := h
    rfl
  rw [hs]
  simp only [optional?] at hversion
  split at hversion
  · rw [← Option.some.inj hversion]
    decide
  · obtain ⟨n, hn, rfl⟩ := Option.map_eq_some_iff.1 hversion
    exact of_decide_eq_true (Option.filter_eq_some_iff.1 hn).2

theorem isLoaded_of_read? {text : String} {s : Settings} (h : read? text = some s) :
    IsLoaded s := by
  obtain ⟨s, hs, rfl⟩ := Option.map_eq_some_iff.1 h
  obtain ⟨fields, -, hfields⟩ := Option.bind_eq_some_iff.1 hs
  exact isLoaded_migrate (version_lt_of_ofFields? hfields)

theorem isLoaded_of_load {path : String} {file : File} {s : Settings}
    (h : load path file = .ok s) : IsLoaded s := by
  unfold load at h
  split at h
  · rw [← Except.ok.inj h]
    exact isLoaded_default
  · cases h
  · split at h
    · next hread => exact Except.ok.inj h ▸ isLoaded_of_read? hread
    · cases h

/-- What is saved is loaded again. -/
theorem load_of_encode {s : Settings} (h : IsLoaded s) {content : String}
    (hcontent : s.encode = .ok content) (path : String) : load path (.text content) = .ok s := by
  simp only [load, read?_encode h.version_lt hcontent, h.migrate_eq]

end Settings

/-! ## What a run saves -/

namespace Program

@[simp] theorem saved_failed (inv : Invocation) (log : List String) (e : RunError) :
    (failed inv log e).saved = none := rfl

@[simp] theorem saved_succeeded (log : List String) (output : String) :
    (succeeded log output).saved = none := rfl

theorem saved_search (w : World) (inv : Invocation) (r : SearchRequest) :
    (search w inv r).saved = none := by
  unfold search
  split
  · simp
  · split
    · simp
    · unfold searchIn
      dsimp only
      split <;> simp

theorem saved_parse (w : World) (inv : Invocation) (words : List String) :
    (parse w inv words).saved = none := by
  unfold parse
  dsimp only
  split <;> simp

theorem saved_showSettings (w : World) (inv : Invocation) (path : String) (color : Option Bool)
    (log : List String) : (showSettings w inv path color log).saved = none := by
  unfold showSettings
  dsimp only
  split <;> simp

theorem saved_config {w : World} {inv : Invocation} {c : Option SettingsCommand}
    (h : ∀ key value, c ≠ some (.set key value)) : (config w inv c).saved = none := by
  unfold config
  dsimp only
  split
  · simp
  · next path _ =>
      match c, h with
      | none, _ | some .show, _ => exact saved_showSettings w inv path _ _
      | some .path, _ => exact saved_succeeded _ _
      | some (.set key value), h => exact absurd rfl (h key value)

/-- No command but the one that sets a key saves a file. -/
theorem saved_perform {w : World} {inv : Invocation}
    (h : ∀ key value, inv.command ≠ some (.config (some (.set key value)))) :
    (perform w inv).saved = none := by
  unfold perform
  split
  · rfl
  · exact saved_search w inv _
  · exact saved_parse w inv _
  · next c hcommand => exact saved_config fun key value hc => h key value (hc ▸ hcommand)
  · rfl

section

variable {w : World} {inv : Invocation} {path key value : String}
  (hcommand : inv.command = some (.config (some (.set key value))))
include hcommand

theorem perform_set_of_noPlace (hpath : w.env.settingsPath? = none) :
    (perform w inv).status = 5 ∧ (perform w inv).saved = none := by
  simp only [perform, hcommand, config, hpath]
  exact ⟨rfl, rfl⟩

theorem perform_set (hpath : w.env.settingsPath? = some path) :
    perform w inv = setSetting w inv path key value (lenientSettings w inv).2 := by
  simp only [perform, hcommand, config, hpath]
  rfl

theorem perform_set_of_error (hpath : w.env.settingsPath? = some path) {e : SettingsError}
    (h : changedFile (w.files path) path key value = .error e) :
    (perform w inv).status = 5 ∧ (perform w inv).saved = none := by
  rw [perform_set hcommand hpath, setSetting, h]
  exact ⟨rfl, rfl⟩

theorem perform_set_of_ok (hpath : w.env.settingsPath? = some path) {content : String}
    (h : changedFile (w.files path) path key value = .ok content) :
    (perform w inv).status = 0 ∧ (perform w inv).saved = some ⟨path, content⟩ := by
  rw [perform_set hcommand hpath, setSetting, h]
  exact ⟨rfl, rfl⟩

end

/-- What is saved is what has been loaded with the assignment made, if it can be written. -/
theorem changedFile_eq_ok_iff {file : File} {path key value content : String} :
    changedFile file path key value = .ok content ↔
      ∃ s a, Settings.load path file = .ok s ∧ Assignment.read key value = .ok a ∧
        (a.apply s).encode = .ok content := by
  unfold changedFile Settings.set
  cases Settings.load path file with
  | error e => simp [Except.bind]
  | ok s =>
      cases Assignment.read key value with
      | error e => simp [Except.bind, Except.map]
      | ok a => simp [Except.bind, Except.map]

end Program

/-! ## Runs one after the other -/

/-- A run among others: what is asked for, and all that it depends on but the files. -/
structure Turn where
  inv : Invocation
  env : Environment
  now : Time.Instant
  rank : Nat → Nat

namespace Turn

def outcome (t : Turn) (files : String → File) : Outcome :=
  Program.perform ⟨t.env, files, t.now, t.rank⟩ t.inv

/-- The files as the run leaves them. -/
def leave (t : Turn) (files : String → File) : String → File :=
  match (t.outcome files).saved with
  | none => files
  | some saved => Function.update files saved.path (.text saved.content)

/-- The files as some runs leave them. -/
def leaveAll (history : List Turn) (files : String → File) : String → File :=
  history.foldl (fun files t => t.leave files) files

/-- The run is to set a key of the settings at a path. -/
structure Sets (t : Turn) (path key value : String) : Prop where
  command : t.inv.command = some (.config (some (.set key value)))
  settingsPath : t.env.settingsPath? = some path

variable {t : Turn} {files : String → File} {path key value : String}

theorem leave_of_saved_eq_none (h : (t.outcome files).saved = none) : t.leave files = files := by
  rw [leave, h]

theorem leave_of_not_sets (h : ∀ path key value, ¬ t.Sets path key value) :
    t.leave files = files := by
  refine leave_of_saved_eq_none ?_
  by_cases hset : ∃ key value, t.inv.command = some (.config (some (.set key value)))
  · obtain ⟨key, value, hcommand⟩ := hset
    cases hplace : t.env.settingsPath? with
    | none => exact (Program.perform_set_of_noPlace hcommand hplace).2
    | some path => exact absurd ⟨hcommand, hplace⟩ (h path key value)
  · exact Program.saved_perform fun key value hcommand => hset ⟨key, value, hcommand⟩

theorem Sets.outcome_of_error (h : t.Sets path key value) {e : SettingsError}
    (hchanged : Program.changedFile (files path) path key value = .error e) :
    (t.outcome files).status = 5 ∧ t.leave files = files := by
  obtain ⟨hstatus, hsaved⟩ := Program.perform_set_of_error
    (w := ⟨t.env, files, t.now, t.rank⟩) h.command h.settingsPath hchanged
  exact ⟨hstatus, leave_of_saved_eq_none hsaved⟩

theorem Sets.outcome_of_ok (h : t.Sets path key value) {content : String}
    (hchanged : Program.changedFile (files path) path key value = .ok content) :
    (t.outcome files).status = 0 ∧ t.leave files = Function.update files path (.text content) := by
  obtain ⟨hstatus, hsaved⟩ := Program.perform_set_of_ok
    (w := ⟨t.env, files, t.now, t.rank⟩) h.command h.settingsPath hchanged
  exact ⟨hstatus, by rw [leave, outcome, hsaved]⟩

/-- The assignment that a run makes to the settings that are loaded from a path. -/
def accepted? (path : String) (s : Settings) (t : Turn) : Option Assignment :=
  match t.inv.command with
  | some (.config (some (.set key value))) =>
    if t.env.settingsPath? = some path then
      (Assignment.read key value).toOption.filter fun a => (a.apply s).encode.isOk
    else none
  | _ => none

/-- The settings after a run, if they can be loaded before it. -/
def accept (path : String) (s : Settings) (t : Turn) : Settings :=
  match t.accepted? path s with
  | none => s
  | some a => a.apply s

theorem exists_of_isOk {ε α : Type} {x : Except ε α} (h : x.isOk = true) : ∃ v, x = .ok v := by
  cases x with
  | error e => cases h
  | ok v => exact ⟨v, rfl⟩

theorem accepted?_eq_some_iff {s : Settings} {a : Assignment} :
    t.accepted? path s = some a ↔ ∃ key value content, t.Sets path key value ∧
      Assignment.read key value = .ok a ∧ (a.apply s).encode = .ok content := by
  constructor
  · intro h
    unfold accepted? at h
    split at h
    · next key value hcommand =>
        split at h
        · next hpath =>
            obtain ⟨hread, hencode⟩ := Option.filter_eq_some_iff.1 h
            cases hr : Assignment.read key value with
            | error e => simp [hr, Except.toOption] at hread
            | ok b =>
                obtain rfl : b = a := by simpa [hr, Except.toOption] using hread
                obtain ⟨content, hcontent⟩ := exists_of_isOk hencode
                exact ⟨key, value, content, ⟨hcommand, hpath⟩, hr, hcontent⟩
        · cases h
    · cases h
  · rintro ⟨key, value, content, hsets, hread, hencode⟩
    simp [accepted?, hsets.command, hsets.settingsPath, hread, hencode, Except.toOption,
      Except.isOk, Except.toBool]

/-- An accepted assignment is saved, and so it is loaded by the next run. -/
theorem leave_of_accepted {s : Settings} {a : Assignment}
    (hload : Settings.load path (files path) = .ok s) (h : t.accepted? path s = some a) :
    Settings.load path (t.leave files path) = .ok (a.apply s) := by
  obtain ⟨key, value, content, hsets, hread, hencode⟩ := accepted?_eq_some_iff.1 h
  obtain ⟨-, hleave⟩ := hsets.outcome_of_ok
    (Program.changedFile_eq_ok_iff.2 ⟨s, a, hload, hread, hencode⟩)
  rw [hleave, Function.update_self]
  exact Settings.load_of_encode ((Settings.isLoaded_of_load hload).apply a) hencode path

theorem leave_of_not_accepted
    (h : ∀ s a, Settings.load path (files path) = .ok s → t.accepted? path s ≠ some a) :
    t.leave files path = files path := by
  by_cases hset : ∃ other key value, t.Sets other key value
  · obtain ⟨other, key, value, hsets⟩ := hset
    cases hchanged : Program.changedFile (files other) other key value with
    | error e => rw [(hsets.outcome_of_error hchanged).2]
    | ok content =>
        rw [(hsets.outcome_of_ok hchanged).2]
        -- What is written goes to the path at hand only if the assignment is accepted there.
        by_cases hpath : path = other
        · subst hpath
          obtain ⟨s, a, hload, hread, hencode⟩ := Program.changedFile_eq_ok_iff.1 hchanged
          exact absurd
            (accepted?_eq_some_iff.2 ⟨key, value, content, hsets, hread, hencode⟩) (h s a hload)
        · exact Function.update_of_ne hpath _ files
  · rw [leave_of_not_sets fun other key value hsets => hset ⟨other, key, value, hsets⟩]

theorem load_leave (path : String) (t : Turn) (files : String → File) :
    Settings.load path (t.leave files path) =
      (Settings.load path (files path)).map fun s => accept path s t := by
  cases hload : Settings.load path (files path) with
  | error e =>
      have hnot : ∀ s a, Settings.load path (files path) = .ok s → t.accepted? path s ≠ some a :=
        fun s a hs => absurd (hload.symm.trans hs) (by simp)
      rw [leave_of_not_accepted hnot, hload]
      rfl
  | ok s =>
      cases haccepted : t.accepted? path s with
      | none =>
          have hnot : ∀ s' a, Settings.load path (files path) = .ok s' →
              t.accepted? path s' ≠ some a := fun s' a hs' => by
            obtain rfl : s = s' := Except.ok.inj (hload.symm.trans hs')
            simp [haccepted]
          rw [leave_of_not_accepted hnot, hload]
          simp [Except.map, accept, haccepted]
      | some a =>
          rw [leave_of_accepted hload haccepted]
          simp [Except.map, accept, haccepted]

theorem load_leaveAll (path : String) (history : List Turn) (files : String → File) :
    Settings.load path (leaveAll history files path) =
      (Settings.load path (files path)).map fun s => history.foldl (accept path) s := by
  -- The files change with every run, and so the statement is about any files to begin with.
  induction history generalizing files with
  | nil => cases h : Settings.load path (files path) <;> simp [leaveAll, h, Except.map]
  | cons t history ih =>
      have hleave : leaveAll (t :: history) files = leaveAll history (t.leave files) := rfl
      rw [hleave, ih, load_leave]
      cases Settings.load path (files path) <;> rfl

/-- A file that cannot be loaded stays as it is. -/
theorem leaveAll_of_error {e : SettingsError} (h : Settings.load path (files path) = .error e)
    (history : List Turn) : leaveAll history files path = files path := by
  induction history generalizing files with
  | nil => rfl
  | cons t history ih =>
      have hleave : t.leave files path = files path :=
        leave_of_not_accepted fun s a hs => absurd (h.symm.trans hs) (by simp)
      have hload : Settings.load path (t.leave files path) = .error e := by rw [hleave, h]
      exact (ih hload).trans hleave

/-! ### A run that sets a key -/

theorem Sets.status_eq_zero_iff (h : t.Sets path key value) :
    (t.outcome files).status = 0 ↔ ∃ s a content, Settings.load path (files path) = .ok s ∧
      Assignment.read key value = .ok a ∧ (a.apply s).encode = .ok content := by
  cases hchanged : Program.changedFile (files path) path key value with
  | error e =>
      have hstatus := (h.outcome_of_error hchanged).1
      constructor
      · exact fun hzero => absurd (hstatus.symm.trans hzero) (by decide)
      · rintro ⟨s, a, content, hwritten⟩
        have hok := Program.changedFile_eq_ok_iff.2 ⟨s, a, hwritten⟩
        exact absurd (hchanged.symm.trans hok) (by simp)
  | ok content =>
      obtain ⟨s, a, hwritten⟩ := Program.changedFile_eq_ok_iff.1 hchanged
      exact ⟨fun _ => ⟨s, a, content, hwritten⟩, fun _ => (h.outcome_of_ok hchanged).1⟩

theorem Sets.leave_of_status_ne (h : t.Sets path key value)
    (hstatus : (t.outcome files).status ≠ 0) : t.leave files = files := by
  cases hchanged : Program.changedFile (files path) path key value with
  | error e => exact (h.outcome_of_error hchanged).2
  | ok content => exact absurd (h.outcome_of_ok hchanged).1 hstatus

theorem Sets.exists_changedAt (h : t.Sets path key value) (hstatus : (t.outcome files).status = 0) :
    ∃ s a, Settings.load path (files path) = .ok s ∧ Assignment.read key value = .ok a ∧
      Settings.load path (t.leave files path) = .ok (a.apply s) ∧
      Settings.ChangedAt key a s (a.apply s) ∧
      ∀ other, other ≠ path → t.leave files other = files other := by
  obtain ⟨s, a, content, hload, hread, hencode⟩ := h.status_eq_zero_iff.1 hstatus
  have haccepted := accepted?_eq_some_iff.2 ⟨key, value, content, h, hread, hencode⟩
  have hchanged := Program.changedFile_eq_ok_iff.2 ⟨s, a, hload, hread, hencode⟩
  refine ⟨s, a, hload, hread, leave_of_accepted hload haccepted, ?_, ?_⟩
  · rw [← Assignment.key_of_read hread]
    exact Settings.changedAt_apply a s
  · intro other hother
    rw [(h.outcome_of_ok hchanged).2, Function.update_of_ne hother]

end Turn

/--
Whatever the files hold and whatever has been run before, a run that sets no key
leaves the files as they are, and so does one that fails to set it. One that
succeeds changes the settings file alone, and there the one key alone. The settings
after a history are those of its beginning with the accepted assignments made.
-/
theorem Program.set_changes_one_key_or_nothing (files : String → File) (history : List Turn)
    (path : String) :
    (Settings.load path (Turn.leaveAll history files path) =
        (Settings.load path (files path)).map fun s => history.foldl (Turn.accept path) s) ∧
      (∀ e, Settings.load path (files path) = .error e →
        Turn.leaveAll history files path = files path) ∧
      (∀ t : Turn, let before := Turn.leaveAll history files
        ((∀ other key value, ¬ t.Sets other key value) → t.leave before = before) ∧
          ∀ key value, t.Sets path key value →
            ((t.outcome before).status = 0 ↔ ∃ s a content,
              Settings.load path (before path) = .ok s ∧ Assignment.read key value = .ok a ∧
                (a.apply s).encode = .ok content) ∧
            ((t.outcome before).status ≠ 0 → t.leave before = before) ∧
            ((t.outcome before).status = 0 → ∃ s a,
              Settings.load path (before path) = .ok s ∧ Assignment.read key value = .ok a ∧
                Settings.load path (t.leave before path) = .ok (a.apply s) ∧
                Settings.ChangedAt key a s (a.apply s) ∧
                ∀ other, other ≠ path → t.leave before other = before other)) ∧
      ∀ value, Assignment.unlimitedWords.contains (Text.lowercaseString value) = true →
        Assignment.read "search.limit" value = .ok (.limit none) := by
  exact ⟨Turn.load_leaveAll path history files, fun _ h => Turn.leaveAll_of_error h history,
    fun _ => ⟨Turn.leave_of_not_sets, fun _ _ hsets =>
      ⟨hsets.status_eq_zero_iff, hsets.leave_of_status_ne, hsets.exists_changedAt⟩⟩,
    fun _ h => Assignment.read_unlimited h⟩

/-- A limit of five, set where there is no file yet. -/
theorem Program.set_changes_one_key_or_nothing_limit :
    let t : Turn := ⟨{ command := some (.config (some (.set "search.limit" "5"))) },
      { configFile := some "config.toml" }, .ofSeconds 0, id⟩
    Settings.load "config.toml" (t.leave (fun _ => .missing) "config.toml") =
      .ok { search := { limit := some 5 } } := by
  intro t
  have hsets : t.Sets "config.toml" "search.limit" "5" := ⟨rfl, rfl⟩
  have hread : Assignment.read "search.limit" "5" = .ok (.limit (some 5)) := by decide
  obtain ⟨hstatus, -, hchange⟩ :=
    ((Program.set_changes_one_key_or_nothing (fun _ => .missing) [] "config.toml").2.2.1 t).2
      "search.limit" "5" hsets
  obtain ⟨s, a, hs, ha, hload, -⟩ := hchange (hstatus.2 ⟨{}, _, _, rfl, hread, rfl⟩)
  obtain rfl : a = .limit (some 5) := Except.ok.inj (ha.symm.trans hread)
  obtain rfl : s = {} := (Except.ok.inj hs).symm
  exact hload

end CardSearch
