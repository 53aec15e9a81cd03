import CardSearch.Proofs.SettingsHistory

/-!
# Settings as defaults of searches

What a search takes from the settings is told by the runs that have set them: for
each key by the last value that was accepted. A run that is accepted sets its key
and leaves the others (`ChangedAt`), any other run changes nothing that is loaded,
and so the settings after a history are those of its beginning with the last value
of each key set (`setTo_leaveAll`).

A value is not always kept as it was given. A limit that is set to none is kept as
no limit at all, and this is how a limit that was never set is kept: a search takes
the limit for searches without one in both cases, and shows ten cards where all were
asked for.
-/

namespace CardSearch

/-! ## Keys set by values -/

namespace Assignment

theorem eq_of_readOrder {value field : String} (h : readOrder value = .ok field) :
    field = value := by
  unfold readOrder at h
  split at h
  · cases h
  · exact (Except.ok.inj h).symm

/-- A word for no limit, in capitals or not. -/
def IsUnlimited (value : String) : Prop :=
  unlimitedWords.contains (Text.lowercaseString value) = true

theorem readLimit_eq_ok_none_iff {value : String} :
    readLimit value = .ok none ↔ IsUnlimited value := by
  rw [IsUnlimited, Text.lowercaseString]
  by_cases hword : unlimitedWords.contains (String.ofList (Text.lowercase value.toList)) = true
  · simp only [readLimit, hword, if_true]
  · refine iff_of_false (fun h => ?_) hword
    rw [readLimit, if_neg hword] at h
    split at h <;> cases h

end Assignment

namespace Settings

/-- Settings that are others with some keys set, each to a value that it can read. -/
structure SetTo (values : String → Option String) (s s' : Settings) : Prop where
  set : ∀ key value, values key = some value →
    ∃ a, Assignment.read key value = .ok a ∧ s'.assigned? key = some a
  kept : ∀ key, values key = none → s'.assigned? key = s.assigned? key

theorem SetTo.refl (s : Settings) : SetTo (fun _ => none) s s where
  set _ _ h := nomatch h
  kept _ _ := rfl

theorem SetTo.trans {first later : String → Option String} {s s₁ s₂ : Settings}
    (h₁ : SetTo first s s₁) (h₂ : SetTo later s₁ s₂) :
    SetTo (fun key => (later key).or (first key)) s s₂ where
  set key value h := by
    rcases Option.or_eq_some_iff.1 h with hlater | ⟨hlater, hfirst⟩
    · exact h₂.set key value hlater
    · obtain ⟨a, hread, hassigned⟩ := h₁.set key value hfirst
      exact ⟨a, hread, (h₂.kept key hlater).trans hassigned⟩
  kept key h := by
    obtain ⟨hlater, hfirst⟩ := Option.or_eq_none_iff.1 h
    rw [h₂.kept key hlater, h₁.kept key hfirst]

/-! ### The search settings, set where all was open -/

section

variable {values : String → Option String} {s : Settings} (h : SetTo values {} s)
include h

theorem SetTo.sortBy_eq : s.search.sortBy = values "search.sort_by" := by
  cases hvalue : values "search.sort_by" with
  | none => exact Option.map_eq_none_iff.1 (h.kept _ hvalue)
  | some value =>
      obtain ⟨a, hread, hassigned⟩ := h.set _ _ hvalue
      obtain ⟨field, horder, rfl⟩ := Assignment.map_eq_ok_iff.1 hread
      obtain ⟨field', hsortBy, hfield⟩ := Option.map_eq_some_iff.1 hassigned
      rw [hsortBy, Assignment.sortBy.inj hfield, Assignment.eq_of_readOrder horder]

theorem SetTo.descending_of_none (hvalue : values "search.descending" = none) :
    s.search.descending = none :=
  Option.map_eq_none_iff.1 (h.kept _ hvalue)

theorem SetTo.descending_of_some {value : String}
    (hvalue : values "search.descending" = some value) :
    ∃ b, Assignment.readYesOrNo value = .ok b ∧ s.search.descending = some b := by
  obtain ⟨a, hread, hassigned⟩ := h.set _ _ hvalue
  obtain ⟨b, hb, rfl⟩ := Assignment.map_eq_ok_iff.1 hread
  obtain ⟨b', hdescending, hb'⟩ := Option.map_eq_some_iff.1 hassigned
  exact ⟨b', by rw [hb, Assignment.descending.inj hb'], hdescending⟩

theorem SetTo.limit_of_none (hvalue : values "search.limit" = none) : s.search.limit = none :=
  Assignment.limit.inj (Option.some.inj (h.kept _ hvalue))

theorem SetTo.readLimit_eq {value : String} (hvalue : values "search.limit" = some value) :
    Assignment.readLimit value = .ok s.search.limit := by
  obtain ⟨a, hread, hassigned⟩ := h.set _ _ hvalue
  obtain ⟨n, hn, rfl⟩ := Assignment.map_eq_ok_iff.1 hread
  rw [hn, Assignment.limit.inj (Option.some.inj hassigned)]

end

end Settings

/-! ## The last values of a history -/

namespace Turn

/-- The value that a run sets a key of the settings at a path to, if it is accepted. -/
def acceptedValue? (path key : String) (files : String → File) (t : Turn) : Option String :=
  match t.inv.command with
  | some (.config (some (.set k value))) =>
    if k = key ∧ t.env.settingsPath? = some path ∧ (t.outcome files).status = 0 then some value
    else none
  | _ => none

/-- The last value of a key that is accepted in a history. -/
def lastValue? (path key : String) : List Turn → (String → File) → Option String
  | [], _ => none
  | t :: history, files =>
    (lastValue? path key history (t.leave files)).or (t.acceptedValue? path key files)

variable {t : Turn} {files : String → File} {path key value : String}

theorem acceptedValue?_eq_some_iff :
    t.acceptedValue? path key files = some value ↔
      t.Sets path key value ∧ (t.outcome files).status = 0 := by
  constructor
  · intro h
    unfold acceptedValue? at h
    split at h
    · next k v hcommand =>
        split at h
        · next hset =>
            obtain rfl := Option.some.inj h
            obtain ⟨rfl, hpath, hstatus⟩ := hset
            exact ⟨⟨hcommand, hpath⟩, hstatus⟩
        · cases h
    · cases h
  · rintro ⟨hsets, hstatus⟩
    simp only [acceptedValue?, hsets.command, hsets.settingsPath, hstatus, and_self, if_true]

theorem acceptedValue?_eq_none_of_read {e : SettingsError}
    (h : ∀ value, t.Sets path key value → Assignment.read key value = .error e) :
    t.acceptedValue? path key files = none := by
  refine Option.eq_none_iff_forall_ne_some.2 fun value hvalue => ?_
  obtain ⟨hsets, hstatus⟩ := acceptedValue?_eq_some_iff.1 hvalue
  obtain ⟨-, a, -, -, hread, -⟩ := hsets.status_eq_zero_iff.1 hstatus
  rw [h value hsets] at hread
  cases hread

theorem Sets.inj {k v : String} (h : t.Sets path key value) (h' : t.Sets path k v) :
    key = k ∧ value = v := by
  have hcommand := h.command.symm.trans h'.command
  injections
  exact ⟨‹_›, ‹_›⟩

/-- A run sets the key that its value is accepted for, and leaves the others. -/
theorem setTo_leave {s : Settings} (hload : Settings.load path (files path) = .ok s) (t : Turn) :
    ∃ s', Settings.load path (t.leave files path) = .ok s' ∧
      Settings.SetTo (fun key => t.acceptedValue? path key files) s s' := by
  by_cases hset : ∃ k v, t.Sets path k v ∧ (t.outcome files).status = 0
  · obtain ⟨k, v, hsets, hstatus⟩ := hset
    obtain ⟨s₀, a, hload₀, hread, hleave, hchanged, -⟩ := hsets.exists_changedAt hstatus
    obtain rfl : s₀ = s := Except.ok.inj (hload₀.symm.trans hload)
    refine ⟨a.apply s₀, hleave, fun key value hvalue => ?_, fun key hnone => ?_⟩
    · obtain ⟨rfl, rfl⟩ := hsets.inj (acceptedValue?_eq_some_iff.1 hvalue).1
      exact ⟨a, hread, hchanged.assigned⟩
    · refine hchanged.others key fun hkey => ?_
      rw [hkey, acceptedValue?_eq_some_iff.2 ⟨hsets, hstatus⟩] at hnone
      cases hnone
  · have hkept : t.leave files path = files path := by
      refine leave_of_not_accepted fun s a hs haccepted => ?_
      obtain ⟨k, v, content, hsets, hread, hencode⟩ := accepted?_eq_some_iff.1 haccepted
      exact hset ⟨k, v, hsets, hsets.status_eq_zero_iff.2 ⟨s, a, content, hs, hread, hencode⟩⟩
    exact ⟨s, hkept ▸ hload,
      fun key value hvalue => absurd ⟨key, value, acceptedValue?_eq_some_iff.1 hvalue⟩ hset,
      fun _ _ => rfl⟩

/-- After a history the last value of each key is set, and a key without one is as it was. -/
theorem setTo_leaveAll {s : Settings} (hload : Settings.load path (files path) = .ok s)
    (history : List Turn) :
    ∃ s', Settings.load path (leaveAll history files path) = .ok s' ∧
      Settings.SetTo (fun key => lastValue? path key history files) s s' := by
  -- Both the files and what is loaded from them change with every run.
  induction history generalizing files s with
  | nil => exact ⟨s, hload, Settings.SetTo.refl s⟩
  | cons t history ih =>
      obtain ⟨s₁, hload₁, hfirst⟩ := setTo_leave hload t
      obtain ⟨s', hload', hlater⟩ := ih hload₁
      exact ⟨s', hload', hfirst.trans hlater⟩

end Turn

/-! ## What searches take from the settings -/

namespace Search.Options

/--
The options are what some values of the search settings ask for, and where nothing
is asked for they are those of a search by itself. The values tell the options
(`Reflects.unique`).
-/
structure Reflects (values : String → Option String) (o : Search.Options) : Prop where
  sortBy : o.sortBy = (values "search.sort_by").getD Search.defaultOrder
  descending_unset : values "search.descending" = none → o.descending = false
  descending_set : ∀ value, values "search.descending" = some value →
    Assignment.readYesOrNo value = .ok o.descending
  offset : o.offset = 0
  limit_unset : values "search.limit" = none → o.limit = some Search.defaultLimit
  limit_set : ∀ value, values "search.limit" = some value →
    Assignment.readLimit value = .ok o.limit

theorem Reflects.unique {values : String → Option String} {o o' : Search.Options}
    (h : o.Reflects values) (h' : o'.Reflects values) : o = o' := by
  have hsortBy : o.sortBy = o'.sortBy := h.sortBy.trans h'.sortBy.symm
  have hdescending : o.descending = o'.descending := by
    cases hvalue : values "search.descending" with
    | none => rw [h.descending_unset hvalue, h'.descending_unset hvalue]
    | some value =>
        exact Except.ok.inj
          ((h.descending_set value hvalue).symm.trans (h'.descending_set value hvalue))
  have hoffset : o.offset = o'.offset := h.offset.trans h'.offset.symm
  have hlimit : o.limit = o'.limit := by
    cases hvalue : values "search.limit" with
    | none => rw [h.limit_unset hvalue, h'.limit_unset hvalue]
    | some value =>
        exact Except.ok.inj ((h.limit_set value hvalue).symm.trans (h'.limit_set value hvalue))
  cases o
  cases o'
  congr

section

variable {values : String → Option String} {s : Settings} (h : Settings.SetTo values {} s)
  (words : List String)
include h

/-- But for the limit, a search by its words alone takes what is asked for. -/
theorem reflects_of_limit {limit : Option Nat}
    (hunset : values "search.limit" = none → limit = some Search.defaultLimit)
    (hset : ∀ value, values "search.limit" = some value → Assignment.readLimit value = .ok limit) :
    Reflects values { SearchRequest.options { words } s.search with limit } where
  sortBy := congrArg (·.getD Search.defaultOrder) h.sortBy_eq
  descending_unset hvalue := by
    simp only [SearchRequest.options, h.descending_of_none hvalue, Bool.false_or, Option.getD_none]
  descending_set value hvalue := by
    obtain ⟨b, hread, hdescending⟩ := h.descending_of_some hvalue
    simp only [SearchRequest.options, hdescending, hread, Bool.false_or, Option.getD_some]
  offset := rfl
  limit_unset := hunset
  limit_set := hset

theorem reflects_iff :
    Reflects values (SearchRequest.options { words } s.search) ↔
      ∀ value, values "search.limit" = some value → ¬ Assignment.IsUnlimited value := by
  constructor
  · intro hreflects value hvalue hunlimited
    have hlimit := hreflects.limit_set value hvalue
    rw [Assignment.readLimit_eq_ok_none_iff.2 hunlimited] at hlimit
    cases hlimit
  · intro hlimited
    refine reflects_of_limit h words (fun hvalue => ?_) fun value hvalue => ?_
    · rw [h.limit_of_none hvalue]
      rfl
    · have hread := h.readLimit_eq hvalue
      cases hlimit : s.search.limit with
      | none =>
          rw [hlimit] at hread
          exact absurd (Assignment.readLimit_eq_ok_none_iff.1 hread) (hlimited value hvalue)
      | some n => rw [hread, hlimit]; rfl

theorem limit_of_isUnlimited {value : String} (hvalue : values "search.limit" = some value)
    (hunlimited : Assignment.IsUnlimited value) :
    (SearchRequest.options { words } s.search).limit = some Search.defaultLimit := by
  have hlimit := Except.ok.inj
    ((h.readLimit_eq hvalue).symm.trans (Assignment.readLimit_eq_ok_none_iff.2 hunlimited))
  simp only [SearchRequest.options, hlimit]
  rfl

theorem reflects_all {value : String} (hvalue : values "search.limit" = some value)
    (hunlimited : Assignment.IsUnlimited value) :
    Reflects values (SearchRequest.options { words, all := true } s.search) := by
  refine reflects_of_limit h words (fun hnone => ?_) fun value' hvalue' => ?_
  · rw [hvalue] at hnone
    cases hnone
  · obtain rfl := Option.some.inj (hvalue.symm.trans hvalue')
    exact Assignment.readLimit_eq_ok_none_iff.2 hunlimited

end

end Search.Options

/--
Whatever is run where there has been no settings file, a search by its words alone
is then sorted and limited as the last accepted values ask for, unless the last limit
is none. In this case it is limited to ten cards, and what is asked for is what a
search does that itself asks for all.
-/
theorem Turn.searches_reflect_last_values {path : String} {files : String → File}
    (hmissing : files path = .missing) (history : List Turn) :
    ∃ s, Settings.load path (leaveAll history files path) = .ok s ∧
      ∀ words, let last := fun key => lastValue? path key history files
        ((SearchRequest.options { words } s.search).Reflects last ↔
            ∀ value, last "search.limit" = some value → ¬ Assignment.IsUnlimited value) ∧
          ∀ value, last "search.limit" = some value → Assignment.IsUnlimited value →
            (SearchRequest.options { words } s.search).limit = some Search.defaultLimit ∧
              (SearchRequest.options { words, all := true } s.search).Reflects last := by
  have hload : Settings.load path (files path) = .ok {} := by rw [hmissing]; rfl
  obtain ⟨s, hs, hset⟩ := setTo_leaveAll hload history
  exact ⟨s, hs, fun words => ⟨Search.Options.reflects_iff hset words, fun value hvalue hunlimited =>
    ⟨Search.Options.limit_of_isUnlimited hset words hvalue hunlimited,
      Search.Options.reflects_all hset words hvalue hunlimited⟩⟩⟩

/-- A run that sets a key of the settings in a file of their own. -/
def Turn.setting (key value : String) : Turn :=
  ⟨{ command := some (.config (some (.set key value))) }, { configFile := some "config.toml" },
    .ofSeconds 0, id⟩

/-- A limit of 25 stays when one of 0 is refused. -/
theorem Turn.searches_reflect_last_values_limit :
    ∃ s, Settings.load "config.toml" (leaveAll [setting "search.limit" "25",
        setting "search.limit" "0"] (fun _ => .missing) "config.toml") = .ok s ∧
      ∀ words, SearchRequest.options { words } s.search = { limit := some 25 } := by
  let history := [setting "search.limit" "25", setting "search.limit" "0"]
  let files : String → File := fun _ => .missing
  have hmissing : files "config.toml" = .missing := rfl
  obtain ⟨s, hs, hsearch⟩ := searches_reflect_last_values hmissing history
  have hsort : lastValue? "config.toml" "search.sort_by" history files = none := by decide +kernel
  have hdescending : lastValue? "config.toml" "search.descending" history files = none := by
    decide +kernel
  have hlimit : lastValue? "config.toml" "search.limit" history files = some "25" := by
    have hrefused : ∀ files, (setting "search.limit" "0").acceptedValue? "config.toml"
        "search.limit" files = none := fun files => by
      refine acceptedValue?_eq_none_of_read (e := .notALimit "0") fun value hsets => ?_
      obtain ⟨-, rfl⟩ := hsets.inj ⟨rfl, rfl⟩
      decide
    have haccepted : (setting "search.limit" "25").acceptedValue? "config.toml" "search.limit"
        files = some "25" := by decide +kernel
    simp only [history, lastValue?, hrefused, haccepted, Option.or_none, Option.none_or]
  have hreads : ∀ value, lastValue? "config.toml" "search.limit" history files = some value →
      Assignment.readLimit value = .ok (some 25) := fun value hvalue => by
    rw [← Option.some.inj (hlimit.symm.trans hvalue)]
    decide
  refine ⟨s, hs, fun words => ?_⟩
  have hreflects := (hsearch words).1.2 fun value hvalue hunlimited => by
    have hnone := (hreads value hvalue).symm.trans
      (Assignment.readLimit_eq_ok_none_iff.2 hunlimited)
    cases hnone
  refine hreflects.unique ⟨?_, fun _ => rfl, fun value hvalue => ?_, rfl, fun hunset => ?_, hreads⟩
  · rw [hsort]
    rfl
  · cases hdescending.symm.trans hvalue
  · cases hlimit.symm.trans hunset

/-- After a limit of all, ten cards are shown at most. -/
theorem Turn.limit_of_all_shows_ten :
    ¬ ∀ history s, Settings.load "config.toml"
        (leaveAll history (fun _ => .missing) "config.toml") = .ok s →
      (SearchRequest.options {} s.search).Reflects fun key =>
        lastValue? "config.toml" key history fun _ => .missing := by
  intro hall
  let files : String → File := fun _ => .missing
  have hload : Settings.load "config.toml" (files "config.toml") = .ok {} := rfl
  obtain ⟨s, hs, hset⟩ := setTo_leaveAll hload [setting "search.limit" "all"]
  have hlast : lastValue? "config.toml" "search.limit" [setting "search.limit" "all"] files =
      some "all" := by decide +kernel
  have hunlimited : Assignment.IsUnlimited "all" := by
    rw [← Assignment.readLimit_eq_ok_none_iff]
    decide
  exact (Search.Options.reflects_iff hset []).1 (hall _ s hs) "all" hlast hunlimited

end CardSearch
