import CardSearch.Proofs.Words

/-!
# Hidden values

A value that begins with the mark `@nosearch` is left out of the search over all
custom fields, and only there: a field still finds it by name. A bare word asks
six fields by name besides, so it finds a hidden value when that is the custom
field of one of the six, and it cannot find it otherwise. Put the other way
round, taking the hidden entries off a card takes no hit away but such a one.

Entries are taken off one by one, whatever their keys. An entry that is not
hidden stays the first of its key if it was (`customField?_withoutHidden`), and
this is all that a field can see of the list.
-/

namespace CardSearch

namespace CustomField

/-- Whether a value is text with the mark. -/
def isHidden (v : Json) : Bool := v.string?.any fun s => hiddenMark.isPrefixOf s.toList

theorem isHidden_of_isSearchable {v : Json} (h : isSearchable v = true) : isHidden v = false := by
  unfold isSearchable at h
  unfold isHidden
  cases hs : v.string? with
  | none => rfl
  | some s =>
      rw [hs, Option.any_some, Bool.not_eq_true'] at h
      rw [Option.any_some, h]

theorem isHidden_iff {v : Json} :
    isHidden v = true ↔ ∃ s, v = .string s ∧ hiddenMark <+: s.toList := by
  unfold isHidden
  cases v with
  | string s =>
      show hiddenMark.isPrefixOf s.toList = true ↔ _
      rw [List.isPrefixOf_iff_prefix]
      exact ⟨fun h => ⟨s, rfl, h⟩, fun ⟨t, ht, h⟩ => Json.string.inj ht ▸ h⟩
  | _ => exact ⟨nofun, nofun⟩

end CustomField

open CustomField (isHidden isSearchable)

namespace Card

/-! ## Cards without their hidden entries -/

/-- Whether an entry of the list of custom fields has a hidden value. -/
def isHiddenEntry (entry : Json) : Bool := (entry.field? "value").any isHidden

/-- A list without its hidden entries; any other value as it is. -/
def withoutHiddenEntries : Json → Json
  | .array entries => .array (entries.filter (!isHiddenEntry ·))
  | v => v

/-- The card with all hidden entries taken off its list of custom fields. -/
def withoutHidden (c : Card) : Card :=
  ⟨c.fields.map fun (key, v) => (key, if key = "data" then withoutHiddenEntries v else v)⟩

theorem lookup_withoutHidden (c : Card) (key : String) :
    c.withoutHidden.fields.lookup key =
      (c.fields.lookup key).map fun v => if key = "data" then withoutHiddenEntries v else v := by
  unfold withoutHidden
  induction c.fields with
  | nil => rfl
  | cons field rest ih =>
      obtain ⟨k, v⟩ := field
      rw [List.map_cons, List.lookup_cons, List.lookup_cons]
      cases hk : key == k with
      | false => exact ih
      | true =>
          rw [beq_iff_eq.1 hk]
          rfl

theorem field?_value_of_ofJson? {entry : Json} {f : CustomField}
    (h : CustomField.ofJson? entry = some f) : entry.field? "value" = some f.value := by
  unfold CustomField.ofJson? at h
  obtain ⟨key, -, h⟩ := Option.bind_eq_some_iff.1 h
  obtain ⟨name, -, h⟩ := Option.bind_eq_some_iff.1 h
  obtain ⟨v, hv, rfl⟩ := Option.map_eq_some_iff.1 h
  exact hv

/-- What a custom field is hidden for is what its entry is taken off for. -/
theorem ofJson?_of_isHiddenEntry (entry : Json) :
    (if !isHiddenEntry entry then CustomField.ofJson? entry else none) =
      (CustomField.ofJson? entry).filter (!isHidden ·.value) := by
  cases h : CustomField.ofJson? entry with
  | none => exact ite_self none
  | some f =>
      rw [isHiddenEntry, field?_value_of_ofJson? h, Option.any_some, Option.filter]

theorem customFields?_withoutHidden (c : Card) :
    c.withoutHidden.customFields? =
      c.customFields?.map fun entries => entries.filter (!isHidden ·.value) := by
  unfold customFields?
  rw [lookup_withoutHidden]
  cases c.fields.lookup "data" with
  | none => rfl
  | some data =>
      cases data with
      | array entries =>
          show some ((entries.filter (!isHiddenEntry ·)).filterMap CustomField.ofJson?) =
            some ((entries.filterMap CustomField.ofJson?).filter (!isHidden ·.value))
          rw [List.filterMap_filter, List.filter_filterMap]
          exact congrArg (fun f => some (entries.filterMap f)) (funext ofJson?_of_isHiddenEntry)
      | _ => rfl

/-- The search over all custom fields does not see the hidden entries anyway. -/
theorem searchableValues?_withoutHidden (c : Card) :
    c.withoutHidden.searchableValues? = c.searchableValues? := by
  unfold searchableValues?
  rw [customFields?_withoutHidden, Option.map_map]
  cases c.customFields? with
  | none => rfl
  | some entries =>
      refine congrArg some ?_
      show ((entries.filter (!isHidden ·.value)).map (·.value)).filter isSearchable =
        (entries.map (·.value)).filter isSearchable
      rw [List.filter_map, List.filter_map, List.filter_filter]
      refine congrArg _ (List.filter_congr fun entry _ => ?_)
      cases h : isSearchable entry.value with
      | false => simp [h]
      | true => simp [h, CustomField.isHidden_of_isSearchable h]

theorem find?_filter_of_first {α : Type} {p q : α → Bool} {l : List α}
    (h : ∀ a, l.find? p = some a → q a = true) : (l.filter q).find? p = l.find? p := by
  induction l with
  | nil => rfl
  | cons a l ih =>
      cases hp : p a with
      | true =>
          have hq : q a = true := h a (List.find?_cons_of_pos hp)
          rw [List.filter_cons_of_pos hq, List.find?_cons_of_pos hp, List.find?_cons_of_pos hp]
      | false =>
          have hnot : ¬ p a = true := by rw [hp]; exact Bool.false_ne_true
          rw [List.find?_cons_of_neg hnot] at h ⊢
          cases hq : q a with
          | true => rw [List.filter_cons_of_pos hq, List.find?_cons_of_neg hnot, ih h]
          | false => rw [List.filter_cons_of_neg (by rw [hq]; exact Bool.false_ne_true), ih h]

/-- A custom field that is not hidden is not covered by another either. -/
theorem customField?_withoutHidden {c : Card} {key : String}
    (h : ∀ v, c.customField? key = some v → isHidden v = false) :
    c.withoutHidden.customField? key = c.customField? key := by
  unfold customField? at h ⊢
  rw [customFields?_withoutHidden]
  cases hentries : c.customFields? with
  | none => rfl
  | some entries =>
      rw [hentries, Option.bind_some] at h
      show ((entries.filter (!isHidden ·.value)).find? _).map (·.value) = _
      rw [find?_filter_of_first fun f hf => ?_]
      · rfl
      · rw [h f.value (Option.map_eq_some_iff.2 ⟨f, hf, rfl⟩)]
        rfl

/-! ## What the fields of a word see -/

theorem column_withoutHidden {c : Card} {field : List Char} (hpoint : '.' ∉ field)
    (hkey : field ≠ Place.everyKey) (hdata : String.ofList field ≠ "data") :
    c.withoutHidden.column field = c.column field := by
  rw [column_of_key hpoint hkey, column_of_key hpoint hkey, lookup_withoutHidden]
  simp only [if_neg hdata, Option.map_id']

theorem find_anyCustom_withoutHidden (c : Card) :
    c.withoutHidden.find Query.anyCustomField.toList = c.find Query.anyCustomField.toList := by
  show c.withoutHidden.custom ['*'] = c.custom ['*']
  rw [custom, custom, if_pos rfl, if_pos rfl, searchableValues?_withoutHidden]

theorem wordFields_are_names : ∀ field ∈ Query.wordFields,
    field.toList.head? ≠ some '@' ∧ unsharedFields.contains field.toList = false ∧
      field.toList ≠ Place.everyKey ∧ '.' ∉ field.toList ∧ field ≠ "data" := by
  decide

/-- A field that a word asks by name holds the column and the custom field of that name. -/
theorem find_wordField {field : String} (h : field ∈ Query.wordFields) (c : Card) :
    c.find field.toList = (c.column field.toList).merge
      (((c.customField? field).map Found.ofValue).getD .absent) := by
  obtain ⟨hhead, hshared, hkey, -, -⟩ := wordFields_are_names field h
  have hcustom : c.custom field.toList =
      ((c.customField? field).map Found.ofValue).getD .absent := by
    have hstar : field.toList ≠ ['*'] := hkey
    rw [custom, if_neg hstar, String.ofList_toList]
    cases c.customField? field <;> rfl
  rw [← hcustom]
  unfold find
  split
  · next key hfield =>
      rw [hfield] at hhead
      exact absurd rfl hhead
  · rw [hshared]
    rfl

theorem find_wordField_withoutHidden {c : Card} {field : String}
    (hfield : field ∈ Query.wordFields)
    (h : ∀ v, c.customField? field = some v → isHidden v = false) :
    c.withoutHidden.find field.toList = c.find field.toList := by
  obtain ⟨-, -, hkey, hpoint, hdata⟩ := wordFields_are_names field hfield
  rw [find_wordField hfield, find_wordField hfield, customField?_withoutHidden h,
    column_withoutHidden hpoint hkey (by rwa [String.ofList_toList])]

/-- Of what a word asks by name, nothing goes with the hidden entries but a hidden value. -/
theorem mem_values_withoutHidden {c : Card} {field : String} (hfield : field ∈ Query.wordFields)
    {v : Json} (hv : v ∈ (c.find field.toList).values) :
    v ∈ (c.withoutHidden.find field.toList).values ∨
      c.customField? field = some v ∧ isHidden v = true := by
  by_cases h : ∃ u, c.customField? field = some u ∧ isHidden u = true
  · obtain ⟨u, hu, hhidden⟩ := h
    obtain ⟨-, -, hkey, hpoint, hdata⟩ := wordFields_are_names field hfield
    rw [find_wordField hfield, hu, Found.values_merge, List.mem_append] at hv
    rcases hv with hcolumn | hcustom
    · rw [find_wordField hfield, Found.values_merge, List.mem_append,
        column_withoutHidden hpoint hkey (by rwa [String.ofList_toList])]
      exact Or.inl (Or.inl hcolumn)
    · -- A hidden value is text, so it is all that the custom field holds.
      obtain ⟨s, rfl, -⟩ := CustomField.isHidden_iff.1 hhidden
      obtain rfl := List.mem_singleton.1 hcustom
      exact Or.inr ⟨hu, hhidden⟩
  · have hvisible : ∀ u, c.customField? field = some u → isHidden u = false := fun u hu =>
      Bool.eq_false_iff.2 fun hhidden => h ⟨u, hu, hhidden⟩
    rw [find_wordField_withoutHidden hfield hvisible]
    exact Or.inl hv

end Card

namespace Query

open Card (withoutHidden)
open Text (OccursFolded)
open Time (Instant)

/-! ## What a word finds -/

theorem holds_anyOf_iff_exists {w : List Char} {card : Card} :
    (anyOf w).holds card = true ↔
      (Pattern.ofString? (String.ofList (Pattern.escape w))).isSome = true ∧
      ∃ field ∈ wordFields ++ [anyCustomField], ∃ v ∈ (card.find field.toList).values,
        OccursFolded w (Match.textOf v) := by
  cases hp : Pattern.ofString? (String.ofList (Pattern.escape w)) with
  | some p => exact (holds_anyOf_iff hp).trans (and_iff_right rfl).symm
  | none =>
      rw [anyOf, Condition.holds_any_iff]
      refine ⟨?_, fun h => absurd h.1 Bool.false_ne_true⟩
      rintro ⟨c, hc, hholds⟩
      obtain ⟨field, -, rfl⟩ := List.mem_map.1 hc
      rw [Condition.holds, Condition.meets] at hholds
      have hany : (Pattern.ofString? (String.ofList (Pattern.escape w))).any _ = true := hholds
      rw [hp] at hany
      cases hany

/-- What taking the hidden entries off a card takes away from a word: the hits in a hidden
value that is the custom field of one of the usual fields, and no other. -/
theorem hidden_values_found_by_name_only {w : List Char} (h : IsWord w) (now : Instant)
    (card : Card) :
    (parse now w).result = .ok { condition := .all [anyOf w] } ∧
    ((Matcher.ofCondition (.all [anyOf w])).isMatch card = true →
      (Matcher.ofCondition (.all [anyOf w])).isMatch card.withoutHidden = true ∨
      ∃ field ∈ wordFields, ∃ s, card.customField? field = some (.string s) ∧
        CustomField.hiddenMark <+: s.toList ∧ OccursFolded w s.toList) ∧
    ((∀ field ∈ wordFields, ∀ v, card.customField? field = some v → isHidden v = false) →
      (Matcher.ofCondition (.all [anyOf w])).isMatch card.withoutHidden =
        (Matcher.ofCondition (.all [anyOf w])).isMatch card) := by
  refine ⟨h.parse_eq now, ?_, fun hvisible => ?_⟩
  · rw [Matcher.isMatch_ofCondition, Matcher.isMatch_ofCondition,
      Condition.holds_all_singleton, Condition.holds_all_singleton, holds_anyOf_iff_exists,
      holds_anyOf_iff_exists]
    rintro ⟨hread, field, hfield, v, hv, hfound⟩
    rcases List.mem_append.1 hfield with husual | hcustom
    · rcases Card.mem_values_withoutHidden husual hv with hv | ⟨hv, hhidden⟩
      · exact Or.inl ⟨hread, field, hfield, v, hv, hfound⟩
      · obtain ⟨s, rfl, hmark⟩ := CustomField.isHidden_iff.1 hhidden
        exact Or.inr ⟨field, husual, s, hv, hmark, hfound⟩
    · obtain rfl := List.mem_singleton.1 hcustom
      rw [← Card.find_anyCustom_withoutHidden] at hv
      exact Or.inl ⟨hread, _, hfield, v, hv, hfound⟩
  · have hfind : ∀ field ∈ wordFields ++ [anyCustomField],
        card.withoutHidden.find field.toList = card.find field.toList := by
      intro field hfield
      rcases List.mem_append.1 hfield with husual | hcustom
      · exact Card.find_wordField_withoutHidden husual (hvisible field husual)
      · rw [List.mem_singleton.1 hcustom, Card.find_anyCustom_withoutHidden]
    rw [Matcher.isMatch_ofCondition, Matcher.isMatch_ofCondition,
      Condition.holds_all_singleton, Condition.holds_all_singleton, Bool.eq_iff_iff,
      holds_anyOf_iff_exists, holds_anyOf_iff_exists]
    refine and_congr_right fun _ => exists_congr fun field => and_congr_right fun hfield => ?_
    rw [hfind field hfield]

/-- A card with one custom field, whose value is hidden, before its other fields. -/
def cardHiding (key : String) (fields : Json.Fields) : Card :=
  ⟨("data", .array [.object [("key", .string key), ("value", .string "@nosearch\nsecret")]]) ::
    fields⟩

/-- A word of some length is found in a text that a usual field holds. -/
theorem isMatch_of_infix {w : List Char} (hw : w.length ≤ Pattern.maxLiteral) {card : Card}
    {field : String} (hfield : field ∈ wordFields) {s : String}
    (hs : .string s ∈ (card.find field.toList).values) (hwithin : w <:+: s.toList) :
    (Matcher.ofCondition (.all [anyOf w])).isMatch card = true := by
  rw [Matcher.isMatch_ofCondition, Condition.holds_all_singleton, holds_anyOf_iff_exists]
  obtain ⟨before, after, htext⟩ := hwithin
  exact ⟨Pattern.isSome_ofString?_escape hw, field, List.mem_append_left _ hfield, _, hs,
    before, w, after, htext.symm, List.forall₂_same.2 fun c _ => Text.mem_orbit_self c⟩

theorem hidden_values_found_by_name_only_note :
    IsWord "secret".toList ∧
    (∀ field ∈ wordFields,
      (cardHiding "note" [("front", .string "a secret")]).customField? field = none) ∧
    (Matcher.ofCondition (.all [anyOf "secret".toList])).isMatch
      (cardHiding "note" [("front", .string "a secret")]).withoutHidden = true := by
  have hword : IsWord "secret".toList := IsBareWord.isWord (by decide)
  have hnone : ∀ field ∈ wordFields,
      (cardHiding "note" [("front", .string "a secret")]).customField? field = none := by
    decide
  have hfront : Json.string "a secret" ∈
      ((cardHiding "note" [("front", .string "a secret")]).find "front".toList).values :=
    List.mem_singleton.2 rfl
  have hhit := isMatch_of_infix (by decide : "secret".length ≤ _) (by decide) hfront (by decide)
  obtain ⟨-, -, hsame⟩ := hidden_values_found_by_name_only hword (.ofSeconds 0)
    (cardHiding "note" [("front", .string "a secret")])
  refine ⟨hword, hnone, (hsame fun field hfield v hv => ?_).trans hhit⟩
  rw [hnone field hfield] at hv
  cases hv

theorem hidden_front_found :
    IsWord "secret".toList ∧
    (parse (.ofSeconds 0) "secret".toList).result =
      .ok { condition := .all [anyOf "secret".toList] } ∧
    (Matcher.ofCondition (.all [anyOf "secret".toList])).isMatch (cardHiding "front" []) = true ∧
    (Matcher.ofCondition (.all [anyOf "secret".toList])).isMatch
      (cardHiding "front" []).withoutHidden = false := by
  have hword : IsWord "secret".toList := IsBareWord.isWord (by decide)
  have hfront : Json.string "@nosearch\nsecret" ∈
      ((cardHiding "front" []).find "front".toList).values :=
    List.mem_singleton.2 rfl
  have hempty : ∀ field ∈ wordFields ++ [anyCustomField],
      ((cardHiding "front" []).withoutHidden.find field.toList).values.isEmpty = true := by
    decide
  refine ⟨hword, hword.parse_eq _, isMatch_of_infix (by decide) (by decide) hfront (by decide), ?_⟩
  rw [Matcher.isMatch_ofCondition, Condition.holds_all_singleton, Bool.eq_false_iff, ne_eq,
    holds_anyOf_iff_exists]
  rintro ⟨-, field, hfield, v, hv, -⟩
  rw [List.isEmpty_iff.1 (hempty field hfield)] at hv
  cases hv

end Query

end CardSearch
