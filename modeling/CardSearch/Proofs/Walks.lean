import CardSearch.Card.Path

/-!
# Walks along paths

A path with a point in it is walked in two parts, so what it leads to hangs on where
its first part ends, and on nothing that was passed on the way. From an object the
second part is a path of its own, a single value ends the walk for good, and a list or a
fan takes a segment that tells a position and sends all others to nothing.

A position is an integer as it is written, with blanks around it. The grammar is given
apart from the reader (`IsWritten`, `IsPosition`), and the reader takes what it allows
and no more (`readInt?_eq_some_iff`, `readInt?_trim_eq_some_iff`).
-/

namespace CardSearch

/-! ## Integers as they are written -/

namespace Number

/-- One or more digits, with any number of zeros at the front. -/
def IsDigits (ds : List Char) : Prop := ds ≠ [] ∧ ∀ c ∈ ds, c.isDigit = true

/-- An integer is written in digits, a minus or a plus before them or no sign. -/
inductive IsWritten : List Char → Int → Prop
  | plain {ds : List Char} (h : IsDigits ds) : IsWritten ds (ofDigits ds)
  | plus {ds : List Char} (h : IsDigits ds) : IsWritten ('+' :: ds) (ofDigits ds)
  | minus {ds : List Char} (h : IsDigits ds) : IsWritten ('-' :: ds) (-(ofDigits ds : Int))

theorem readNat?_eq_some_iff {s : List Char} {n : Nat} :
    readNat? s = some n ↔ IsDigits s ∧ ofDigits s = n := by
  unfold readNat?
  split
  · next h =>
      rw [Option.some_inj]
      exact (and_iff_right ⟨h.1, List.all_eq_true.1 h.2⟩).symm
  · next h =>
      exact ⟨nofun, fun ⟨hdigits, _⟩ => absurd ⟨hdigits.1, List.all_eq_true.2 hdigits.2⟩ h⟩

theorem IsDigits.head_ne {ds : List Char} (h : IsDigits ds) {c : Char} {rest : List Char}
    (hc : c.isDigit = false) : ds ≠ c :: rest := by
  intro heq
  have hdigit := h.2 c (heq ▸ List.mem_cons_self)
  rw [hc] at hdigit
  cases hdigit

theorem readInt?_minus (ds : List Char) :
    readInt? ('-' :: ds) = (readNat? ds).map fun n => -(Int.ofNat n) := by
  rw [readInt?]
  cases readNat? ds <;> rfl

theorem readInt?_eq_some_iff {s : List Char} {n : Int} :
    readInt? s = some n ↔ IsWritten s n := by
  constructor
  · intro h
    unfold readInt? at h
    split at h
    · next ds =>
        change readInt? ('-' :: ds) = some n at h
        rw [readInt?_minus] at h
        obtain ⟨k, hk, rfl⟩ := Option.map_eq_some_iff.1 h
        obtain ⟨hdigits, rfl⟩ := readNat?_eq_some_iff.1 hk
        exact .minus hdigits
    · obtain ⟨k, hk, rfl⟩ := Option.map_eq_some_iff.1 h
      obtain ⟨hdigits, rfl⟩ := readNat?_eq_some_iff.1 hk
      exact .plus hdigits
    · obtain ⟨k, hk, rfl⟩ := Option.map_eq_some_iff.1 h
      obtain ⟨hdigits, rfl⟩ := readNat?_eq_some_iff.1 hk
      exact .plain hdigits
  · intro h
    cases h with
    | plain h =>
        unfold readInt?
        split
        · exact absurd rfl (h.head_ne (by decide))
        · exact absurd rfl (h.head_ne (by decide))
        · rw [readNat?_eq_some_iff.2 ⟨h, rfl⟩]
          rfl
    | plus h =>
        rw [readInt?, readNat?_eq_some_iff.2 ⟨h, rfl⟩]
        rfl
    | minus h =>
        rw [readInt?_minus, readNat?_eq_some_iff.2 ⟨h, rfl⟩]
        rfl

theorem IsWritten.ne_nil {s : List Char} {n : Int} (h : IsWritten s n) : s ≠ [] := by
  cases h with
  | plain h => exact h.1
  | plus h | minus h => exact List.cons_ne_nil _ _

theorem IsWritten.isBlank_eq_false {s : List Char} {n : Int} (h : IsWritten s n) :
    ∀ c ∈ s, Text.isBlank c = false := by
  intro c hc
  cases h with
  | plain h => exact Text.isBlank_of_isDigit (h.2 c hc)
  | plus h | minus h =>
      rcases List.mem_cons.1 hc with rfl | hc
      · decide
      · exact Text.isBlank_of_isDigit (h.2 c hc)

end Number

/-! ## Blanks around a text -/

namespace Text

theorem trimStart_append {before : List Char} (h : ∀ c ∈ before, isBlank c = true)
    (s : List Char) : trimStart (before ++ s) = trimStart s :=
  List.dropWhile_append_of_pos h

theorem trimEnd_append_of_blank {after : List Char} (h : ∀ c ∈ after, isBlank c = true)
    (s : List Char) : trimEnd (s ++ after) = trimEnd s := by
  have hreverse : ∀ c ∈ after.reverse, isBlank c = true :=
    fun c hc => h c (List.mem_reverse.1 hc)
  rw [trimEnd, List.reverse_append, List.dropWhile_append_of_pos hreverse, trimEnd]

/-- What stands between blanks is what a trim leaves. -/
theorem trim_between {before s after : List Char} (hs : ∀ c ∈ s, isBlank c = false)
    (hbefore : ∀ c ∈ before, isBlank c = true) (hafter : ∀ c ∈ after, isBlank c = true)
    (hne : s ≠ []) : trim (before ++ s ++ after) = s := by
  have hstart : trimStart (s ++ after) = s ++ after := by
    cases s with
    | nil => exact absurd rfl hne
    | cons c rest =>
        refine trimStart_eq_self fun d hd => hs d ?_
        rw [← Option.some.inj hd]
        exact List.mem_cons_self
  rw [trim, List.append_assoc, trimStart_append hbefore, hstart, trimEnd_append_of_blank hafter]
  exact trimEnd_eq_self fun c hc => hs c (List.mem_of_getLast? hc)

/-- A text is what a trim leaves of it, between blanks. -/
theorem exists_between (s : List Char) :
    ∃ before after, s = before ++ trim s ++ after ∧
      (∀ c ∈ before, isBlank c = true) ∧ ∀ c ∈ after, isBlank c = true := by
  have hstart : s = s.takeWhile isBlank ++ trimStart s :=
    List.takeWhile_append_dropWhile.symm
  have hend : trimStart s = trim s ++ ((trimStart s).reverse.takeWhile isBlank).reverse := by
    have hcut := congrArg List.reverse
      (List.takeWhile_append_dropWhile (p := isBlank) (l := (trimStart s).reverse))
    rw [List.reverse_append, List.reverse_reverse] at hcut
    exact hcut.symm
  refine ⟨s.takeWhile isBlank, ((trimStart s).reverse.takeWhile isBlank).reverse, ?_, ?_, ?_⟩
  · rw [List.append_assoc, ← hend, ← hstart]
  · exact List.all_eq_true.1 List.all_takeWhile
  · intro c hc
    exact List.all_eq_true.1 List.all_takeWhile c (List.mem_reverse.1 hc)

end Text

/-! ## Positions in a list -/

/-- The segments that tell a position: an integer as it is written, with blanks around it. -/
def IsPosition (segment : List Char) (i : Int) : Prop :=
  ∃ before s after, segment = before ++ s ++ after ∧ Number.IsWritten s i ∧
    (∀ c ∈ before, Text.isBlank c = true) ∧ ∀ c ∈ after, Text.isBlank c = true

theorem readInt?_trim_eq_some_iff {segment : List Char} {i : Int} :
    Number.readInt? (Text.trim segment) = some i ↔ IsPosition segment i := by
  constructor
  · intro h
    obtain ⟨before, after, hcut, hbefore, hafter⟩ := Text.exists_between segment
    exact ⟨before, _, after, hcut, Number.readInt?_eq_some_iff.1 h, hbefore, hafter⟩
  · intro ⟨before, s, after, hcut, hwritten, hbefore, hafter⟩
    rw [hcut, Text.trim_between hwritten.isBlank_eq_false hbefore hafter hwritten.ne_nil]
    exact Number.readInt?_eq_some_iff.2 hwritten

/-- A position counted from the front of a list; a negative one is counted from its end. -/
def fromFront (length : Nat) (i : Int) : Int := if i < 0 then length + i else i

theorem fromFront_inside_iff {length : Nat} {i : Int} :
    0 ≤ fromFront length i ∧ fromFront length i < length ↔ -(length : Int) ≤ i ∧ i < length := by
  unfold fromFront
  split <;> omega

namespace Place

variable {items : List Json} {segment : List Char} {i : Int}

theorem item?_of_isPosition (h : IsPosition segment i) (hrange : Number.isInt64 i = true) :
    item? items segment =
      if 0 ≤ fromFront items.length i then items[(fromFront items.length i).toNat]? else none := by
  have hread : Number.readInt64? (Text.trim segment) = some i := by
    rw [Number.readInt64?, readInt?_trim_eq_some_iff.2 h, Option.filter_some, if_pos hrange]
  rw [item?, hread]
  rfl

theorem exists_item? (h : IsPosition segment i) (hrange : Number.isInt64 i = true)
    (hlow : -(items.length : Int) ≤ i) (hhigh : i < items.length) :
    ∃ v, items[(fromFront items.length i).toNat]? = some v ∧ item? items segment = some v := by
  obtain ⟨hfront, hlength⟩ := fromFront_inside_iff.2 ⟨hlow, hhigh⟩
  have hplace : (fromFront items.length i).toNat < items.length := by omega
  refine ⟨_, List.getElem?_eq_getElem hplace, ?_⟩
  rw [item?_of_isPosition h hrange, if_pos hfront, List.getElem?_eq_getElem hplace]

theorem item?_eq_none
    (h : ∀ i, IsPosition segment i → Number.isInt64 i = true →
      ¬ (-(items.length : Int) ≤ i ∧ i < items.length)) :
    item? items segment = none := by
  cases hread : Number.readInt64? (Text.trim segment) with
  | none =>
      rw [item?, hread]
      rfl
  | some i =>
      obtain ⟨hint, hrange⟩ := Option.filter_eq_some_iff.1 hread
      have hsegment := readInt?_trim_eq_some_iff.1 hint
      have houtside := h i hsegment hrange
      rw [← fromFront_inside_iff] at houtside
      rw [item?_of_isPosition hsegment hrange]
      split
      · refine List.getElem?_eq_none ?_
        omega
      · rfl

/-! ## Where a walk ends -/

/-- The items among which a segment may choose, in a list or a fan. -/
def items? : Place → Option (List Json)
  | value (.array items) => some items
  | fan items => some items
  | _ => none

theorem step_of_items? {place : Place} (h : place.items? = some items) (segment : List Char) :
    place.step segment = ofItem? (item? items segment) := by
  cases place with
  | value v =>
      cases v with
      | array vs =>
          cases h
          rfl
      | null | bool b | number n | string s | object fields => cases h
  | fan vs =>
      cases h
      rfl
  | missing | ended f => cases h

/-- A key that is not there is walked on from as if there were an object without keys. -/
theorem walk_missing {segments : List (List Char)} (h : segments ≠ []) :
    missing.walk segments = (value (.object [])).walk segments := by
  cases segments with
  | nil => exact absurd rfl h
  | cons segment rest => rfl

end Place

/-- A text, a number, yes, no or null. -/
def Json.IsSingle : Json → Prop
  | .array _ | .object _ => False
  | _ => True

/-- What a path leads to from a value. -/
def Json.column (v : Json) (path : List Char) : Found :=
  ((Place.value v).walk (Text.parts '.' path)).found

theorem Place.walk_of_isSingle {v : Json} (h : v.IsSingle) {segments : List (List Char)}
    (hne : segments ≠ []) : (value v).walk segments = ended (.ofValue v) := by
  cases segments with
  | nil => exact absurd rfl hne
  | cons segment rest =>
      cases v with
      | array items | object fields => exact h.elim
      | null | bool b | number n | string s => exact walk_ended _ rest

theorem Number.isInt64_of_inside {length : Nat} {i : Int}
    (h : isInt64 i = true ∨ (length : Int) ≤ maxInt64) (hlow : -(length : Int) ≤ i)
    (hhigh : i < length) : isInt64 i = true := by
  rcases h with hrange | hlength
  · exact hrange
  · rw [isInt64, Bool.and_eq_true, decide_eq_true_iff, decide_eq_true_iff]
    unfold minInt64
    unfold maxInt64 at *
    omega

namespace Card

variable {card : Card} {p : List Char}

theorem place_append_segment {segment : List Char} (h : '.' ∉ segment) :
    card.place (p ++ '.' :: segment) = (card.place p).step segment := by
  rw [place_append, Text.parts_eq_singleton h]
  rfl

theorem column_append (q : List Char) :
    card.column (p ++ '.' :: q) = ((card.place p).walk (Text.parts '.' q)).found := by
  rw [column, place_append]

theorem column_append_of_value {v : Json} (h : card.place p = .value v) (q : List Char) :
    card.column (p ++ '.' :: q) = v.column q := by
  rw [column_append, h]
  rfl

theorem place_append_of_ended {f : Found} (h : card.place p = .ended f) (q : List Char) :
    card.place (p ++ '.' :: q) = .ended f := by
  rw [place_append, h, Place.walk_ended]

theorem column_of_ended {f : Found} (h : card.place p = .ended f) : card.column p = f := by
  rw [column, h]
  rfl

theorem column_append_of_ended {f : Found} (h : card.place p = .ended f) (q : List Char) :
    card.column (p ++ '.' :: q) = f :=
  column_of_ended (place_append_of_ended h q)

theorem place_append_of_isSingle {v : Json} (hv : v.IsSingle) (h : card.place p = .value v)
    (q : List Char) : card.place (p ++ '.' :: q) = .ended (.ofValue v) := by
  rw [place_append, h, Place.walk_of_isSingle hv (Text.parts_ne_nil '.' q)]

/-- What a path leads to beyond a point is settled by where the walk is at the point. From an
object it goes on as a path of that object, from a key that is missing as one of an object
without keys. A single value ends the walk, and a walk that has ended stays where it is. A
list or a fan goes on from the item at the position that the next segment tells, and leads
nowhere by any other segment. A position has 64 bits, as all of a list of less than 2^63
items have. -/
theorem paths_compose (card : Card) (p : List Char) :
    (∀ fields, card.place p = .value (.object fields) → ∀ q,
      card.column (p ++ '.' :: q) = (Card.mk fields).column q) ∧
    (card.place p = .missing → ∀ q, card.column (p ++ '.' :: q) = (Card.mk []).column q) ∧
    (∀ v, v.IsSingle → card.place p = .value v → ∀ q,
      card.place (p ++ '.' :: q) = .ended (.ofValue v) ∧
        card.column (p ++ '.' :: q) = card.column p) ∧
    (∀ f, card.place p = .ended f → ∀ q,
      card.place (p ++ '.' :: q) = .ended f ∧ card.column (p ++ '.' :: q) = card.column p) ∧
    ∀ items segment, (card.place p).items? = some items → '.' ∉ segment →
      (∀ i, IsPosition segment i →
        Number.isInt64 i = true ∨ (items.length : Int) ≤ Number.maxInt64 →
        -(items.length : Int) ≤ i → i < items.length →
        ∃ v, items[(fromFront items.length i).toNat]? = some v ∧
          card.column (p ++ '.' :: segment) = .ofValue v ∧
          ∀ q, card.column ((p ++ '.' :: segment) ++ '.' :: q) = v.column q) ∧
      ((∀ i, IsPosition segment i → Number.isInt64 i = true →
          ¬ (-(items.length : Int) ≤ i ∧ i < items.length)) →
        card.column (p ++ '.' :: segment) = .absent ∧
          ∀ q, card.column ((p ++ '.' :: segment) ++ '.' :: q) = .absent) := by
  refine ⟨fun fields h q => ?_, fun h q => ?_, fun v hv h q => ?_, fun f h q => ?_,
    fun items segment hitems hpoint => ?_⟩
  · exact column_append_of_value h q
  · rw [column_append, h, Place.walk_missing (Text.parts_ne_nil '.' q)]
    rfl
  · have hplace := place_append_of_isSingle hv h q
    refine ⟨hplace, ?_⟩
    rw [column_of_ended hplace, column, h]
    rfl
  · refine ⟨place_append_of_ended h q, ?_⟩
    rw [column_append_of_ended h, column_of_ended h]
  · have hstep : card.place (p ++ '.' :: segment) = .ofItem? (Place.item? items segment) := by
      rw [place_append_segment hpoint, Place.step_of_items? hitems]
    constructor
    · intro i hsegment hrange hlow hhigh
      obtain ⟨v, hv, hitem⟩ := Place.exists_item? hsegment
        (Number.isInt64_of_inside hrange hlow hhigh) hlow hhigh
      rw [hitem] at hstep
      refine ⟨v, hv, ?_, column_append_of_value hstep⟩
      rw [column, hstep]
      rfl
    · intro houtside
      rw [Place.item?_eq_none houtside] at hstep
      exact ⟨column_of_ended hstep, column_append_of_ended hstep⟩

/-- A card with a text, an object without keys and a list. -/
def cardWithTags : Card :=
  ⟨[("front", .string "t"), ("stat", .object []),
    ("tag", .array [.string "x", .object [("k", .number (.int 1))]])]⟩

theorem paths_compose_tags :
    (cardWithTags.place "stat".toList = .value (.object []) ∧
      cardWithTags.column ("stat".toList ++ '.' :: ['*']) = .many []) ∧
    (cardWithTags.place "key".toList = .missing ∧
      cardWithTags.column ("key".toList ++ '.' :: "k.*".toList) = .many []) ∧
    (cardWithTags.place "front".toList = .value (.string "t") ∧
      cardWithTags.place ("front".toList ++ '.' :: ['0']) = .ended (.one (.string "t")) ∧
      cardWithTags.column (("front".toList ++ '.' :: ['0']) ++ '.' :: ['*']) =
        .one (.string "t")) ∧
    (IsPosition " -1".toList (-1) ∧
      cardWithTags.column (("tag".toList ++ '.' :: " -1".toList) ++ '.' :: ['k']) =
        .one (.number (.int 1))) ∧
    cardWithTags.column (("tag".toList ++ '.' :: ['*']) ++ '.' :: ['k']) = .absent := by
  have hstat : cardWithTags.place "stat".toList = .value (.object []) := by rfl
  have hkey : cardWithTags.place "key".toList = .missing := by rfl
  have hfront : cardWithTags.place "front".toList = .value (.string "t") := by rfl
  have hlast : IsPosition " -1".toList (-1) := readInt?_trim_eq_some_iff.1 (by decide)
  have hevery : ∀ i, ¬ IsPosition ['*'] i := by
    intro i h
    cases readInt?_trim_eq_some_iff.2 h
  have hend := ((paths_compose cardWithTags "front".toList).2.2.1 (.string "t") trivial hfront ['0']).1
  have htag := (paths_compose cardWithTags "tag".toList).2.2.2.2
    [.string "x", .object [("k", .number (.int 1))]]
  refine ⟨⟨hstat, ?_⟩, ⟨hkey, ?_⟩, ⟨hfront, hend, ?_⟩, ⟨hlast, ?_⟩, ?_⟩
  · exact (paths_compose cardWithTags _).1 _ hstat ['*']
  · exact (paths_compose cardWithTags _).2.1 hkey "k.*".toList
  · exact ((paths_compose cardWithTags _).2.2.2.1 _ hend ['*']).2
  · obtain ⟨v, hv, -, hon⟩ := (htag " -1".toList rfl (by decide)).1 (-1) hlast
      (Or.inl (by decide)) (by decide) (by decide)
    cases hv
    exact hon ['k']
  · exact ((htag ['*'] rfl (by decide)).2 fun i h => absurd h (hevery i)).2 ['k']

end Card

end CardSearch
