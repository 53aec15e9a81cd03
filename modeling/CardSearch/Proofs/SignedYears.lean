import CardSearch.Proofs.InstantOrder
import CardSearch.Proofs.Walks

/-!
# Years with a sign

A year outside 0 to 9999 is printed with a sign, and no reader takes such a text back: an
offset from UTC is read behind a year of four digits only, and the layouts that know a
sign have no room for the zone mark. None of their fields takes that mark off
(`keepsZone_take?`), so it is always left over, and a printed instant with a signed year
tells no instant (`readInstant?_text_of_isSigned`). Its date alone does
(`exists_readInstant?_dateText`).
-/

namespace CardSearch

namespace Time

open Number (padded)

/-! ## The zone mark is left over -/

/-- A reader of a first part that never takes a zone mark off. -/
def KeepsZone {α : Type} (read : List Char → Option (α × List Char)) : Prop :=
  ∀ s a rest, read s = some (a, rest) → 'Z' ∈ s → 'Z' ∈ rest

theorem mem_drop_of_isDigit {s ds : List Char} (hcut : ds <+: s)
    (hds : ∀ c ∈ ds, c.isDigit = true) (hs : 'Z' ∈ s) : 'Z' ∈ s.drop ds.length := by
  obtain ⟨rest, rfl⟩ := hcut
  rw [List.drop_left]
  refine (List.mem_append.1 hs).resolve_left fun hmem => ?_
  cases hds _ hmem

theorem mem_trimStart {s : List Char} (hs : 'Z' ∈ s) : 'Z' ∈ Text.trimStart s := by
  have hcut := List.takeWhile_append_dropWhile (p := Text.isBlank) (l := s)
  rw [← hcut] at hs
  refine (List.mem_append.1 hs).resolve_left fun hmem => ?_
  cases List.mem_takeWhile_imp hmem

theorem keepsZone_takeNumber? (least most : Nat) : KeepsZone (takeNumber? least most) := by
  intro s n rest h hs
  obtain ⟨-, h⟩ := Option.ite_none_right_eq_some.1 h
  obtain ⟨-, rfl⟩ := Prod.mk.inj (Option.some.inj h)
  exact mem_drop_of_isDigit ((List.takeWhile_prefix _).trans (List.take_prefix _ _))
    (fun c => List.mem_takeWhile_imp) hs

theorem keepsZone_takeFraction? : KeepsZone takeFraction? := by
  intro s n rest h hs
  obtain ⟨-, h⟩ := Option.ite_none_left_eq_some.1 h
  obtain ⟨-, rfl⟩ := Prod.mk.inj (Option.some.inj h)
  exact mem_drop_of_isDigit (List.takeWhile_prefix _) (fun c => List.mem_takeWhile_imp) hs

theorem keepsZone_takeOptionalFraction? : KeepsZone takeOptionalFraction? := by
  intro s n rest h hs
  unfold takeOptionalFraction? at h
  split at h
  · exact keepsZone_takeFraction? _ _ _ h (List.mem_of_ne_of_mem (by decide) hs)
  · obtain ⟨-, rfl⟩ := Prod.mk.inj (Option.some.inj h)
    exact hs

theorem KeepsZone.of_map {α β : Type} {read : List Char → Option (α × List Char)}
    (h : KeepsZone read) {g : α × List Char → β × List Char} {s rest : List Char} {b : β}
    (hread : (read s).map g = some (b, rest)) (hs : 'Z' ∈ s) (hg : ∀ q, (g q).2 = q.2) :
    'Z' ∈ rest := by
  obtain ⟨⟨a, rest'⟩, ha, heq⟩ := Option.map_eq_some_iff.1 hread
  have hrest : rest' = rest := (hg (a, rest')).symm.trans (congrArg Prod.snd heq)
  exact hrest ▸ h _ _ _ ha hs

theorem keepsZone_takeYear? : KeepsZone takeYear? := by
  intro s y rest h hs
  unfold takeYear? at h
  split at h
  · exact (keepsZone_takeNumber? _ _).of_map h (List.mem_of_ne_of_mem (by decide) hs) fun _ => rfl
  · exact (keepsZone_takeNumber? _ _).of_map h (List.mem_of_ne_of_mem (by decide) hs) fun _ => rfl
  · exact (keepsZone_takeNumber? _ _).of_map h hs fun _ => rfl

theorem keepsZone_item {item : LayoutItem} (hitem : item ≠ .mark 'Z') (p : Parts) :
    KeepsZone (item.take? p) := by
  intro s p' rest h hs
  cases item with
  | year => exact keepsZone_takeYear?.of_map h (mem_trimStart hs) fun _ => rfl
  | number fill => exact (keepsZone_takeNumber? _ _).of_map h (mem_trimStart hs) fun _ => rfl
  | fraction => exact keepsZone_takeOptionalFraction?.of_map h hs fun _ => rfl
  | gap =>
      obtain ⟨-, rfl⟩ := Prod.mk.inj (Option.some.inj h)
      exact mem_trimStart hs
  | mark c =>
      -- The mark taken off is another character, so the zone mark stands behind it.
      obtain ⟨rest', hrest, heq⟩ := Option.map_eq_some_iff.1 h
      obtain ⟨-, rfl⟩ := Prod.mk.inj heq
      cases s with
      | nil => cases hs
      | cons d s =>
          obtain ⟨rfl, hsome⟩ := Option.ite_none_right_eq_some.1 hrest
          obtain rfl := Option.some.inj hsome
          exact List.mem_of_ne_of_mem (fun e => hitem (congrArg _ e.symm)) hs

theorem keepsZone_take? {layout : Layout} (hlayout : ∀ item ∈ layout, item ≠ .mark 'Z')
    (p : Parts) : KeepsZone (layout.take? p) := by
  induction layout generalizing p with
  | nil =>
      intro s p' rest h hs
      obtain ⟨-, rfl⟩ := Prod.mk.inj (Option.some.inj h)
      exact hs
  | cons item layout ih =>
      intro s p' rest h hs
      obtain ⟨⟨p₁, s₁⟩, hitem, hrest⟩ := Option.bind_eq_some_iff.1 h
      have hs₁ := keepsZone_item (hlayout item List.mem_cons_self) p s p₁ s₁ hitem hs
      exact ih (fun item h => hlayout item (List.mem_cons_of_mem _ h)) p₁ s₁ p' rest hrest hs₁

theorem Layout.read?_eq_none {layout : Layout} (hlayout : ∀ item ∈ layout, item ≠ .mark 'Z')
    {s : List Char} (hs : 'Z' ∈ s) : layout.read? s = none := by
  unfold Layout.read?
  split
  · next p h => exact absurd (keepsZone_take? hlayout _ _ _ _ h hs) List.not_mem_nil
  · rfl

/-- No layout has room for the zone mark. -/
theorem Layout.ne_zone_mark {layout : Layout} (hlayout : layout ∈ Layout.all) {item : LayoutItem}
    (hitem : item ∈ layout) : item ≠ .mark 'Z' := by
  have hall : ∀ layout ∈ Layout.all, ∀ item ∈ layout, item ≠ .mark 'Z' := by
    simp [Layout.all, Layout.dateTimes, Layout.date, Layout.exactClock, Layout.clock, Layout.month,
      Layout.day, Layout.hour, Layout.minute, Layout.second]
  exact hall layout hlayout item hitem

/-! ## Texts that begin with a sign -/

theorem yearSign_cases (y : Int) : yearSign y = '-' ∨ yearSign y = '+' := by
  unfold yearSign
  split
  · exact Or.inl rfl
  · exact Or.inr rfl

theorem isDigit_yearSign (y : Int) : (yearSign y).isDigit = false := by
  rcases yearSign_cases y with h | h <;> rw [h] <;> rfl

theorem isBlank_yearSign (y : Int) : Text.isBlank (yearSign y) = false := by
  rcases yearSign_cases y with h | h <;> rw [h] <;> rfl

/-- An offset from UTC is read behind a year of four digits only. -/
theorem readWithOffset?_eq_none {c : Char} (hc : c.isDigit = false) (s : List Char) :
    readWithOffset? (c :: s) = none := by
  have hyear : takeNumber? 4 4 (c :: s) = none := by
    simp only [takeNumber?, List.take_succ_cons, List.takeWhile_cons, hc, Bool.false_eq_true,
      if_false, List.length_nil]
    rfl
  unfold readWithOffset?
  rw [hyear]
  rfl

namespace Instant

variable {t : Instant}

theorem head?_text (h : IsSigned t.date.year) : t.text.head? = some (yearSign t.date.year) := by
  rw [text_eq_fields, yearText_of_isSigned h]
  rfl

theorem trim_text_of_isSigned (h : IsSigned t.date.year) : Text.trim t.text = t.text := by
  refine Text.trim_eq_self (fun c hc => ?_) (fun c hc => ?_)
  · rw [head?_text h] at hc
    exact Option.some.inj hc ▸ isBlank_yearSign _
  · rw [getLast?_text] at hc
    exact Option.some.inj hc ▸ rfl

/-- An instant with a signed year is not read from its text. -/
theorem readInstant?_text_of_isSigned (h : IsSigned t.date.year) : readInstant? t.text = none := by
  obtain ⟨s, hs⟩ := List.head?_eq_some_iff.1 (head?_text h)
  have hoffset : readWithOffset? t.text = none :=
    hs ▸ readWithOffset?_eq_none (isDigit_yearSign _) s
  unfold readInstant?
  simp only [trim_text_of_isSigned h, hoffset, Option.none_or, List.findSome?_eq_none_iff]
  intro layout hlayout
  rw [Layout.readInstant?, Layout.read?_eq_none (fun _ => Layout.ne_zone_mark hlayout)
    (List.mem_of_getLast? t.getLast?_text)]
  rfl

/-- The text of an instant is no whole number, as none ends with the zone mark. -/
theorem readInt?_text (t : Instant) : Number.readInt? t.text = none := by
  have hlast := t.getLast?_text
  refine Option.eq_none_iff_forall_ne_some.2 fun n hn => ?_
  have hwritten := Number.readInt?_eq_some_iff.1 hn
  generalize t.text = s at hlast hwritten
  cases hwritten with
  | plain h => cases h.2 _ (List.mem_of_getLast? hlast)
  | plus h | minus h => cases h.2 _ (List.mem_of_getLast? (getLast?_of_cons hlast (by decide)))

end Instant

/-! ## Dates alone -/

/-- Digits that fit into a field are taken off as a whole. -/
theorem takeNumber?_append {least most : Nat} {ds rest : List Char}
    (hds : ∀ c ∈ ds, c.isDigit = true) (hleast : least ≤ ds.length) (hmost : ds.length ≤ most)
    (hrest : ∀ c ∈ rest.head?, c.isDigit = false) :
    takeNumber? least most (ds ++ rest) = some (Number.ofDigits ds, rest) := by
  have htake : ((ds ++ rest).take most).takeWhile Char.isDigit = ds := by
    rw [List.take_append, List.take_of_length_le hmost]
    refine takeWhile_isDigit_append hds fun c hc => hrest c ?_
    rw [List.head?_take] at hc
    split at hc
    · cases hc
    · exact hc
  simp only [takeNumber?, htake, hleast, if_true, List.drop_left]

theorem le_length_padded (width n : Nat) : width ≤ (padded width n).length := by
  rw [padded, List.length_append, List.length_replicate]
  omega

theorem takeYear?_yearText {y : Int} (h : IsSigned y) {rest : List Char}
    (hrest : ∀ c ∈ rest.head?, c.isDigit = false) :
    takeYear? (yearText y ++ rest) = some (y, rest) := by
  have htake := takeNumber?_append (fun _ => Number.isDigit_of_mem_padded)
    (Nat.le_trans (by decide : 1 ≤ 4) (le_length_padded 4 y.natAbs))
    (List.length_append ▸ Nat.le_add_right _ rest.length) hrest
  rw [yearText_of_isSigned h, List.cons_append, yearSign]
  split
  · next hneg =>
      rw [takeYear?, htake, Option.map_some, Number.ofDigits_padded]
      exact congrArg some (Prod.ext (by omega : -(y.natAbs : Int) = y) rfl)
  · next hpos =>
      rw [takeYear?, htake, Option.map_some, Number.ofDigits_padded]
      exact congrArg some (Prod.ext (Int.natAbs_of_nonneg (Int.not_lt.1 hpos)) rfl)

theorem take?_number_padded {n : Nat} (h : n < 100) (fill : Parts → Nat → Parts) (p : Parts)
    {rest : List Char} (hrest : ∀ c ∈ rest.head?, c.isDigit = false) :
    (LayoutItem.number fill).take? p (padded 2 n ++ rest) = some (fill p n, rest) := by
  have hlen := length_padded (by decide : 0 < 2) h
  have hdigits : ∀ c ∈ padded 2 n, c.isDigit = true := fun _ => Number.isDigit_of_mem_padded
  have hstart : Text.trimStart (padded 2 n ++ rest) = padded 2 n ++ rest := by
    refine Text.trimStart_eq_self fun c hc => Text.isBlank_of_isDigit (hdigits c ?_)
    rw [List.head?_append_of_ne_nil _ (List.ne_nil_of_length_pos (by omega))] at hc
    exact List.mem_of_mem_head? hc
  rw [LayoutItem.take?, hstart, takeNumber?_append hdigits (by omega) (by omega) hrest,
    Option.map_some, Number.ofDigits_padded]

theorem Date.text_eq_fields (d : Date) :
    d.text = yearText d.year ++ '-' :: (padded 2 d.month ++ '-' :: padded 2 d.day) := by
  rw [Date.text]
  simp only [List.append_assoc, List.cons_append]

/-- A date with a signed year is read as its year, month and day. -/
theorem read?_dateText {d : Date} (hyear : IsSigned d.year) (hvalid : d.isValid = true) :
    Layout.date.read? d.text = some { year := d.year, month := d.month, day := d.day } := by
  obtain ⟨hmonth, hday⟩ := Date.day_le_of_isValid hvalid
  have hdash : ∀ s : List Char, ∀ c ∈ ('-' :: s).head?, c.isDigit = false := by
    intro s c hc
    obtain rfl := Option.some.inj hc
    rfl
  have hstart : ∀ s : List Char, Text.trimStart (yearText d.year ++ s) = yearText d.year ++ s := by
    intro s
    refine Text.trimStart_eq_self fun c hc => ?_
    rw [yearText_of_isSigned hyear] at hc
    exact Option.some.inj hc ▸ isBlank_yearSign _
  have hyearItem : ∀ p s, LayoutItem.year.take? p (yearText d.year ++ '-' :: s) =
      some ({ p with year := d.year }, '-' :: s) := by
    intro p s
    rw [LayoutItem.take?, hstart, takeYear?_yearText hyear (hdash s), Option.map_some]
  have hmark : ∀ p s, (LayoutItem.mark '-').take? p ('-' :: s) = some (p, s) := fun _ _ => rfl
  have hdayItem : ∀ p,
      Layout.day.take? p (padded 2 d.day) = some ({ p with day := d.day }, []) := by
    intro p
    have hnil : ∀ c ∈ ([] : List Char).head?, c.isDigit = false := nofun
    have htake := take?_number_padded (Nat.lt_of_le_of_lt hday (by decide))
      (fun p n => { p with day := n }) p hnil
    rwa [List.append_nil] at htake
  have htake : Layout.date.take? {} d.text =
      some ({ year := d.year, month := d.month, day := d.day }, []) := by
    rw [d.text_eq_fields]
    refine (bind_of_eq_some (hyearItem _ _) _).trans ?_
    refine (bind_of_eq_some (hmark _ _) _).trans ?_
    refine (bind_of_eq_some (take?_number_padded (by omega) _ _ (hdash _)) _).trans ?_
    refine (bind_of_eq_some (hmark _ _) _).trans ?_
    refine (bind_of_eq_some (hdayItem _) _).trans ?_
    rfl
  rw [Layout.read?, htake]

theorem trim_dateText {d : Date} (hyear : IsSigned d.year) : Text.trim d.text = d.text := by
  have hblank : ∀ c ∈ d.text, Text.isBlank c = false := by
    have hdigits : ∀ w n c, c ∈ padded w n → Text.isBlank c = false := fun w n c hc =>
      Text.isBlank_of_isDigit (Number.isDigit_of_mem_padded hc)
    have hdash : Text.isBlank '-' = false := rfl
    rw [d.text_eq_fields, yearText_of_isSigned hyear]
    simp only [List.cons_append, List.forall_mem_cons, List.forall_mem_append]
    exact ⟨isBlank_yearSign _, hdigits _ _, hdash, hdigits _ _, hdash, hdigits _ _⟩
  exact Text.trim_eq_self (fun c hc => hblank c (List.mem_of_mem_head? hc))
    (fun c hc => hblank c (List.mem_of_getLast? hc))

/-- A date that exists has a first moment. -/
theorem isSome_instant?_date {d : Date} (hvalid : d.isValid = true) (hrange : d.isInRange = true) :
    (Parts.instant? { year := d.year, month := d.month, day := d.day } 0).isSome = true := by
  have hdate : Parts.date { year := d.year, month := d.month, day := d.day } = d := rfl
  have hnanos : 0 < nanosPerSecond := by decide
  unfold Parts.instant?
  rw [dif_pos hnanos, if_pos (by simp [hdate, hvalid, hrange])]
  split <;> rfl

/-- A date with a signed year tells an instant where its text with a clock does not. -/
theorem exists_readInstant?_dateText {d : Date} (hyear : IsSigned d.year)
    (hvalid : d.isValid = true) (hrange : d.isInRange = true) :
    ∃ x, readInstant? d.text = some x := by
  have hoffset : readWithOffset? d.text = none := by
    rw [d.text_eq_fields, yearText_of_isSigned hyear]
    exact readWithOffset?_eq_none (isDigit_yearSign _) _
  have hdate : (Layout.readInstant? d.text Layout.date).isSome = true := by
    rw [Layout.readInstant?, read?_dateText hyear hvalid]
    exact isSome_instant?_date hvalid hrange
  refine Option.isSome_iff_exists.1 ?_
  simp only [readInstant?, trim_dateText hyear, hoffset, Option.none_or]
  exact List.findSome?_isSome_iff.2 ⟨Layout.date, by simp [Layout.all], hdate⟩

end Time

end CardSearch
