import CardSearch.Proofs.TomlText
import CardSearch.Settings.Format
import Mathlib.Data.List.TakeWhile

/-!
# Settings that are written are read back

A settings file is read in two steps, and it comes back in two. Each line that is
written is one statement or none (`Reads`), so that the lines of a file give its
statements one after the other. The statements then fill a table in their order
(`foldlM_add?_entries`), as no key is written twice below one header. Every field of
the table is read as the setting it was written from (`optional?_of_lookup`).
-/

namespace CardSearch.Toml

open Number (digits)

/-! ## Values on a line -/

/-- What is written at the end of a line is the text of a value. -/
structure IsValueText (text : List Char) (v : Toml) : Prop where
  read : ∀ rest, readValue? maxDepth (text ++ '\n' :: rest) = some (v, '\n' :: rest)
  skipSpaces : ∀ rest, skipSpaces (text ++ '\n' :: rest) = text ++ '\n' :: rest

theorem takeToken_line {token : List Char} (h : ∀ c ∈ token, isTokenChar c = true)
    (rest : List Char) : takeToken (token ++ '\n' :: rest) = (token, '\n' :: rest) := by
  have hword : (token ++ '\n' :: rest).takeWhile isTokenChar = token := by
    rw [List.takeWhile_append_of_pos h, List.takeWhile_cons_of_neg (by decide), List.append_nil]
  simp [takeToken, hword]

theorem isSpace_of_test {p : Char → Bool} {c : Char} (hc : p c = true) (hspace : p ' ' = false)
    (htab : p '\t' = false) : isSpace c = false := by
  simp [isSpace, Text.ne_of_test hc hspace, Text.ne_of_test hc htab]

theorem skipSpaces_of_test {p : Char → Bool} {c : Char} (hc : p c = true) (hspace : p ' ' = false)
    (htab : p '\t' = false) (rest : List Char) : skipSpaces (c :: rest) = c :: rest := by
  simp [skipSpaces, isSpace_of_test hc hspace htab]

theorem isValueText_of_token {token : List Char} {v : Toml} (hread : readToken? token = some v)
    (htoken : ∀ c ∈ token, isTokenChar c = true) (hne : token ≠ []) :
    IsValueText token v := by
  obtain ⟨c, tail, rfl⟩ := List.exists_cons_of_ne_nil hne
  have hc : isTokenChar c = true := htoken c (.head tail)
  constructor
  · intro rest
    rw [List.cons_append, readValue?, ← List.cons_append, takeToken_line htoken]
    · simp only [hread, Option.map_some]
    · exact fun _ h => Text.ne_of_test hc (by decide) (List.cons.inj h).1
    · exact fun _ h => Text.ne_of_test hc (by decide) (List.cons.inj h).1
    · exact fun _ h => Text.ne_of_test hc (by decide) (List.cons.inj h).1
    · exact fun _ h => Text.ne_of_test hc (by decide) (List.cons.inj h).1
  · exact fun rest => skipSpaces_of_test hc (by decide) (by decide) _

theorem isValueText_boolean (b : Bool) : IsValueText (Settings.booleanText b) (boolean b) := by
  cases b <;> exact isValueText_of_token rfl (List.all_eq_true.1 rfl) (List.cons_ne_nil _ _)

/-! ### Whole numbers -/

theorem not_mem_of_isDigit {ds : List Char} (h : ∀ c ∈ ds, c.isDigit = true) {mark : Char}
    (hmark : mark.isDigit = false) : mark ∉ ds :=
  fun hmem => Text.ne_of_test (h mark hmem) hmark rfl

section

variable {ds : List Char} (h : ∀ c ∈ ds, c.isDigit = true)
include h

theorem ne_cons_of_digits {c : Char} (hc : c.isDigit = false) (cs : List Char) : ds ≠ c :: cs :=
  fun hds => not_mem_of_isDigit h hc (hds ▸ .head cs)

theorem isDate_of_digits : isDate ds = false := by
  simp [isDate, Text.parts_eq_singleton (not_mem_of_isDigit h (by decide : '-'.isDigit = false))]

theorem isHourMinute_of_digits : isHourMinute ds = false := by
  simp [isHourMinute,
    Text.parts_eq_singleton (not_mem_of_isDigit h (by decide : ':'.isDigit = false))]

theorem isMoment_of_digits : isMoment ds = false := by
  have htake (n : Nat) : ∀ c ∈ ds.take n, c.isDigit = true :=
    fun c hc => h c (List.mem_of_mem_take hc)
  have hpoint := Text.cutAtFirst?_eq_none (not_mem_of_isDigit h (by decide : '.'.isDigit = false))
  have hclock : isClock ds = false := by
    simp [isClock, hpoint, isHourMinute_of_digits (htake 5)]
  simp [isMoment, hclock, isDate_of_digits h, isDate_of_digits (htake 10)]

theorem splitSign_of_digits : splitSign ds = (false, ds) := by
  have hminus := not_mem_of_isDigit h (by decide : '-'.isDigit = false)
  have hplus := not_mem_of_isDigit h (by decide : '+'.isDigit = false)
  unfold splitSign
  split <;> simp_all

theorem isFraction_of_digits : isFraction ds = false := by
  have hmantissa : ds.takeWhile (fun c => c ≠ 'e' && c ≠ 'E') = ds := by
    refine List.takeWhile_eq_self_iff.2 fun c hc => ?_
    simp [Text.ne_of_test (h c hc) (by decide : 'e'.isDigit = false),
      Text.ne_of_test (h c hc) (by decide : 'E'.isDigit = false)]
  have hpoint := Text.cutAtFirst?_eq_none (not_mem_of_isDigit h (by decide : '.'.isDigit = false))
  have hinf := ne_cons_of_digits h (by decide : 'i'.isDigit = false) ['n', 'f']
  have hnan := ne_cons_of_digits h (by decide : 'n'.isDigit = false) ['a', 'n']
  simp only [isFraction, splitSign_of_digits h, hmantissa]
  simp [hinf, hnan, hpoint]

/-- Digits stand for a number only, as no mark of a date, a time or a fraction is a digit. -/
theorem readToken?_of_digits : readToken? ds = (readInteger? ds).map integer := by
  have htrue := ne_cons_of_digits h (by decide : 't'.isDigit = false) ['r', 'u', 'e']
  have hfalse := ne_cons_of_digits h (by decide : 'f'.isDigit = false) ['a', 'l', 's', 'e']
  simp [readToken?, htrue, hfalse, isMoment_of_digits h, isFraction_of_digits h]

theorem readDigits?_of_digits (hne : ds ≠ []) : readDigits? Char.isDigit ds = some ds := by
  have hparts := Text.parts_eq_singleton (not_mem_of_isDigit h (by decide : '_'.isDigit = false))
  simpa [readDigits?, hparts, hne] using h

end

theorem readWhole?_digits (n : Nat) : readWhole? (digits n) = some (digits n) := by
  have hread : readDigits? Char.isDigit (digits n) = some (digits n) :=
    readDigits?_of_digits (fun _ => Number.isDigit_of_mem_digits) Nat.toDigits_ne_nil
  rcases Nat.eq_zero_or_pos n with rfl | hn
  · rfl
  · unfold readWhole?
    split
    · next h => exact absurd (by rw [h]; rfl) (Number.head_digits hn)
    · exact hread

theorem readInteger?_digits {n : Nat} (h : n ≤ Number.maxInt64) :
    readInteger? (digits n) = some (n : Int) := by
  have hdigits : ∀ c ∈ digits n, c.isDigit = true := fun _ => Number.isDigit_of_mem_digits
  have hmin : Number.minInt64 ≤ n := by
    unfold Number.minInt64
    omega
  have hrange : Number.isInt64 n = true := by
    simp [Number.isInt64, hmin, h]
  have hbase (base : Char) (hb : base.isDigit = false) (ds : List Char) :
      digits n ≠ '0' :: base :: ds := fun hds =>
    not_mem_of_isDigit hdigits hb (by simp [hds])
  simp only [readInteger?]
  split
  · next ds hds => exact absurd hds (hbase 'x' (by decide) ds)
  · next ds hds => exact absurd hds (hbase 'o' (by decide) ds)
  · next ds hds => exact absurd hds (hbase 'b' (by decide) ds)
  · simp [splitSign_of_digits hdigits, readWhole?_digits, Number.ofDigits_digits, hrange]

theorem isValueText_digits {n : Nat} (h : n ≤ Number.maxInt64) :
    IsValueText (digits n) (integer n) := by
  have hdigits : ∀ c ∈ digits n, c.isDigit = true := fun _ => Number.isDigit_of_mem_digits
  refine isValueText_of_token ?_ (fun c hc => ?_) Nat.toDigits_ne_nil
  · rw [readToken?_of_digits hdigits, readInteger?_digits h]
    rfl
  · simp [isTokenChar, Char.isAlphanum, hdigits c hc]

theorem head_textLiteral (s : List Char) :
    ∃ tail, textLiteral s = '"' :: tail ∨ textLiteral s = '\'' :: tail := by
  unfold textLiteral
  cases formOf s with
  | basic => exact ⟨_, .inl rfl⟩
  | literal => exact ⟨_, .inr rfl⟩
  | longBasic => exact ⟨_, .inl rfl⟩
  | longLiteral => exact ⟨_, .inr rfl⟩

theorem isValueText_textLiteral (s : String) : IsValueText (textLiteral s.toList) (text s) := by
  constructor
  · intro rest
    have hread := readText?_textLiteral s.toList rest
    obtain ⟨tail, h | h⟩ := head_textLiteral s.toList <;>
      · rw [h, List.cons_append] at hread ⊢
        rw [readValue?]
        simp only [hread, Option.map_some, String.ofList_toList]
  · intro rest
    obtain ⟨tail, h | h⟩ := head_textLiteral s.toList <;> rw [h] <;> rfl

/-! ## Lines -/

/-- Lines that are read as some statements, whatever comes after them. -/
def Reads (lines : List (List Char)) (statements : List Statement) : Prop :=
  ∀ rest, readStatements? (Text.ofLines lines ++ rest) =
    (readStatements? rest).map (statements ++ ·)

theorem Reads.append {lines more : List (List Char)} {statements others : List Statement}
    (h : Reads lines statements) (hmore : Reads more others) :
    Reads (lines ++ more) (statements ++ others) := by
  intro rest
  have hlines : Text.ofLines (lines ++ more) = Text.ofLines lines ++ Text.ofLines more := by
    simp [Text.ofLines]
  rw [hlines, List.append_assoc, h, hmore, Option.map_map]
  simp [Function.comp_def]

theorem reads_nil : Reads [] [] := by
  intro rest
  simp

theorem afterLine?_newline (rest : List Char) : afterLine? ('\n' :: rest) = some rest := rfl

theorem reads_blank : Reads [[]] [] := by
  intro rest
  have hspaces : skipSpaces ('\n' :: rest) = '\n' :: rest := rfl
  rw [Text.ofLines_cons, Text.ofLines_nil, List.nil_append, List.cons_append, List.nil_append,
    readStatements?]
  simp [hspaces, afterLine?_newline]

/-- A line that begins with neither a blank nor a comment is a statement. -/
theorem reads_statement {c : Char} {tail : List Char} {statement : Statement}
    (hblank : isSpace c = false) (hcomment : c ≠ '#') (hbreak : c ≠ '\n' ∧ c ≠ '\r')
    (hread : ∀ rest,
      readStatement? (c :: tail ++ '\n' :: rest) = some (statement, '\n' :: rest)) :
    Reads [c :: tail] [statement] := by
  intro rest
  have hspaces : skipSpaces (c :: (tail ++ '\n' :: rest)) = c :: (tail ++ '\n' :: rest) := by
    simp [skipSpaces, hblank]
  have hstatement := hread rest
  rw [List.cons_append] at hstatement
  simp only [Text.ofLines_cons, Text.ofLines_nil, List.append_assoc, List.cons_append,
    List.nil_append]
  rw [readStatements?]
  simp [hspaces, hcomment, hbreak.1, hbreak.2, hstatement, afterLine?_newline]
  omega

/-- A key that is written without quotes. -/
def isBareKey (key : List Char) : Bool := !key.isEmpty && key.all isBareKeyChar

theorem exists_of_isBareKey {key : List Char} (h : isBareKey key = true) :
    (∃ c tail, key = c :: tail) ∧ ∀ c ∈ key, isBareKeyChar c = true := by
  simp only [isBareKey, Bool.and_eq_true, List.all_eq_true, Bool.not_eq_true'] at h
  exact ⟨List.exists_cons_of_ne_nil (by simpa using h.1), h.2⟩

/-- A bare key ends where something else stands. -/
theorem readKey?_bare {key : List Char} (hkey : isBareKey key = true) {stop d : Char}
    {more rest : List Char} (hstop : isBareKeyChar stop = false)
    (hskip : skipSpaces (stop :: more) = d :: rest) (hdot : d ≠ '.') :
    readKey? (key ++ stop :: more) = some (⟨[], String.ofList key⟩, d :: rest) := by
  obtain ⟨⟨c, tail, rfl⟩, hchars⟩ := exists_of_isBareKey hkey
  have hword : (c :: tail ++ stop :: more).takeWhile isBareKeyChar = c :: tail := by
    rw [List.takeWhile_append_of_pos hchars, List.takeWhile_cons_of_neg (by simp [hstop]),
      List.append_nil]
  have hspaces : skipSpaces (c :: tail ++ stop :: more) = c :: tail ++ stop :: more :=
    skipSpaces_of_test (hchars c (.head tail)) (by decide) (by decide) _
  have hsegment :
      readSegment? (c :: tail ++ stop :: more) = some (String.ofList (c :: tail), d :: rest) := by
    simp only [readSegment?, hspaces, hword, List.drop_left, List.isEmpty_cons,
      Bool.false_eq_true, if_false, Option.map_some, hskip]
  have hsegments : readSegments? maxDepth (c :: tail ++ stop :: more) =
      some ([String.ofList (c :: tail)], d :: rest) := by
    rw [maxDepth, readSegments?, hsegment]
    simp [hdot]
  rw [readKey?, hsegments]
  rfl

theorem reads_line {key : String} (hkey : isBareKey key.toList = true) {value : List Char}
    {v : Toml} (hvalue : IsValueText value v) :
    Reads [Settings.line key value] [.entry ⟨[], key⟩ v] := by
  obtain ⟨⟨c, tail, htail⟩, hchars⟩ := exists_of_isBareKey hkey
  have hc : isBareKeyChar c = true := hchars c (htail ▸ .head tail)
  have hreadKey (rest : List Char) : readKey? (c :: tail ++ ' ' :: '=' :: ' ' :: rest) =
      some (⟨[], key⟩, '=' :: ' ' :: rest) := by
    rw [readKey?_bare (htail ▸ hkey) (by decide) rfl (by decide), ← htail, String.ofList_toList]
  have hspaces (rest : List Char) :
      skipSpaces (' ' :: (value ++ '\n' :: rest)) = value ++ '\n' :: rest :=
    hvalue.skipSpaces rest
  rw [Settings.line, htail, List.cons_append]
  refine reads_statement (isSpace_of_test hc (by decide) (by decide))
    (Text.ne_of_test hc (by decide))
    ⟨Text.ne_of_test hc (by decide), Text.ne_of_test hc (by decide)⟩ fun rest => ?_
  simp only [List.append_assoc, List.cons_append] at hreadKey ⊢
  rw [readStatement?, hreadKey]
  · simp only [hspaces, hvalue.read, Option.map_some]
  · exact fun _ h => Text.ne_of_test hc (by decide) (List.cons.inj h).1
  · exact fun _ h => Text.ne_of_test hc (by decide) (List.cons.inj h).1

theorem reads_header {name : String} (hname : isBareKey name.toList = true) :
    Reads ['[' :: (name.toList ++ [']'])] [.begin ⟨[], name⟩] := by
  obtain ⟨⟨c, tail, htail⟩, hchars⟩ := exists_of_isBareKey hname
  have hbracket : c ≠ '[' :=
    Text.ne_of_test (hchars c (htail ▸ .head tail)) (by decide)
  refine reads_statement (by decide) (by decide) (by decide) fun rest => ?_
  have hkey : readKey? (c :: tail ++ ']' :: '\n' :: rest) =
      some (⟨[], name⟩, ']' :: '\n' :: rest) := by
    rw [readKey?_bare (htail ▸ hname) (by decide) rfl (by decide), ← htail, String.ofList_toList]
  simp only [htail, List.append_assoc, List.cons_append, List.nil_append] at hkey ⊢
  rw [readStatement?]
  · simp only [hkey]
  · exact fun _ h => hbracket (List.cons.inj h).1

/-! ## Entries -/

/-- Fields as they are written below one header. -/
def entries (fields : Fields) : List Statement := fields.map fun (key, v) => .entry ⟨[], key⟩ v

theorem entries_append (fields more : Fields) :
    entries (fields ++ more) = entries fields ++ entries more :=
  List.map_append

def optionalEntry {α : Type} (key : String) (toToml : α → Toml) (value : Option α) : Fields :=
  (value.map fun a => (key, toToml a)).toList

theorem keys_optionalEntry {α : Type} (key : String) (toToml : α → Toml) (value : Option α) :
    ((optionalEntry key toToml value).map Prod.fst).Sublist [key] := by
  cases value with
  | none => exact List.nil_sublist [key]
  | some a => exact List.Sublist.refl [key]

theorem lookup_optionalEntry {α : Type} (key other : String) (toToml : α → Toml)
    (value : Option α) :
    (optionalEntry key toToml value).lookup other =
      if other = key then value.map toToml else none := by
  cases value with
  | none => simp [optionalEntry]
  | some a =>
      by_cases h : other = key
      · simp [optionalEntry, h]
      · have hne : (other == key) = false := by simpa using h
        simp [optionalEntry, List.lookup_cons, h, hne]

theorem reads_optionalLine {α : Type} {key : String} (hkey : isBareKey key.toList = true)
    {write : α → List Char} {toToml : α → Toml} {value : Option α}
    (hwrite : ∀ a ∈ value, IsValueText (write a) (toToml a)) :
    Reads (Settings.optionalLine key write value) (entries (optionalEntry key toToml value)) := by
  cases value with
  | none => exact reads_nil
  | some a => exact reads_line hkey (hwrite a rfl)

/-! ## The table of a file -/

/--
A table with a hole: what is done at a place is done to what is in the hole. The
entries below a header all go to one place.
-/
def IsPlace (place : List String) (around : Fields → Fields) : Prop :=
  ∀ change below, changeAt? place change (around below) = (change below).map around

theorem isPlace_root : IsPlace [] id := by
  intro change below
  rw [changeAt?, Option.map_id]
  rfl

theorem lookup_eq_none {fields : Fields} {key : String} (h : key ∉ fields.map Prod.fst) :
    fields.lookup key = none :=
  List.lookup_eq_none_iff.2 fun p hp => by
    simpa using fun hkey : key = p.1 => h (hkey ▸ List.mem_map_of_mem hp)

theorem replace_append {fields : Fields} {key : String} (h : key ∉ fields.map Prod.fst)
    (old new : Toml) :
    replace key new (fields ++ [(key, old)]) = fields ++ [(key, new)] := by
  induction fields with
  | nil => simp [replace]
  | cons field fields ih =>
      obtain ⟨k, v⟩ := field
      simp only [List.map_cons, List.mem_cons, not_or] at h
      rw [List.cons_append, replace, if_neg (Ne.symm h.1), ih h.2]
      rfl

theorem isPlace_header {fields : Fields} {name : String} (hname : name ∉ fields.map Prod.fst) :
    IsPlace [name] fun below => fields ++ [(name, table .header below)] := by
  intro change below
  have hlookup : (fields ++ [(name, table .header below)]).lookup name =
      some (table .header below) := by
    simp [List.lookup_append, lookup_eq_none hname]
  simp only [changeAt?, hlookup, replace_append hname]

/-- Entries of new keys are put one after the other into the table of their header. -/
theorem foldlM_add?_entries {place : List String} {around : Fields → Fields}
    (hplace : IsPlace place around) (below es : Fields)
    (h : ((below ++ es).map Prod.fst).Nodup) :
    (entries es).foldlM Draft.add? ⟨around below, place⟩ = some ⟨around (below ++ es), place⟩ := by
  -- Entries move from the list into the hole, and there the key of the next one is still new.
  induction es generalizing below with
  | nil => simp [entries]
  | cons e es ih =>
      obtain ⟨key, v⟩ := e
      have hkey : key ∉ below.map Prod.fst := fun hmem => by
        rw [List.map_append, List.map_cons] at h
        exact (List.nodup_append.1 h).2.2 key hmem key (.head _) rfl
      have hput : put? [] key v below = some (below ++ [(key, v)]) := by
        simp [put?, Toml.add?, lookup_eq_none hkey]
      have hadd : Draft.add? ⟨around below, place⟩ (.entry ⟨[], key⟩ v) =
          some ⟨around (below ++ [(key, v)]), place⟩ := by
        simp only [Draft.add?, hplace (put? [] key v) below, hput, Option.map_some]
      rw [List.append_cons] at h ⊢
      calc
        (entries ((key, v) :: es)).foldlM Draft.add? ⟨around below, place⟩ =
            (Draft.add? ⟨around below, place⟩ (.entry ⟨[], key⟩ v)).bind
              fun d => (entries es).foldlM Draft.add? d := rfl
        _ = (entries es).foldlM Draft.add? ⟨around (below ++ [(key, v)]), place⟩ := by
            rw [hadd, Option.bind_some]
        _ = some ⟨around (below ++ [(key, v)] ++ es), place⟩ := ih _ h

theorem foldlM_add?_root {es : Fields} (h : (es.map Prod.fst).Nodup) :
    (entries es).foldlM Draft.add? {} = some ⟨es, []⟩ :=
  foldlM_add?_entries isPlace_root [] es h

theorem foldlM_add?_header {fields es : Fields} {name : String} (hname : name ∉ fields.map Prod.fst)
    (h : (es.map Prod.fst).Nodup) (place : List String) :
    (.begin ⟨[], name⟩ :: entries es).foldlM Draft.add? ⟨fields, place⟩ =
      some ⟨fields ++ [(name, table .header es)], [name]⟩ := by
  have hbegin : Draft.add? ⟨fields, place⟩ (.begin ⟨[], name⟩) =
      some ⟨fields ++ [(name, table .header [])], [name]⟩ := by
    simp [Draft.add?, changeAt?, beginTable?, lookup_eq_none hname]
  have hentries := foldlM_add?_entries (isPlace_header hname) [] es h
  rw [List.nil_append] at hentries
  rw [List.foldlM_cons, hbegin, Option.bind_eq_bind, Option.bind_some, hentries]

end CardSearch.Toml

namespace CardSearch.Settings

open Toml (Fields Reads entries optionalEntry)

/-! ## Settings -/

/-- What is kept before the first header. -/
def rootFields (s : Settings) : Fields :=
  ("version", .integer s.version) :: optionalEntry "cards" .text s.cards

def searchFields (s : SearchSettings) : Fields :=
  optionalEntry "sort_by" .text s.sortBy ++ optionalEntry "descending" .boolean s.descending ++
    optionalEntry "limit" (fun n : Nat => .integer n) s.limit

def outputFields (s : Settings) : Fields := optionalEntry "color" .boolean s.color

/-- The table of a settings file. -/
def fileFields (s : Settings) : Fields :=
  s.rootFields ++ [("search", .table .header (searchFields s.search)),
    ("output", .table .header s.outputFields)]

/-- The statements of a settings file. -/
def fileStatements (s : Settings) : List Toml.Statement :=
  entries s.rootFields ++ .begin ⟨[], "search"⟩ :: entries (searchFields s.search) ++
    .begin ⟨[], "output"⟩ :: entries s.outputFields

theorem reads_fileLines {s : Settings} (hversion : s.version ≤ Number.maxInt64)
    (hlimit : ∀ n ∈ s.search.limit, n ≤ Number.maxInt64) :
    Reads s.fileLines s.fileStatements := by
  have hroot : Reads ([line "version" (Number.digits s.version)] ++
      optionalLine "cards" (fun path => Toml.textLiteral path.toList) s.cards)
      (entries s.rootFields) :=
    (Toml.reads_line rfl (Toml.isValueText_digits hversion)).append
      (Toml.reads_optionalLine rfl fun path _ => Toml.isValueText_textLiteral path)
  have hsearch : Reads
      (optionalLine "sort_by" (fun field => Toml.textLiteral field.toList) s.search.sortBy ++
        optionalLine "descending" booleanText s.search.descending ++
        optionalLine "limit" Number.digits s.search.limit)
      (entries (searchFields s.search)) := by
    rw [searchFields, Toml.entries_append, Toml.entries_append]
    exact ((Toml.reads_optionalLine rfl fun field _ => Toml.isValueText_textLiteral field).append
      (Toml.reads_optionalLine rfl fun b _ => Toml.isValueText_boolean b)).append
      (Toml.reads_optionalLine rfl fun n hn => Toml.isValueText_digits (hlimit n hn))
  have houtput : Reads (optionalLine "color" booleanText s.color) (entries s.outputFields) :=
    Toml.reads_optionalLine rfl fun b _ => Toml.isValueText_boolean b
  have hheader (name : String) (hname : Toml.isBareKey name.toList = true) :
      Reads [[], '[' :: (name.toList ++ [']'])] [.begin ⟨[], name⟩] :=
    Toml.reads_blank.append (Toml.reads_header hname)
  have hlines := (((hroot.append (hheader "search" rfl)).append hsearch).append
    (hheader "output" rfl)).append houtput
  simpa [fileLines, fileStatements] using hlines

theorem foldlM_add?_fileStatements (s : Settings) :
    s.fileStatements.foldlM Toml.Draft.add? {} = some ⟨s.fileFields, ["output"]⟩ := by
  have hrootKeys : (s.rootFields.map Prod.fst).Sublist ["version", "cards"] :=
    (Toml.keys_optionalEntry "cards" .text s.cards).cons_cons "version"
  have hsearchKeys : ((searchFields s.search).map Prod.fst).Sublist
      ["sort_by", "descending", "limit"] := by
    simp only [searchFields, List.map_append]
    exact ((Toml.keys_optionalEntry ..).append (Toml.keys_optionalEntry ..)).append
      (Toml.keys_optionalEntry ..)
  have houtputKeys : (s.outputFields.map Prod.fst).Sublist ["color"] :=
    Toml.keys_optionalEntry ..
  have hsearchName : "search" ∉ s.rootFields.map Prod.fst := fun h =>
    absurd (hrootKeys.mem h) (by decide)
  have houtputName : "output" ∉ (s.rootFields ++
      [("search", Toml.table .header (searchFields s.search))]).map Prod.fst := fun h => by
    rw [List.map_append] at h
    exact absurd ((hrootKeys.append (.refl ["search"])).mem h) (by decide)
  rw [fileStatements, List.foldlM_append, List.foldlM_append,
    Toml.foldlM_add?_root (hrootKeys.nodup (by decide)), Option.bind_eq_bind, Option.bind_some,
    Toml.foldlM_add?_header hsearchName (hsearchKeys.nodup (by decide)), Option.bind_some,
    Toml.foldlM_add?_header houtputName (houtputKeys.nodup (by decide)), fileFields,
    List.append_assoc]
  rfl

/-- A setting comes back if its field is what it was written as. -/
theorem optional?_of_lookup {α : Type} {read? : Toml → Option α} (toToml : α → Toml)
    {fields : Fields} {key : String} {value : Option α}
    (hlookup : fields.lookup key = value.map toToml)
    (hread : ∀ a ∈ value, read? (toToml a) = some a) : optional? read? fields key = some value := by
  rw [optional?, hlookup]
  cases value with
  | none => rfl
  | some a => exact congrArg (Option.map some) (hread a rfl)

theorem searchOfFields?_searchFields (s : SearchSettings) :
    searchOfFields? (searchFields s) = some s := by
  have hsort : optional? SearchSettings.text? (searchFields s) "sort_by" = some s.sortBy :=
    optional?_of_lookup .text
      (by simp [searchFields, List.lookup_append, Toml.lookup_optionalEntry]) fun _ _ => rfl
  have hdescending :
      optional? SearchSettings.boolean? (searchFields s) "descending" = some s.descending :=
    optional?_of_lookup .boolean
      (by simp [searchFields, List.lookup_append, Toml.lookup_optionalEntry]) fun _ _ => rfl
  have hlimit : optional? SearchSettings.natural? (searchFields s) "limit" = some s.limit :=
    optional?_of_lookup (fun n : Nat => .integer n)
      (by simp [searchFields, List.lookup_append, Toml.lookup_optionalEntry])
      fun n _ => by simp [SearchSettings.natural?]
  rw [searchOfFields?, hsort, hdescending, hlimit]
  rfl

theorem optionalGroup?_of_lookup {keys : List String} {fields below : Fields} {key : String}
    (h : fields.lookup key = some (.table .header below)) :
    optionalGroup? keys fields key = some below := by
  simp [optionalGroup?, optional?, h, group?]

theorem ofFields?_fileFields {s : Settings} (h : s.version < versionCount) :
    ofFields? s.fileFields = some s := by
  have hversion : optional? (fun v => (SearchSettings.natural? v).filter (· < versionCount))
      s.fileFields "version" = some (some s.version) :=
    optional?_of_lookup (fun n : Nat => .integer n) rfl
      fun n hn => by simp [SearchSettings.natural?, ← Option.some.inj hn, h]
  have hcards : optional? SearchSettings.text? s.fileFields "cards" = some s.cards :=
    optional?_of_lookup .text (by simp [fileFields, rootFields, List.lookup_cons,
      List.lookup_append, Toml.lookup_optionalEntry]) fun _ _ => rfl
  have hsearch : optionalGroup? ["sort_by", "descending", "limit"] s.fileFields "search" =
      some (searchFields s.search) :=
    optionalGroup?_of_lookup (by simp [fileFields, rootFields, List.lookup_cons,
      List.lookup_append, Toml.lookup_optionalEntry])
  have houtput : optionalGroup? ["color"] s.fileFields "output" = some s.outputFields :=
    optionalGroup?_of_lookup (by simp [fileFields, rootFields, List.lookup_cons,
      List.lookup_append, Toml.lookup_optionalEntry])
  have hcolor : optional? SearchSettings.boolean? s.outputFields "color" = some s.color :=
    optional?_of_lookup .boolean
      (by simp [outputFields, Toml.lookup_optionalEntry]) fun _ _ => rfl
  rw [ofFields?, hversion, houtput, hcards, hsearch]
  simp [searchOfFields?_searchFields, hcolor]

/-- What is written is read back, as settings of this version if they are of an earlier one. -/
theorem read?_encode {s : Settings} {content : String} (hversion : s.version < versionCount)
    (h : s.encode = .ok content) : read? content = some s.migrate := by
  have hsmall : (s.version : Int) ≤ Number.maxInt64 := by
    unfold versionCount at hversion
    unfold Number.maxInt64
    omega
  simp only [encode] at h
  split at h
  · simp at h
  · next hlimit =>
      obtain rfl := Except.ok.inj h
      have hlines := reads_fileLines hsmall
        (fun n hn => by simpa [Option.mem_def.1 hn] using hlimit) []
      have hend : Toml.readStatements? [] = some [] := by
        rw [Toml.readStatements?]
        rfl
      have hmark : Toml.dropMark (Text.ofLines s.fileLines) = Text.ofLines s.fileLines := rfl
      rw [List.append_nil, hend, Option.map_some, List.append_nil] at hlines
      rw [read?, Toml.read?, String.toList_ofList, hmark, hlines, Option.bind_some,
        foldlM_add?_fileStatements, Option.map_some, Option.bind_some,
        ofFields?_fileFields hversion, Option.map_some]

end CardSearch.Settings
