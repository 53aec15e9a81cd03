import CardSearch.Toml.Text
import Mathlib.Tactic.SplitIfs

/-!
# A TOML string that is written is read back

Whatever form a string is written in, the reader finds the same characters and
stops after the closing quotes. A character comes out as itself or as an escape
(`escapeChar_cases`), and each of the two is one step of the reader (`Takes`). The
point to see is where a long string ends: three quotes close it, and quotes of the
string itself may stand before them. What is written never has three quotes in a
row, so at most two of the last five belong to the string, and these the reader
takes when it has seen the closing ones (`takes_quote_of_closing`).
-/

namespace CardSearch.Toml

/-! ## Escapes -/

/-- What stands after a backslash is the escape of a character, and no line break to be joined. -/
structure IsEscape (code : List Char) (c : Char) : Prop where
  read : ∀ rest, readEscape? (code ++ rest) = some (c, rest)
  noJoin : ∀ rest, afterJoin? (code ++ rest) = none

theorem isEscape_quote : IsEscape ['"'] '"' :=
  ⟨fun _ => rfl, fun _ => rfl⟩

/-- The code points of the characters that are escaped by their number. -/
theorem escapeCode_lt {c : Char} (h : isPlain c = false) : c.toNat < 0x20 ∨ c.toNat = 0x7f := by
  simp only [isPlain, Bool.or_eq_false_iff, Bool.and_eq_false_iff, decide_eq_false_iff_not] at h
  omega

/-- Four hexadecimal digits tell the number of a control character. -/
theorem ofHex?_control : ∀ n < 0x80,
    (Number.ofHex? ['0', '0', upperHexDigit (n / 16), upperHexDigit (n % 16)]).bind
      Number.charOfCode? = some (Char.ofNat n) := by
  decide

theorem isEscape_control {c : Char} (h : isPlain c = false) :
    IsEscape ['u', '0', '0', upperHexDigit (c.toNat / 16), upperHexDigit (c.toNat % 16)] c := by
  have hcode : c.toNat < 0x80 := by
    have := escapeCode_lt h
    omega
  constructor
  · intro rest
    simp [readEscape?, readCode?, ofHex?_control c.toNat hcode, Char.ofNat_toNat]
  · intro rest
    rfl

/-- A character other than a quote is written as itself or as its escape. -/
theorem escapeChar_cases (long : Bool) (c : Char) :
    (∃ code, escapeChar long c = '\\' :: code ∧ IsEscape code c) ∨
      escapeChar long c = [c] ∧ c ≠ '\\' ∧ c ≠ '\r' ∧ (isPlain c ∨ long ∧ c = '\n') := by
  unfold escapeChar
  split
  · exact .inl ⟨['b'], rfl, fun _ => rfl, fun _ => rfl⟩
  · exact .inl ⟨['t'], rfl, fun _ => rfl, fun _ => rfl⟩
  · cases long with
    | true => exact .inr ⟨rfl, by decide, by decide, .inr ⟨rfl, rfl⟩⟩
    | false => exact .inl ⟨['n'], rfl, fun _ => rfl, fun _ => rfl⟩
  · exact .inl ⟨['f'], rfl, fun _ => rfl, fun _ => rfl⟩
  · exact .inl ⟨['r'], rfl, fun _ => rfl, fun _ => rfl⟩
  · exact .inl ⟨['\\'], rfl, fun _ => rfl, fun _ => rfl⟩
  · next hreturn hbackslash =>
      cases hplain : isPlain c with
      | true => exact .inr ⟨by simp, hbackslash, hreturn, .inl rfl⟩
      | false => exact .inl ⟨_, by simp, isEscape_control hplain⟩

theorem escapeFrom_cons (long : Bool) (run : Nat) {c : Char} (h : c ≠ '"') (s : List Char) :
    escapeFrom long run (c :: s) = escapeChar long c ++ escapeFrom long 0 s := by
  rw [escapeFrom]
  exact fun hc => h hc

/-- A quote comes out as itself only while the run of quotes before it is short. -/
theorem head_escapeFrom {long : Bool} {run : Nat} {s v : List Char}
    (h : escapeFrom long run s = '"' :: v) :
    ∃ t, s = '"' :: t ∧ run < (if long then 2 else 0) ∧ escapeFrom long (run + 1) t = v := by
  cases s with
  | nil => simp [escapeFrom] at h
  | cons c t =>
      by_cases hquote : c = '"'
      · subst hquote
        rw [escapeFrom] at h
        by_cases hrun : run < (if long then 2 else 0)
        · rw [if_pos hrun] at h
          exact ⟨t, rfl, hrun, (List.cons.inj h).2⟩
        · rw [if_neg hrun] at h
          simp at h
      · rw [escapeFrom_cons long run hquote] at h
        rcases escapeChar_cases long c with ⟨code, hcode, -⟩ | ⟨hcode, -⟩
        · simp [hcode] at h
        · simp [hcode, hquote] at h

/-! ## Steps of a reader -/

/-- Before a text, what is written for a character is read as that character. -/
def Takes (read : List Char → Option (List Char × List Char)) (written : List Char) (c : Char)
    (s : List Char) : Prop :=
  read (written ++ s) = (read s).map fun (t, rest) => (c :: t, rest)

theorem Takes.read_append {read : List Char → Option (List Char × List Char)}
    {written s t rest : List Char} {c : Char} (h : Takes read written c s)
    (hs : read s = some (t, rest)) : read (written ++ s) = some (c :: t, rest) := by
  rw [h, hs]
  rfl

/-- A text with its escapes is read if each step is, a quote being the only one to look ahead. -/
theorem read_escapeFrom {long : Bool} {read : List Char → Option (List Char × List Char)}
    {closing rest : List Char} (hend : read closing = some ([], rest))
    (hescape : ∀ {code c}, IsEscape code c → ∀ s, Takes read ('\\' :: code) c s)
    (hplain : ∀ {c}, isPlain c ∨ long ∧ c = '\n' → c ≠ '"' → c ≠ '\\' → ∀ s, Takes read [c] c s)
    (hquote : ∀ run s, run < (if long then 2 else 0) →
      Takes read ['"'] '"' (escapeFrom long (run + 1) s ++ closing))
    (run : Nat) (s : List Char) : read (escapeFrom long run s ++ closing) = some (s, rest) := by
  induction s generalizing run with
  | nil => simpa [escapeFrom] using hend
  | cons c s ih =>
      by_cases hc : c = '"'
      · subst hc
        rw [escapeFrom]
        by_cases hrun : run < (if long then 2 else 0)
        · rw [if_pos hrun]
          exact (hquote run s hrun).read_append (ih (run + 1))
        · rw [if_neg hrun]
          exact (hescape isEscape_quote _).read_append (ih 0)
      · rw [escapeFrom_cons long run hc, List.append_assoc]
        rcases escapeChar_cases long c with ⟨code, hcode, hcodes⟩ | ⟨hcode, hback, -, hitself⟩
        · rw [hcode]
          exact (hescape hcodes _).read_append (ih 0)
        · rw [hcode]
          exact (hplain hitself hc hback _).read_append (ih 0)

/-! ## On one line -/

theorem readBasic?_escape {code : List Char} {c : Char} (h : IsEscape code c) (s : List Char) :
    Takes readBasic? ('\\' :: code) c s := by
  rw [Takes, List.cons_append, readBasic?, h.read]
  simp

theorem readBasic?_plain {c : Char} (hplain : isPlain c = true) (hquote : c ≠ '"')
    (hbackslash : c ≠ '\\') (s : List Char) : Takes readBasic? [c] c s := by
  rw [Takes, List.singleton_append, readBasic?]
  · rw [if_pos hplain]
  · exact fun h => hquote h
  · exact fun h => hbackslash h

theorem readBasic?_escapeFrom (s rest : List Char) :
    readBasic? (escapeFrom false 0 s ++ '"' :: rest) = some (s, rest) := by
  refine read_escapeFrom (by rw [readBasic?]) readBasic?_escape (fun hitself => ?_)
    (fun run s hrun => absurd hrun (by simp)) 0 s
  exact readBasic?_plain (by simpa using hitself)

theorem readLiteral?_append {s : List Char} (hplain : ∀ c ∈ s, isPlain c = true)
    (hquote : '\'' ∉ s) (rest : List Char) :
    readLiteral? (s ++ '\'' :: rest) = some (s, rest) := by
  induction s with
  | nil => rfl
  | cons c s ih =>
      simp only [List.mem_cons, not_or, forall_eq_or_imp] at hplain hquote
      rw [List.cons_append, readLiteral?, if_pos hplain.1, ih hplain.2 hquote.2]
      · rfl
      · exact fun h => hquote.1 h.symm

/-! ## In three quotes -/

theorem takeQuotes_of_head {quote : Char} {rest : List Char} (h : rest.head? ≠ some quote) :
    takeQuotes quote rest = ([], rest) := by
  cases rest with
  | nil => rfl
  | cons c rest => simp_all [takeQuotes]

theorem takeQuotes_one {quote : Char} {rest : List Char} (h : rest.head? ≠ some quote) :
    takeQuotes quote (quote :: rest) = ([quote], rest) := by
  cases rest with
  | nil => simp [takeQuotes]
  | cons c rest => simp_all [takeQuotes]

theorem takeQuotes_two (quote : Char) (rest : List Char) :
    takeQuotes quote (quote :: quote :: rest) = ([quote, quote], rest) := by
  simp [takeQuotes]

/-- A quote is taken before the closing ones, unless two more of the text follow it. -/
theorem takes_quote_of_closing {quote : Char} {read : List Char → Option (List Char × List Char)}
    (hclose : ∀ s, read (quote :: quote :: quote :: s) = some (takeQuotes quote s))
    (hstep : ∀ s, (∀ v, s ≠ quote :: quote :: v) → Takes read [quote] quote s)
    {u : List Char} (hu : ∀ v, u ≠ quote :: quote :: v) {rest : List Char}
    (hrest : rest.head? ≠ some quote) :
    Takes read [quote] quote (u ++ quote :: quote :: quote :: rest) := by
  match u, hu with
  -- Up to two quotes at the end of the text make three with this one; they are taken afterwards.
  | [], _ =>
      simp only [Takes, List.singleton_append, List.nil_append]
      rw [hclose, hclose, takeQuotes_of_head hrest, takeQuotes_one hrest]
      rfl
  | [d], _ =>
      by_cases hd : d = quote
      · subst hd
        simp only [Takes, List.singleton_append]
        rw [hclose, hclose, takeQuotes_one hrest, takeQuotes_two]
        rfl
      · exact hstep _ (by simp [hd])
  | d :: e :: u, hu => exact hstep _ (by simpa using hu u)

theorem readLongBasic?_quote {u rest : List Char} (hu : ∀ v, u ≠ '"' :: '"' :: v)
    (hrest : rest.head? ≠ some '"') :
    Takes readLongBasic? ['"'] '"' (u ++ '"' :: '"' :: '"' :: rest) := by
  refine takes_quote_of_closing (fun s => by rw [readLongBasic?]) (fun s hs => ?_) hu hrest
  rw [Takes, List.singleton_append, readLongBasic?, if_pos (by decide)]
  · exact fun v _ h => hs v h
  · simp
  · simp

theorem readLongBasic?_escape {code : List Char} {c : Char} (h : IsEscape code c) (s : List Char) :
    Takes readLongBasic? ('\\' :: code) c s := by
  rw [Takes, List.cons_append, readLongBasic?, h.noJoin, h.read]
  simp

theorem readLongBasic?_plain {c : Char} (hplain : isPlain c ∨ c = '\n') (hquote : c ≠ '"')
    (hbackslash : c ≠ '\\') (s : List Char) : Takes readLongBasic? [c] c s := by
  have hreturn : c ≠ '\r' := by
    rintro rfl
    exact absurd hplain (by decide)
  rw [Takes, List.singleton_append, readLongBasic?, if_pos (by simpa using hplain)]
  · exact fun _ h _ => hquote h
  · exact fun h => hbackslash h
  · exact fun _ h _ => hreturn h

/-- After a quote, no two more are written as themselves. -/
theorem escapeFrom_ne_quotes (run : Nat) (s v : List Char) :
    escapeFrom true (run + 1) s ≠ '"' :: '"' :: v := by
  intro h
  obtain ⟨t, -, -, ht⟩ := head_escapeFrom h
  obtain ⟨-, -, hlt, -⟩ := head_escapeFrom ht
  simp only [if_true] at hlt
  omega

theorem readLongBasic?_escapeFrom (s : List Char) {rest : List Char}
    (hrest : rest.head? ≠ some '"') :
    readLongBasic? (escapeFrom true 0 s ++ '"' :: '"' :: '"' :: rest) = some (s, rest) := by
  refine read_escapeFrom (by rw [readLongBasic?, takeQuotes_of_head hrest]) readLongBasic?_escape
    (fun hitself => ?_) (fun run s _ => ?_) 0 s
  · exact readLongBasic?_plain (by simpa using hitself)
  · exact readLongBasic?_quote (escapeFrom_ne_quotes run s) hrest

theorem le_longestRunFrom (c : Char) (run : Nat) (s : List Char) :
    run ≤ longestRunFrom c run s := by
  induction s generalizing run with
  | nil => exact Nat.le_refl run
  | cons d s ih =>
      simp only [longestRunFrom]
      split
      · have := ih (run + 1)
        omega
      · omega

theorem longestRunFrom_mono (c : Char) {run run' : Nat} (h : run ≤ run') (s : List Char) :
    longestRunFrom c run s ≤ longestRunFrom c run' s := by
  induction s generalizing run run' with
  | nil => exact h
  | cons d s ih =>
      simp only [longestRunFrom]
      split
      · exact ih (by omega)
      · omega

theorem longestRun_tail_le (c d : Char) (s : List Char) :
    longestRun c s ≤ longestRun c (d :: s) := by
  simp only [longestRun, longestRunFrom]
  split
  · exact longestRunFrom_mono c (Nat.zero_le 1) s
  · omega

theorem not_mem_of_longestRun {c : Char} {s : List Char} (h : longestRun c s = 0) : c ∉ s := by
  induction s with
  | nil => simp
  | cons d s ih =>
      have htail := longestRun_tail_le c d s
      have hd : d ≠ c := by
        rintro rfl
        have hrun := le_longestRunFrom d 1 s
        simp only [longestRun, longestRunFrom, if_true, Nat.zero_add] at h
        omega
      have hs : longestRun c s = 0 := by omega
      exact List.not_mem_cons_of_ne_of_not_mem hd.symm (ih hs)

/-- A text whose runs are short holds no two quotes after a quote. -/
theorem ne_quotes_of_longestRun {quote : Char} {s : List Char}
    (h : longestRun quote (quote :: s) ≤ 2) (v : List Char) : s ≠ quote :: quote :: v := by
  rintro rfl
  have hrun := le_longestRunFrom quote 3 v
  simp only [longestRun, longestRunFrom, if_true, Nat.zero_add, Nat.reduceAdd] at h
  omega

theorem readLongLiteral?_quote {u rest : List Char} (hu : ∀ v, u ≠ '\'' :: '\'' :: v)
    (hrest : rest.head? ≠ some '\'') :
    Takes readLongLiteral? ['\''] '\'' (u ++ '\'' :: '\'' :: '\'' :: rest) := by
  refine takes_quote_of_closing (fun s => by rw [readLongLiteral?]) (fun s hs => ?_) hu hrest
  rw [Takes, List.singleton_append, readLongLiteral?, if_pos (by decide)]
  · exact fun v _ h => hs v h
  · simp

theorem readLongLiteral?_append {s : List Char} (hplain : ∀ c ∈ s, isPlain c ∨ c = '\n')
    (hruns : longestRun '\'' s ≤ 2) {rest : List Char} (hrest : rest.head? ≠ some '\'') :
    readLongLiteral? (s ++ '\'' :: '\'' :: '\'' :: rest) = some (s, rest) := by
  induction s with
  | nil => simp [readLongLiteral?, takeQuotes_of_head hrest]
  | cons c s ih =>
      have htail := longestRun_tail_le '\'' c s
      have hs := ih (fun d hd => hplain d (.tail c hd)) (by omega)
      have hc := hplain c (.head s)
      by_cases hquote : c = '\''
      · subst hquote
        exact (readLongLiteral?_quote (ne_quotes_of_longestRun hruns) hrest).read_append hs
      · have hreturn : c ≠ '\r' := by
          rintro rfl
          exact absurd hc (by decide)
        rw [List.cons_append, readLongLiteral?, if_pos (by simpa using hc), hs]
        · rfl
        · exact fun _ h _ => hquote h
        · exact fun _ h _ => hreturn h

/-! ## The break after the opening quotes -/

theorem skipFirstBreak_of_head {s : List Char} (hnewline : s.head? ≠ some '\n')
    (hreturn : s.head? ≠ some '\r') : skipFirstBreak s = s := by
  unfold skipFirstBreak afterNewline?
  split
  · simp at hnewline
  · simp at hreturn
  · rfl

/-- The break that is written after the opening quotes is the one that the reader leaves out. -/
theorem skipFirstBreak_openingBreak {s body : List Char}
    (h : '\n' ∉ s → body.head? ≠ some '\n' ∧ body.head? ≠ some '\r') :
    skipFirstBreak (openingBreak s ++ body) = body := by
  by_cases hbreak : '\n' ∈ s
  · simp [openingBreak, hbreak, skipFirstBreak, afterNewline?]
  · simp [openingBreak, hbreak, skipFirstBreak_of_head (h hbreak).1 (h hbreak).2]

theorem head_escapeFrom_append {s tail : List Char} (h : '\n' ∉ s) :
    (escapeFrom true 0 s ++ '"' :: tail).head? ≠ some '\n' ∧
      (escapeFrom true 0 s ++ '"' :: tail).head? ≠ some '\r' := by
  cases s with
  | nil => simp [escapeFrom]
  | cons c s =>
      by_cases hquote : c = '"'
      · subst hquote
        simp [escapeFrom]
      · rw [escapeFrom_cons true 0 hquote]
        simp only [List.mem_cons, not_or] at h
        rcases escapeChar_cases true c with ⟨code, hcode, -⟩ | ⟨hcode, -, hreturn, -⟩
        · simp [hcode]
        · simp [hcode, hreturn, Ne.symm h.1]

/-! ## The forms -/

theorem isPlain_or_newline {s : List Char} (h : s.any needsEscape = false) :
    ∀ c ∈ s, isPlain c ∨ c = '\n' := by
  intro c hc
  have := List.any_eq_false.1 h c hc
  simp only [needsEscape, Bool.and_eq_true, not_and, Bool.not_eq_true'] at this
  by_cases hplain : isPlain c
  · exact .inl hplain
  · simp_all

theorem of_formOf_literal {s : List Char} (h : formOf s = .literal) :
    s.any needsEscape = false ∧ longestRun '\'' s = 0 ∧ '\n' ∉ s := by
  simp only [formOf] at h
  split_ifs at h
  simp_all

theorem of_formOf_longLiteral {s : List Char} (h : formOf s = .longLiteral) :
    s.any needsEscape = false ∧ longestRun '\'' s ≤ 2 := by
  simp only [formOf] at h
  split_ifs at h
  simp_all

theorem head_append_quote {s : List Char} (h : s.any needsEscape = false) (hbreak : '\n' ∉ s)
    (tail : List Char) :
    (s ++ '\'' :: tail).head? ≠ some '\n' ∧ (s ++ '\'' :: tail).head? ≠ some '\r' := by
  cases s with
  | nil => simp
  | cons c s =>
      have hreturn : c ≠ '\r' := by
        rintro rfl
        exact absurd (isPlain_or_newline h '\r' (.head s)) (by decide)
      simp only [List.mem_cons, not_or] at hbreak
      simp [hreturn, Ne.symm hbreak.1]

theorem readText?_basic {s : List Char} (h : ∀ v, s ≠ '"' :: '"' :: v) :
    readText? ('"' :: s) = readBasic? s := by
  rw [readText?]
  · rfl
  · exact fun v hs => h v (List.cons.inj hs).2
  · simp

theorem readText?_literal {s : List Char} (h : ∀ v, s ≠ '\'' :: '\'' :: v) :
    readText? ('\'' :: s) = readLiteral? s := by
  rw [readText?]
  · rfl
  · simp
  · exact fun v hs => h v (List.cons.inj hs).2

/-- A text on one line ends in one quote. -/
theorem append_quote_ne {quote : Char} {u : List Char} (hu : ∀ v, u ≠ quote :: v)
    (hquote : quote ≠ '\n') (rest v : List Char) :
    u ++ quote :: '\n' :: rest ≠ quote :: quote :: v := by
  cases u with
  | nil => simp [Ne.symm hquote]
  | cons c u => exact fun h => hu u (by rw [(List.cons.inj h).1])

/-- The text of a string is read back, up to the line that ends after it. -/
theorem readText?_textLiteral (s rest : List Char) :
    readText? (textLiteral s ++ '\n' :: rest) = some (s, '\n' :: rest) := by
  unfold textLiteral
  cases hform : formOf s with
  | basic =>
      have hne (v : List Char) : escapeFrom false 0 s ≠ '"' :: v := fun h => by
        obtain ⟨-, -, hrun, -⟩ := head_escapeFrom h
        exact absurd hrun (by simp)
      simp only [List.append_assoc, List.cons_append, List.nil_append]
      rw [readText?_basic (append_quote_ne hne (by decide) rest), readBasic?_escapeFrom]
  | literal =>
      obtain ⟨hcontrol, hruns, hbreak⟩ := of_formOf_literal hform
      have hquote := not_mem_of_longestRun hruns
      have hplain : ∀ c ∈ s, isPlain c = true := fun c hc =>
        (isPlain_or_newline hcontrol c hc).resolve_right fun h => hbreak (h ▸ hc)
      have hne (v : List Char) : s ≠ '\'' :: v := fun h => hquote (h ▸ .head v)
      simp only [List.append_assoc, List.cons_append, List.nil_append]
      rw [readText?_literal (append_quote_ne hne (by decide) rest),
        readLiteral?_append hplain hquote]
  | longBasic =>
      simp only [List.append_assoc, List.cons_append, List.nil_append, readText?]
      rw [skipFirstBreak_openingBreak head_escapeFrom_append]
      exact readLongBasic?_escapeFrom s (by simp)
  | longLiteral =>
      obtain ⟨hcontrol, hruns⟩ := of_formOf_longLiteral hform
      simp only [List.append_assoc, List.cons_append, List.nil_append, readText?]
      rw [skipFirstBreak_openingBreak fun hbreak => head_append_quote hcontrol hbreak _]
      exact readLongLiteral?_append (isPlain_or_newline hcontrol) hruns (by simp)

end CardSearch.Toml
