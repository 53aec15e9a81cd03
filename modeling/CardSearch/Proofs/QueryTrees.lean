import CardSearch.Proofs.QuotedText
import CardSearch.Proofs.TextLines
import CardSearch.Report.Tree

/-!
# What the tree of a query tells

A tree has one line for each node of the condition, and everything about the node
but what is below it stands on that line (`eq_of_nodeText`). What is below it is
told by the indentation: the lines of a node's parts are the ones that follow and
stand further in, up to the first that does not. Read so, the lines of several
nodes in a row give back the nodes, whatever lines further out come after them
(`partLines_injective`). The order and the selection stand furthest out of all and
begin differently.

Names without a space or a line feed are all this asks for: a name ends at the
first space after it, no name begins with one, and no line is cut in two. Under
that condition the tree of a query tells the query, up to a direction that has no
order to go with (`queryTree_eq_iff`).
-/

namespace CardSearch

/-! ## Nodes and their parts -/

namespace Condition

/-- What stands right below the root of a condition. -/
def children : Condition → List Condition
  | .all parts | .any parts => parts
  | .not inner => [inner]
  | .field _ _ _ => []

section ForestInduction

variable {motive : List Condition → Prop} (nil : motive [])
  (cons : ∀ c rest, motive c.children → motive rest → motive (c :: rest))

include nil cons

mutual

theorem forest_induction : ∀ cs, motive cs
  | [] => nil
  | c :: rest => cons c rest (motive_children c) (forest_induction rest)

theorem motive_children : ∀ c : Condition, motive c.children
  | .all parts => forest_induction parts
  | .any parts => forest_induction parts
  | .not inner => cons inner [] (motive_children inner) nil
  | .field _ _ _ => nil

end

end ForestInduction

theorem mem_tests_of_children {c : Condition} {t : FieldTest}
    (h : t ∈ testsOfParts c.children) : t ∈ c.tests := by
  cases c with
  | all parts => simpa [children, tests] using h
  | any parts => simpa [children, tests] using h
  | not inner => simpa [children, tests, testsOfParts] using h
  | field name op operand => simp [children, testsOfParts] at h

end Condition

namespace Operator

theorem newline_not_mem_symbol (op : Operator) : '\n' ∉ op.symbol.toList := by
  cases op <;> decide

/-- With the space after it, no sign begins another one. -/
theorem eq_of_prefix_symbol {op op' : Operator}
    (h : op.symbol.toList ++ [' '] <+: op'.symbol.toList ++ [' ']) : op = op' := by
  revert h
  cases op <;> cases op' <;> decide

theorem symbol_append_injective {op op' : Operator} {t t' : List Char}
    (h : op.symbol.toList ++ ' ' :: t = op'.symbol.toList ++ ' ' :: t') : op = op' ∧ t = t' := by
  have hop : op = op' := by
    have hleft : op.symbol.toList ++ [' '] <+: op'.symbol.toList ++ ' ' :: t' := ⟨t, by simp [← h]⟩
    have hright : op'.symbol.toList ++ [' '] <+: op'.symbol.toList ++ ' ' :: t' := ⟨t', by simp⟩
    rcases List.prefix_or_prefix_of_prefix hleft hright with hprefix | hprefix
    · exact eq_of_prefix_symbol hprefix
    · exact (eq_of_prefix_symbol hprefix).symm
  subst hop
  exact ⟨rfl, (List.cons.inj (List.append_cancel_left h)).2⟩

theorem head_symbol (op : Operator) (t : List Char) :
    (op.symbol.toList ++ t).head? ≠ some '(' := by
  cases op <;> exact nofun

end Operator

namespace Report

open Text (quoted ofLines)

/-! ## The line of a node -/

/-- A name that can stand on a line of a tree and be told from what follows. -/
structure IsPlainName (name : String) : Prop where
  ne_nil : name.toList ≠ []
  space_not_mem : ' ' ∉ name.toList
  newline_not_mem : '\n' ∉ name.toList

instance (name : String) : Decidable (IsPlainName name) :=
  decidable_of_iff (name.toList ≠ [] ∧ ' ' ∉ name.toList ∧ '\n' ∉ name.toList)
    ⟨fun ⟨hne, hspace, hline⟩ => ⟨hne, hspace, hline⟩,
      fun h => ⟨h.ne_nil, h.space_not_mem, h.newline_not_mem⟩⟩

theorem operandText_number (n : Int) : operandText (.number n) = Number.decimal n :=
  String.toList_ofList

/-- A number begins with a digit or a minus sign, and no other operand does. -/
theorem eq_number_of_operandText {n : Int} {v : Operand} (h : operandText v = Number.decimal n) :
    v = .number n := by
  have hhead : ∀ {c : Char} {rest : List Char}, c ≠ '-' → c.isDigit = false →
      c :: rest ≠ Number.decimal n := by
    intro c rest hminus hdigit hcons
    exact Number.not_mem_decimal hminus hdigit n (hcons ▸ List.mem_cons_self)
  cases v with
  | null => exact absurd h (hhead (by decide) rfl)
  | bool b => cases b <;> exact absurd h (hhead (by decide) rfl)
  | number m => rw [Number.decimal_injective ((operandText_number m).symm.trans h)]
  | text s => exact absurd h (hhead (by decide) rfl)

theorem operandText_injective {v w : Operand} (h : operandText v = operandText w) : v = w := by
  cases v with
  | number n => exact (eq_number_of_operandText (h.symm.trans (operandText_number n))).symm
  | null =>
      cases w with
      | null => rfl
      | bool b => cases b <;> exact absurd h nofun
      | number m => exact eq_number_of_operandText (h.trans (operandText_number m))
      | text s => exact absurd h nofun
  | bool b =>
      cases w with
      | null => cases b <;> exact absurd h nofun
      | bool b' =>
          revert h
          cases b <;> cases b' <;> decide
      | number m => exact eq_number_of_operandText (h.trans (operandText_number m))
      | text s => cases b <;> exact absurd h nofun
  | text s =>
      cases w with
      | null => exact absurd h nofun
      | bool b => cases b <;> exact absurd h nofun
      | number m => exact eq_number_of_operandText (h.trans (operandText_number m))
      | text s' => rw [String.toList_inj.1 (Text.quoted_injective h)]

/-- What the line of a node says after its indentation. -/
def nodeText : Condition → List Char
  | .all parts => allLabel parts.isEmpty
  | .any parts => anyLabel parts.isEmpty
  | .not _ => "not".toList
  | .field name op operand =>
    name.toList ++ ' ' :: (op.symbol.toList ++ ' ' :: operandText operand)

theorem conditionLines_eq (depth : Nat) (c : Condition) :
    conditionLines false depth c =
      (indentation depth ++ nodeText c) :: partLines false (depth + 1) c.children := by
  cases c <;>
    simp [conditionLines, partLines, keywordLine, fieldLine, nodeText, Condition.children]

/-- The names a condition asks of can all stand in a tree. -/
def HasPlainNames (cs : List Condition) : Prop :=
  ∀ t ∈ Condition.testsOfParts cs, IsPlainName t.name

theorem HasPlainNames.children {c : Condition} {cs : List Condition}
    (h : HasPlainNames (c :: cs)) : HasPlainNames c.children := by
  intro t ht
  exact h t (List.mem_append_left _ (Condition.mem_tests_of_children ht))

theorem HasPlainNames.tail {c : Condition} {cs : List Condition}
    (h : HasPlainNames (c :: cs)) : HasPlainNames cs := by
  intro t ht
  exact h t (List.mem_append_right _ ht)

theorem HasPlainNames.of_field {name : String} {op : Operator} {operand : Operand}
    {cs : List Condition} (h : HasPlainNames (.field name op operand :: cs)) : IsPlainName name :=
  h ⟨name, op, operand⟩ List.mem_cons_self

/-! ### Leaves and other nodes -/

theorem IsPlainName.cut_leaf {name : String} (h : IsPlainName name) (op : Operator)
    (operand : Operand) :
    Text.cutAtFirst? ' ' (nodeText (.field name op operand)) =
      some (name.toList, op.symbol.toList ++ ' ' :: operandText operand) :=
  Text.cutAtFirst?_append h.space_not_mem _

theorem leaf_injective {name name' : String} {op op' : Operator} {operand operand' : Operand}
    (hname : IsPlainName name) (hname' : IsPlainName name')
    (h : nodeText (.field name op operand) = nodeText (.field name' op' operand')) :
    Condition.field name op operand = .field name' op' operand' := by
  have hcut := congrArg (Text.cutAtFirst? ' ') h
  rw [hname.cut_leaf, hname'.cut_leaf] at hcut
  obtain ⟨hnames, hrest⟩ := Prod.mk.inj (Option.some.inj hcut)
  obtain ⟨hop, hoperand⟩ := Operator.symbol_append_injective hrest
  rw [String.toList_inj.1 hnames, hop, operandText_injective hoperand]

/-- After its first word a label has nothing, or a remark in brackets. -/
def IsLabel (label : List Char) : Prop :=
  ∀ word rest, Text.cutAtFirst? ' ' label = some (word, rest) → rest.head? = some '('

theorem isLabel_allLabel (isEmpty : Bool) : IsLabel (allLabel isEmpty) := by
  intro word rest h
  cases isEmpty <;> cases h
  rfl

theorem isLabel_anyLabel (isEmpty : Bool) : IsLabel (anyLabel isEmpty) := by
  intro word rest h
  cases isEmpty <;> cases h
  rfl

theorem isLabel_not : IsLabel "not".toList := by
  intro word rest h
  cases h

theorem IsPlainName.leaf_ne_label {name : String} (h : IsPlainName name) {op : Operator}
    {operand : Operand} {label : List Char} (hlabel : IsLabel label) :
    nodeText (.field name op operand) ≠ label := by
  intro htext
  exact op.head_symbol _ (hlabel _ _ (htext ▸ h.cut_leaf op operand))

theorem head_allLabel (isEmpty : Bool) : ∃ rest, allLabel isEmpty = 'a' :: rest := by
  cases isEmpty <;> exact ⟨_, rfl⟩

theorem head_anyLabel (isEmpty : Bool) : ∃ rest, anyLabel isEmpty = 'o' :: rest := by
  cases isEmpty <;> exact ⟨_, rfl⟩

theorem allLabel_ne_anyLabel (isEmpty isEmpty' : Bool) :
    allLabel isEmpty ≠ anyLabel isEmpty' := by
  obtain ⟨rest, hall⟩ := head_allLabel isEmpty
  obtain ⟨rest', hany⟩ := head_anyLabel isEmpty'
  rw [hall, hany]
  nofun

theorem allLabel_ne_not (isEmpty : Bool) : allLabel isEmpty ≠ "not".toList := by
  obtain ⟨rest, hall⟩ := head_allLabel isEmpty
  rw [hall]
  nofun

theorem anyLabel_ne_not (isEmpty : Bool) : anyLabel isEmpty ≠ "not".toList := by
  obtain ⟨rest, hany⟩ := head_anyLabel isEmpty
  rw [hany]
  nofun

/-- A node is known by its line and by what stands below it. -/
theorem eq_of_nodeText {c c' : Condition} {cs cs' : List Condition}
    (hc : HasPlainNames (c :: cs)) (hc' : HasPlainNames (c' :: cs'))
    (htext : nodeText c = nodeText c') (hchildren : c.children = c'.children) : c = c' := by
  cases c with
  | all parts =>
      cases c' with
      | all parts' => exact congrArg Condition.all hchildren
      | any parts' => exact absurd htext (allLabel_ne_anyLabel _ _)
      | not inner' => exact absurd htext (allLabel_ne_not _)
      | field name' op' operand' =>
          exact absurd htext.symm (hc'.of_field.leaf_ne_label (isLabel_allLabel _))
  | any parts =>
      cases c' with
      | all parts' => exact absurd htext.symm (allLabel_ne_anyLabel _ _)
      | any parts' => exact congrArg Condition.any hchildren
      | not inner' => exact absurd htext (anyLabel_ne_not _)
      | field name' op' operand' =>
          exact absurd htext.symm (hc'.of_field.leaf_ne_label (isLabel_anyLabel _))
  | not inner =>
      cases c' with
      | all parts' => exact absurd htext.symm (allLabel_ne_not _)
      | any parts' => exact absurd htext.symm (anyLabel_ne_not _)
      | not inner' => exact congrArg Condition.not (List.cons.inj hchildren).1
      | field name' op' operand' =>
          exact absurd htext.symm (hc'.of_field.leaf_ne_label isLabel_not)
  | field name op operand =>
      cases c' with
      | all parts' => exact absurd htext (hc.of_field.leaf_ne_label (isLabel_allLabel _))
      | any parts' => exact absurd htext (hc.of_field.leaf_ne_label (isLabel_anyLabel _))
      | not inner' => exact absurd htext (hc.of_field.leaf_ne_label isLabel_not)
      | field name' op' operand' => exact leaf_injective hc.of_field hc'.of_field htext

/-! ## Nodes in a row -/

/-- How far a line stands in. -/
def level (line : List Char) : Nat := (line.takeWhile (· = ' ')).length

/-- What comes next, if anything does, stands further out. -/
def StartsOutside (bound : Nat) (lines : List (List Char)) : Prop :=
  ∀ line ∈ lines.head?, level line < bound

theorem head_nodeText {c : Condition} {cs : List Condition} (hc : HasPlainNames (c :: cs)) :
    ∃ first rest, nodeText c = first :: rest ∧ first ≠ ' ' := by
  cases c with
  | all parts =>
      obtain ⟨rest, hrest⟩ := head_allLabel parts.isEmpty
      exact ⟨'a', rest, hrest, by decide⟩
  | any parts =>
      obtain ⟨rest, hrest⟩ := head_anyLabel parts.isEmpty
      exact ⟨'o', rest, hrest, by decide⟩
  | not inner => exact ⟨'n', ['o', 't'], rfl, by decide⟩
  | field name op operand =>
      have hname := hc.of_field
      obtain ⟨first, rest, hcons⟩ := List.exists_cons_of_ne_nil hname.ne_nil
      refine ⟨first, _, by rw [nodeText, hcons, List.cons_append], ?_⟩
      intro hspace
      exact hname.space_not_mem (by rw [hcons, hspace]; exact List.mem_cons_self)

theorem level_node {c : Condition} {cs : List Condition} (hc : HasPlainNames (c :: cs))
    (depth : Nat) : level (indentation depth ++ nodeText c) = 2 * depth := by
  obtain ⟨first, rest, htext, hfirst⟩ := head_nodeText hc
  have hspaces : ∀ ch ∈ indentation depth, (ch = ' ' : Bool) = true := by
    intro ch hch
    exact decide_eq_true (List.eq_of_mem_replicate hch)
  rw [level, htext, List.takeWhile_append_of_pos hspaces,
    List.takeWhile_cons_of_neg (by simpa using hfirst), List.append_nil, indentation,
    List.length_replicate]

theorem partLines_cons (depth : Nat) (c : Condition) (cs : List Condition)
    (rest : List (List Char)) :
    partLines false depth (c :: cs) ++ rest =
      (indentation depth ++ nodeText c) ::
        (partLines false (depth + 1) c.children ++ (partLines false depth cs ++ rest)) := by
  rw [partLines, conditionLines_eq, List.cons_append, List.cons_append, List.append_assoc]

/-- The nodes that come after one on its level, and all that follows, stand further out than its
parts. -/
theorem startsOutside_next {cs : List Condition} (hcs : HasPlainNames cs) {depth : Nat}
    {rest : List (List Char)} (hrest : StartsOutside (2 * depth) rest) :
    StartsOutside (2 * (depth + 1)) (partLines false depth cs ++ rest) := by
  intro line hline
  cases cs with
  | nil =>
      have := hrest line hline
      omega
  | cons c more =>
      rw [partLines_cons] at hline
      rw [← Option.some.inj hline, level_node hcs]
      omega

theorem not_startsOutside_cons {c : Condition} {cs : List Condition}
    (hc : HasPlainNames (c :: cs)) (depth : Nat) (rest : List (List Char)) :
    ¬ StartsOutside (2 * depth) (partLines false depth (c :: cs) ++ rest) := by
  intro h
  rw [partLines_cons] at h
  have hlevel := h _ rfl
  rw [level_node hc] at hlevel
  omega

/-- The lines of nodes in a row tell the nodes and where their lines end. -/
theorem partLines_injective {cs : List Condition} {depth : Nat} {cs' : List Condition}
    {rest rest' : List (List Char)} (hcs : HasPlainNames cs) (hcs' : HasPlainNames cs')
    (hrest : StartsOutside (2 * depth) rest) (hrest' : StartsOutside (2 * depth) rest')
    (h : partLines false depth cs ++ rest = partLines false depth cs' ++ rest') :
    cs = cs' ∧ rest = rest' := by
  induction cs using Condition.forest_induction generalizing depth cs' rest rest' with
  | nil =>
      cases cs' with
      | nil => exact ⟨rfl, h⟩
      | cons c' more' =>
          rw [partLines, List.nil_append] at h
          exact absurd (h ▸ hrest) (not_startsOutside_cons hcs' depth rest')
  | cons c more ihchildren ihmore =>
      cases cs' with
      | nil =>
          rw [partLines, List.nil_append] at h
          exact absurd (h ▸ hrest') (not_startsOutside_cons hcs depth rest)
      | cons c' more' =>
          -- the parts of the first node end where its next sibling or what follows them all begins
          rw [partLines_cons, partLines_cons] at h
          obtain ⟨hline, hbelow⟩ := List.cons.inj h
          obtain ⟨hchildren, hnext⟩ := ihchildren hcs.children hcs'.children
            (startsOutside_next hcs.tail hrest) (startsOutside_next hcs'.tail hrest') hbelow
          obtain ⟨rfl, hend⟩ := ihmore hcs.tail hcs'.tail hrest hrest' hnext
          rw [eq_of_nodeText hcs hcs' (List.append_cancel_left hline) hchildren]
          exact ⟨rfl, hend⟩

/-! ### No line is cut in two -/

theorem newline_not_mem_operandText (v : Operand) : '\n' ∉ operandText v := by
  cases v with
  | null => decide
  | bool b => cases b <;> decide
  | number n =>
      rw [operandText_number]
      exact Number.not_mem_decimal (by decide) rfl n
  | text s => exact Text.newline_not_mem_quoted s.toList

theorem newline_not_mem_allLabel (isEmpty : Bool) : '\n' ∉ allLabel isEmpty := by
  cases isEmpty <;> decide

theorem newline_not_mem_anyLabel (isEmpty : Bool) : '\n' ∉ anyLabel isEmpty := by
  cases isEmpty <;> decide

theorem newline_not_mem_nodeText {c : Condition} {cs : List Condition}
    (hc : HasPlainNames (c :: cs)) : '\n' ∉ nodeText c := by
  cases c with
  | all parts => exact newline_not_mem_allLabel parts.isEmpty
  | any parts => exact newline_not_mem_anyLabel parts.isEmpty
  | not inner => exact (by decide : '\n' ∉ "not".toList)
  | field name op operand =>
      have hname := hc.of_field.newline_not_mem
      have hsymbol := op.newline_not_mem_symbol
      have hoperand := newline_not_mem_operandText operand
      simp [nodeText, hname, hsymbol, hoperand]

theorem newline_not_mem_partLines {cs : List Condition} (hcs : HasPlainNames cs) {depth : Nat}
    {line : List Char} (hline : line ∈ partLines false depth cs) : '\n' ∉ line := by
  induction cs using Condition.forest_induction generalizing depth with
  | nil => simp [partLines] at hline
  | cons c more ihchildren ihmore =>
      rw [← List.append_nil (partLines false depth _), partLines_cons, List.append_nil,
        List.mem_cons, List.mem_append] at hline
      rcases hline with hroot | hbelow | hnext
      · have hspaces : '\n' ∉ indentation depth := by simp [indentation]
        rw [hroot]
        exact List.not_mem_append hspaces (newline_not_mem_nodeText hcs)
      · exact ihchildren hcs.children hbelow
      · exact ihmore hcs.tail hnext

/-! ## Whole queries -/

/-- The names a query asks of and sorts by can all stand in a tree. -/
structure IsPlainQuery (q : Query) : Prop where
  names : ∀ t ∈ q.condition.tests, IsPlainName t.name
  sortBy : ∀ field ∈ q.sortBy, IsPlainName field

instance (q : Query) : Decidable (IsPlainQuery q) :=
  decidable_of_iff ((∀ t ∈ q.condition.tests, IsPlainName t.name) ∧
      ∀ field ∈ q.sortBy, IsPlainName field)
    ⟨fun ⟨hnames, hsort⟩ => ⟨hnames, hsort⟩, fun h => ⟨h.names, h.sortBy⟩⟩

theorem IsPlainQuery.hasPlainNames {q : Query} (h : IsPlainQuery q) :
    HasPlainNames [q.condition] := by
  intro t ht
  exact h.names t (by simpa [Condition.testsOfParts] using ht)

/-- The line that tells an order. -/
def sortLine (field : String) (descending : Bool) : List Char :=
  "sort: ".toList ++ (field.toList ++ ' ' ::
    (if descending then "descending" else "ascending").toList)

theorem sortLines_none {q : Query} (h : q.sortBy = none) : sortLines q = [] := by
  rw [sortLines, h]

theorem sortLines_some {q : Query} {field : String} (h : q.sortBy = some field) :
    sortLines q = [sortLine field q.descending] := by
  rw [sortLines, h]
  exact congrArg ([·]) (List.append_assoc _ _ _)

theorem sortLine_injective {field field' : String} {descending descending' : Bool}
    (hfield : IsPlainName field) (hfield' : IsPlainName field')
    (h : sortLine field descending = sortLine field' descending') :
    field = field' ∧ descending = descending' := by
  have hcut := congrArg (Text.cutAtFirst? ' ') (List.append_cancel_left h)
  rw [Text.cutAtFirst?_append hfield.space_not_mem,
    Text.cutAtFirst?_append hfield'.space_not_mem] at hcut
  obtain ⟨hnames, hword⟩ := Prod.mk.inj (Option.some.inj hcut)
  refine ⟨String.toList_inj.1 hnames, ?_⟩
  revert hword
  cases descending <;> cases descending' <;> decide

theorem newline_not_mem_sortLine {field : String} (hfield : IsPlainName field)
    (descending : Bool) : '\n' ∉ sortLine field descending := by
  have hword : '\n' ∉ ' ' :: (if descending then "descending" else "ascending").toList := by
    cases descending <;> decide
  exact List.not_mem_append (by decide) (List.not_mem_append hfield.newline_not_mem hword)

theorem selectionLines_injective {p q : Query} (h : selectionLines p = selectionLines q) :
    p.selection = q.selection := by
  unfold selectionLines at h
  cases hp : p.selection with
  | none =>
      cases hq : q.selection with
      | none => rfl
      | some t => simp [hp, hq] at h
  | some s =>
      cases hq : q.selection with
      | none => simp [hp, hq] at h
      | some t =>
          rw [hp, hq] at h
          have hname := String.toList_inj.1 (List.append_cancel_left (List.cons.inj h).1)
          revert hname
          cases s <;> cases t <;> decide

theorem selectionLines_ne_sortLine (q : Query) (field : String) (descending : Bool)
    (rest : List (List Char)) : selectionLines q ≠ sortLine field descending :: rest := by
  unfold selectionLines
  split
  · nofun
  · intro h
    exact absurd (List.cons.inj h).1 nofun

theorem newline_not_mem_selectionLines {q : Query} {line : List Char}
    (hline : line ∈ selectionLines q) : '\n' ∉ line := by
  unfold selectionLines at hline
  split at hline
  · cases hline
  · next s _ =>
    rw [List.mem_singleton.1 hline]
    cases s <;> decide

/-- The order and the selection begin at the margin. -/
theorem startsOutside_directives (q : Query) :
    StartsOutside (2 * 1) (sortLines q ++ selectionLines q) := by
  intro line hline
  cases hsort : q.sortBy with
  | some field =>
      rw [sortLines_some hsort] at hline
      rw [← Option.some.inj hline]
      exact Nat.zero_lt_two
  | none =>
      rw [sortLines_none hsort, List.nil_append, selectionLines] at hline
      split at hline
      · cases hline
      · rw [← Option.some.inj hline]
        exact Nat.zero_lt_two

theorem directives_injective {p q : Query} (hp : IsPlainQuery p) (hq : IsPlainQuery q)
    (h : sortLines p ++ selectionLines p = sortLines q ++ selectionLines q) :
    p.sortBy = q.sortBy ∧ p.selection = q.selection ∧
      (p.sortBy.isSome → p.descending = q.descending) := by
  cases hpsort : p.sortBy with
  | none =>
      rw [sortLines_none hpsort, List.nil_append] at h
      cases hqsort : q.sortBy with
      | none =>
          rw [sortLines_none hqsort, List.nil_append] at h
          exact ⟨rfl, selectionLines_injective h, nofun⟩
      | some field' =>
          rw [sortLines_some hqsort] at h
          exact absurd h (selectionLines_ne_sortLine p _ _ _)
  | some field =>
      rw [sortLines_some hpsort] at h
      cases hqsort : q.sortBy with
      | none =>
          rw [sortLines_none hqsort, List.nil_append] at h
          exact absurd h.symm (selectionLines_ne_sortLine q _ _ _)
      | some field' =>
          rw [sortLines_some hqsort] at h
          obtain ⟨hline, hselection⟩ := List.cons.inj h
          obtain ⟨hfield, hdescending⟩ :=
            sortLine_injective (hp.sortBy field hpsort) (hq.sortBy field' hqsort) hline
          exact ⟨by rw [hfield], selectionLines_injective hselection, fun _ => hdescending⟩

theorem queryLines_eq (q : Query) :
    queryLines false q =
      nodeText q.condition ::
        (partLines false 1 q.condition.children ++ (sortLines q ++ selectionLines q)) := by
  rw [queryLines, conditionLines_eq, List.append_assoc, List.cons_append]
  rfl

theorem newline_not_mem_queryLines {q : Query} (hq : IsPlainQuery q) {line : List Char}
    (hline : line ∈ queryLines false q) : '\n' ∉ line := by
  rw [queryLines_eq, List.mem_cons, List.mem_append, List.mem_append] at hline
  rcases hline with hroot | hbelow | hsort | hselection
  · rw [hroot]
    exact newline_not_mem_nodeText hq.hasPlainNames
  · exact newline_not_mem_partLines hq.hasPlainNames.children hbelow
  · cases hfield : q.sortBy with
    | none =>
        rw [sortLines_none hfield] at hsort
        cases hsort
    | some field =>
        rw [sortLines_some hfield, List.mem_singleton] at hsort
        rw [hsort]
        exact newline_not_mem_sortLine (hq.sortBy field hfield) _
  · exact newline_not_mem_selectionLines hselection

theorem queryLines_injective {p q : Query} (hp : IsPlainQuery p) (hq : IsPlainQuery q)
    (h : queryLines false p = queryLines false q) :
    p.condition = q.condition ∧ p.sortBy = q.sortBy ∧ p.selection = q.selection ∧
      (p.sortBy.isSome → p.descending = q.descending) := by
  rw [queryLines_eq, queryLines_eq] at h
  obtain ⟨hroot, hbelow⟩ := List.cons.inj h
  obtain ⟨hchildren, hdirectives⟩ := partLines_injective hp.hasPlainNames.children
    hq.hasPlainNames.children (startsOutside_directives p) (startsOutside_directives q) hbelow
  exact ⟨eq_of_nodeText hp.hasPlainNames hq.hasPlainNames hroot hchildren,
    directives_injective hp hq hdirectives⟩

/-- A query can be read off its tree: two queries have the same tree just when they ask the same,
sort by the same field in the same direction, if they sort at all, and select the same. -/
theorem queryTree_eq_iff {p q : Query} (hp : IsPlainQuery p) (hq : IsPlainQuery q) :
    queryTree false p = queryTree false q ↔
      p.condition = q.condition ∧ p.sortBy = q.sortBy ∧ p.selection = q.selection ∧
        (p.sortBy.isSome → p.descending = q.descending) := by
  constructor
  · intro h
    exact queryLines_injective hp hq (Text.ofLines_injective
      (fun _ hl => newline_not_mem_queryLines hp hl) (fun _ hl => newline_not_mem_queryLines hq hl)
      h)
  · intro ⟨hcondition, hsort, hselection, hdescending⟩
    have hsortLines : sortLines p = sortLines q := by
      cases hfield : p.sortBy with
      | none => rw [sortLines_none hfield, sortLines_none (hsort ▸ hfield)]
      | some field =>
          rw [sortLines_some hfield, sortLines_some (hsort ▸ hfield),
            hdescending (by rw [hfield]; rfl)]
    have hselectionLines : selectionLines p = selectionLines q := by
      rw [selectionLines, selectionLines, hselection]
    rw [queryTree, queryTree, queryLines, queryLines, hcondition, hsortLines, hselectionLines]

/-- A direction without an order does not show, and a leaf one level further out does. -/
theorem queryTree_eq_iff_nested :
    let named := Condition.field "front" .startsWith (.text "not\n  \"and\"")
    let counted := Condition.field "and" .atLeast (.number (-3))
    let inside : Query := { condition := .not (.all [.any [named, counted]]) }
    let outside : Query := { condition := .not (.all [.any [named], counted]) }
    queryTree false inside = queryTree false { inside with descending := true } ∧
      queryTree false inside ≠ queryTree false outside := by
  intro named counted inside outside
  have hinside : IsPlainQuery inside := by decide
  have hturned : IsPlainQuery { inside with descending := true } := by decide
  have houtside : IsPlainQuery outside := by decide
  refine ⟨(queryTree_eq_iff hinside hturned).2 ⟨rfl, rfl, rfl, nofun⟩, fun h => ?_⟩
  exact absurd ((queryTree_eq_iff hinside houtside).1 h).1 nofun

end Report

end CardSearch
