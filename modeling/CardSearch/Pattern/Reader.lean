import CardSearch.Number.Integer
import CardSearch.Pattern.Escape
import CardSearch.Pattern.Room
import CardSearch.Text.Blank
import CardSearch.Text.Break
import CardSearch.Text.Latest
import CardSearch.Text.ScriptExtension
import CardSearch.Text.Version

/-!
# Reading patterns

A pattern is read from left to right by a machine. It holds the branch that is
being read, the branches of the same group already read, and the groups around
it. Flags hold from where they are set to the end of the group. A text that is
not a pattern, that nests too deeply or that grows too large has no value.
-/

namespace CardSearch.Pattern

open Text
open Number (charOfCode? hexValue? ofDigits ofHex?)

/-- What may be switched on and off inside a pattern. -/
structure Flags where
  /-- Letters match in both cases. -/
  ignoreCase : Bool := false
  /-- The line assertions hold at every line. -/
  multiLine : Bool := false
  /-- The point matches line feeds too. -/
  dotAll : Bool := false
  /-- Classes and case are those of Unicode, not of ASCII. -/
  unicode : Bool := true
  /-- A carriage return ends a line too. -/
  crlf : Bool := false
  /-- Blanks and comments between the parts are skipped. -/
  verbose : Bool := false
deriving DecidableEq, Repr

/-- The text after blanks and comments; `comment` says whether it begins inside a comment. -/
def skipComments (comment : Bool) : List Char → List Char
  | [] => []
  | c :: rest =>
    if comment then skipComments (c != '\n') rest
    else if isBlank c then skipComments false rest
    else if c = '#' then skipComments true rest
    else c :: rest

/-- The text from the next part on. -/
def Flags.gap (f : Flags) (s : List Char) : List Char :=
  if f.verbose then skipComments false s else s

theorem length_skipComments_le (comment : Bool) (s : List Char) :
    (skipComments comment s).length ≤ s.length := by
  induction s generalizing comment with
  | nil => simp [skipComments]
  | cons c rest ih =>
    simp only [skipComments, List.length_cons]
    split
    · have := ih (c != '\n'); omega
    · split
      · have := ih false; omega
      · split
        · have := ih true; omega
        · simp

theorem Flags.length_gap_le (f : Flags) (s : List Char) : (f.gap s).length ≤ s.length := by
  simp only [gap]
  split
  · exact length_skipComments_le false s
  · exact Nat.le_refl _

/-- The characters that satisfy a test, with gaps between them, and the rest. -/
def takeSpaced (f : Flags) (p : Char → Bool) (s : List Char) : List Char × List Char :=
  match s with
  | [] => ([], [])
  | c :: rest =>
    if p c then
      let (cs, rest) := takeSpaced f p (f.gap rest)
      (c :: cs, rest)
    else ([], c :: rest)
termination_by s.length
decreasing_by
  have := f.length_gap_le rest
  simp only [List.length_cons]
  omega

/-! ## Numbers and names -/

/-- A fixed number of hexadecimal digits, with gaps between them. -/
def readHexDigits? (f : Flags) : Nat → List Char → Option (List Char × List Char)
  | 0, s => some ([], s)
  | n + 1, s =>
    match s with
    | [] => none
    | c :: rest =>
      if (hexValue? c).isSome then
        (readHexDigits? f n (if n = 0 then rest else f.gap rest)).map fun (cs, rest) =>
          (c :: cs, rest)
      else none

/-- A code point: so many digits, or any number of them in braces. -/
def readCode? (f : Flags) (width : Nat) (s : List Char) : Option (Char × List Char) :=
  match f.gap s with
  | '{' :: rest =>
    match takeSpaced f (· != '}') (f.gap rest) with
    | (_ :: _, []) | ([], _) => none
    | (ds, _ :: rest) => ((ofHex? ds).bind charOfCode?).map (·, rest)
  | s =>
    (readHexDigits? f width s).bind fun (ds, rest) =>
      ((ofHex? ds).bind charOfCode?).map (·, rest)

/-- A count of repetitions, blanks around it aside. -/
def readCount? (f : Flags) (s : List Char) : Option (Nat × List Char) :=
  let (ds, rest) := takeSpaced f Char.isDigit (s.dropWhile isBlank)
  let n := ofDigits ds
  if ds.isEmpty ∨ 4294967296 ≤ n then none else some (n, (takeSpaced f isBlank rest).2)

/-! ## Properties -/

/-- A name without separators and a leading `is`, in lower case. -/
def normalizeName (s : List Char) : String :=
  let startsIs := s.length ≥ 2 && (s.take 2).map Char.toLower == ['i', 's']
  let body := if startsIs then s.drop 2 else s
  let kept := body.filter fun c => c.toNat < 128 && !(c == ' ' || c == '_' || c == '-')
  let cs := kept.map Char.toLower
  if startsIs && cs == ['c'] then "isc" else String.ofList cs

/-- The class of a general category, by the name of the category or of a group. -/
def categoryClass? (name : String) : Option CharClass :=
  if name = "any" then some (.complement .empty)
  else if name = "ascii" then some .ascii
  else if name = "assigned" then some (.complement (.table Category.unassignedRanges))
  else (Category.ofName? name).map fun gs => .table (Category.union gs)

/-- Names of categories that other properties have as short names. -/
def ambiguousNames : List String := ["cf", "sc", "lc"]

/-- The class of a property, a category or a script. -/
def namedClass? (name : String) : Option CharClass :=
  let property := if ambiguousNames.contains name then none else Property.ofName? name
  (property.map .table).or ((categoryClass? name).or ((Script.ofName? name).map .table))

/-- The class of a property with a value. -/
def valuedClass? (name value : String) : Option CharClass :=
  match name with
  | "gc" | "generalcategory" => categoryClass? value
  | "sc" | "script" => (Script.ofName? value).map .table
  | "scx" | "scriptextensions" => (Script.usedWith? value).map .table
  | "age" => (Version.charactersOf? value).map .table
  | "gcb" | "graphemeclusterbreak" => (Break.ofName? Break.graphemes value).map .table
  | "wb" | "wordbreak" => (Break.ofName? Break.words value).map .table
  | "sb" | "sentencebreak" => (Break.ofName? Break.sentences value).map .table
  | _ => none

/-- The text before and after the first place where a mark stands. -/
def cutAt? (mark : List Char) : List Char → Option (List Char × List Char)
  | [] => none
  | c :: rest =>
    if mark.isPrefixOf (c :: rest) then some ([], (c :: rest).drop mark.length)
    else (cutAt? mark rest).map fun (before, after) => (c :: before, after)

/-- The class that stands in the braces of a property, and whether its complement is meant. -/
def bracedClass? (s : List Char) : Option (CharClass × Bool) :=
  match cutAt? ['!', '='] s, (cutAt? [':'] s).or (cutAt? ['='] s) with
  | some (name, value), _ => (valuedClass? (normalizeName name) (normalizeName value)).map (·, true)
  | none, some (name, value) =>
    (valuedClass? (normalizeName name) (normalizeName value)).map (·, false)
  | none, none => (namedClass? (normalizeName s)).map (·, false)

/-- A property after its letter: one more letter, or what stands in braces. -/
def readProperty? (f : Flags) (s : List Char) : Option ((CharClass × Bool) × List Char) :=
  match f.gap s with
  | [] | '\\' :: _ => none
  | '{' :: rest =>
    match takeSpaced f (· != '}') (f.gap rest) with
    | (_, []) => none
    | (name, _ :: rest) => (bracedClass? name).map (·, rest)
  | c :: rest => (namedClass? (normalizeName [c])).map fun a => ((a, false), rest)

/-! ## Classes by name -/

/-- Ranges of ASCII as a class. -/
def ofRanges (rs : List (Char × Char)) : CharClass :=
  rs.foldr (fun r a => .union (.range r.1 r.2) a) .empty

/-- The blanks of ASCII. -/
def asciiSpaces : CharClass := ofRanges [('\t', '\r'), (' ', ' ')]

def asciiWords : CharClass := ofRanges [('0', '9'), ('A', 'Z'), ('_', '_'), ('a', 'z')]

/-- The classes that are named between brackets and colons. -/
def asciiClass? (name : String) : Option CharClass :=
  match name with
  | "alnum" => some (ofRanges [('0', '9'), ('A', 'Z'), ('a', 'z')])
  | "alpha" => some (ofRanges [('A', 'Z'), ('a', 'z')])
  | "ascii" => some .ascii
  | "blank" => some (.chars ['\t', ' '])
  | "cntrl" => some (ofRanges [('\x00', '\x1f'), ('\x7f', '\x7f')])
  | "digit" => some (.range '0' '9')
  | "graph" => some (.range '!' '~')
  | "lower" => some (.range 'a' 'z')
  | "print" => some (.range ' ' '~')
  | "punct" => some (ofRanges [('!', '/'), (':', '@'), ('[', '\x60'), ('{', '~')])
  | "space" => some asciiSpaces
  | "upper" => some (.range 'A' 'Z')
  | "word" => some asciiWords
  | "xdigit" => some (ofRanges [('0', '9'), ('A', 'F'), ('a', 'f')])
  | _ => none

/-- The class closed under case, where case is ignored. -/
def Flags.fold (f : Flags) (a : CharClass) : CharClass :=
  if !f.ignoreCase then a else if f.unicode then .folded a else .foldedAscii a

/--
The class or its complement. Without Unicode a class counts single bytes, and a
complement, which has bytes beyond ASCII, could match a part of a character.
-/
def Flags.close? (f : Flags) (negated : Bool) (a : CharClass) : Option CharClass :=
  if !negated then some a else if f.unicode then some (.complement a) else none

/-- Digits, blanks and word characters. -/
def Flags.shorthand (f : Flags) (c : Char) : CharClass :=
  match c.toLower with
  | 'd' => if f.unicode then .table Category.decimalNumberRanges else .range '0' '9'
  | 's' => if f.unicode then .table Property.whiteSpace else asciiSpaces
  | _ => if f.unicode then .table Property.word else asciiWords

/-! ## Escapes -/

/-- A part of a pattern that stands for one character or one place. -/
inductive Atom where
  /-- A character; one given by two hexadecimal digits is a byte where Unicode is off. -/
  | literal (c : Char) (byte : Bool)
  | cls (a : CharClass)
  | assertion (a : Assertion)

/-- Characters that may stand after a backslash without need. -/
def isEscapable (c : Char) : Bool :=
  isMeta c || (c.toNat < 128 && !c.isAlphanum && c != '<' && c != '>')

/-- Letters that stand for control characters. -/
def controlEscape? : Char → Option Char
  | 'a' => some '\x07'
  | 'f' => some '\x0c'
  | 't' => some '\t'
  | 'n' => some '\n'
  | 'r' => some '\r'
  | 'v' => some '\x0b'
  | _ => none

/-- The edges of words that are asked for by name. -/
def edgeOfName? (name : List Char) : Option WordEdge :=
  match String.ofList name with
  | "start" => some .start
  | "end" => some .stop
  | "start-half" => some .halfStart
  | "end-half" => some .halfStop
  | _ => none

/-- What may follow the word boundary: the name of an edge in braces. -/
def readEdge? (f : Flags) (s : List Char) : Option (WordEdge × List Char) :=
  match s with
  | '{' :: rest =>
    match f.gap rest with
    | [] => none
    | c :: start =>
      if c.isAlpha || c == '-' then
        match takeSpaced f (fun c => c.isAlpha || c == '-') (c :: start) with
        | (name, '}' :: rest) => (edgeOfName? name).map (·, rest)
        | _ => none
      else some (.boundary, s)
  | _ => some (.boundary, s)

/-- What stands after a backslash. -/
def readEscape? (f : Flags) : List Char → Option (Atom × List Char)
  | [] => none
  | c :: rest =>
    if c.isDigit then none
    else if c = 'x' then
      let braced := (f.gap rest).head? == some '{'
      (readCode? f 2 rest).map fun (d, rest) => (.literal d (!braced), rest)
    else if c = 'u' then (readCode? f 4 rest).map fun (d, rest) => (.literal d false, rest)
    else if c = 'U' then (readCode? f 8 rest).map fun (d, rest) => (.literal d false, rest)
    else if c = 'p' ∨ c = 'P' then
      if f.unicode then
        (readProperty? f rest).bind fun ((a, unequal), rest) =>
          (f.close? ((c == 'P') != unequal) (f.fold a)).map fun a => (.cls a, rest)
      else none
    else if ['d', 's', 'w', 'D', 'S', 'W'].contains c then
      (f.close? c.isUpper (f.shorthand c)).map fun a => (.cls a, rest)
    else if isEscapable c then some (.literal c false, rest)
    else if c = 'A' then some (.assertion .textStart, rest)
    else if c = 'z' then some (.assertion .textEnd, rest)
    else if c = 'b' then
      (readEdge? f rest).map fun (edge, rest) => (.assertion (.word f.unicode edge), rest)
    else if c = 'B' then some (.assertion (.word f.unicode .inside), rest)
    else if c = '<' then some (.assertion (.word f.unicode .start), rest)
    else if c = '>' then some (.assertion (.word f.unicode .stop), rest)
    else (controlEscape? c).map fun d => (.literal d false, rest)

/-! ## Classes in brackets -/

/-- A class that is being read, with how deeply it nests. -/
structure ClassPart where
  cls : CharClass
  depth : Nat

/-- The operations on sets inside a class. -/
inductive ClassOp where
  | inter
  | diff
  | symmDiff

/-- The members of a class read so far, in the operand at hand. -/
structure Members where
  cls : CharClass := .empty
  count : Nat := 0
  depth : Nat := 0

namespace Members

def add (m : Members) (p : ClassPart) : Members :=
  ⟨if m.count = 0 then p.cls else .union m.cls p.cls, m.count + 1, max m.depth p.depth⟩

/-- A single member is the operand itself; several are one level deeper. -/
def part (m : Members) : ClassPart := ⟨m.cls, if m.count ≤ 1 then m.depth else m.depth + 1⟩

end Members

/-- Both sides of an operation, each closed under case. -/
def ClassOp.combine (f : Flags) (op : ClassOp) (a b : ClassPart) : ClassPart :=
  let cls := match op with
    | inter => .inter (f.fold a.cls) (f.fold b.cls)
    | diff => .diff (f.fold a.cls) (f.fold b.cls)
    | symmDiff => .symmDiff (f.fold a.cls) (f.fold b.cls)
  ⟨cls, max a.depth b.depth + 1⟩

/-- An operation that waits for its right side, if there is one. -/
abbrev Pending := Option (ClassPart × ClassOp)

/-- The right side joined to the left one. -/
def Pending.join (f : Flags) (pending : Pending) (b : ClassPart) : ClassPart :=
  match pending with
  | none => b
  | some (a, op) => op.combine f a b

/-- A class such as `[:alpha:]` after its opening bracket. -/
def readAsciiClass? (f : Flags) (s : List Char) : Option (ClassPart × List Char) :=
  match s with
  | ':' :: rest =>
    let (negated, rest) := match rest with
      | '^' :: rest => (true, rest)
      | _ => (false, rest)
    match rest.takeWhile (· != ':'), rest.dropWhile (· != ':') with
    | name, ':' :: ']' :: rest => do
      let a ← asciiClass? (String.ofList name)
      let a ← f.close? negated (f.fold a)
      some (⟨a, 0⟩, rest)
    | _, _ => none
  | _ => none

/-- Whether a name between colons stands after an opening bracket. -/
def namesAsciiClass (s : List Char) : Bool :=
  match s with
  | ':' :: rest =>
    let rest := if rest.head? = some '^' then rest.drop 1 else rest
    match rest.dropWhile (· != ':') with
    | ':' :: ']' :: _ => (asciiClass? (String.ofList (rest.takeWhile (· != ':')))).isSome
    | _ => false
  | _ => false

/-- A character of a class; where Unicode is off it is one of ASCII. -/
def Flags.isMember (f : Flags) (c : Char) : Bool := f.unicode || c.toNat < 128

/-- One item of a class that is not a bracket. -/
def readItem? (f : Flags) : List Char → Option (Atom × List Char)
  | [] => none
  | '\\' :: rest => readEscape? f rest
  | c :: rest => some (.literal c false, rest)

/-- The character after the next one; blanks are passed over, and of a comment only its sign. -/
def peek? (f : Flags) (s : List Char) : Option Char :=
  let rest := s.drop 1
  if f.verbose then
    match rest.dropWhile isBlank with
    | '#' :: rest => (rest.dropWhile isBlank).head?
    | rest => rest.head?
  else rest.head?

/-- An item, or a range of characters. -/
def readRange? (f : Flags) (s : List Char) : Option (ClassPart × List Char) := do
  let (first, rest) ← readItem? f s
  let rest := f.gap rest
  if rest.isEmpty then none
  else if rest.head? ≠ some '-' ∨ peek? f rest = some ']' ∨ peek? f rest = some '-' then
    match first with
    | .literal c _ => if f.isMember c then some (⟨.chars [c], 0⟩, rest) else none
    | .cls a => some (⟨a, 0⟩, rest)
    | .assertion _ => none
  else
    let start := f.gap (rest.drop 1)
    let (last, rest) ← readItem? f start
    match first, last with
    | .literal c _, .literal d _ =>
      if c ≤ d ∧ f.isMember c ∧ f.isMember d then some (⟨.range c d, 0⟩, rest) else none
    | _, _ => none

/-- The members that a class may begin with: dashes, or a closing bracket. -/
def readLeading (f : Flags) (m : Members) (s : List Char) : Members × List Char :=
  match s with
  | '-' :: rest => readLeading f (m.add ⟨.chars ['-'], 0⟩) (f.gap rest)
  | ']' :: rest => if m.count = 0 then (m.add ⟨.chars [']'], 0⟩, f.gap rest) else (m, s)
  | _ => (m, s)
termination_by s.length
decreasing_by
  have := f.length_gap_le rest
  simp only [List.length_cons]
  omega

mutual

/-- A class after its opening bracket. -/
def readClass? (f : Flags) (s : List Char) : Option (ClassPart × List Char) :=
  let start := f.gap s
  let negated := start.head? == some '^'
  let body := if negated then f.gap (start.drop 1) else start
  let (m, rest) := readLeading f {} body
  if rest.length ≤ s.length then
    (readMembers? f none m rest).bind fun (p, rest) =>
      (f.close? negated (f.fold p.cls)).map fun a => (⟨a, p.depth + 1⟩, rest)
  else none
termination_by 2 * s.length + 1

/-- The members of a class up to its closing bracket. -/
def readMembers? (f : Flags) (pending : Pending) (m : Members) (s : List Char) :
    Option (ClassPart × List Char) :=
  let more (pending : Pending) (m : Members) (rest : List Char) :=
    if _ : rest.length < s.length then readMembers? f pending m rest else none
  match f.gap s with
  | [] => none
  | ']' :: rest => some (pending.join f m.part, rest)
  | '[' :: rest =>
    if namesAsciiClass rest then
      (readAsciiClass? f rest).bind fun (p, rest) => more pending (m.add p) rest
    else if _ : rest.length < s.length then
      match readClass? f rest with
      | none => none
      | some (p, rest) => more pending (m.add p) rest
    else none
  | '&' :: '&' :: rest => more (some (pending.join f m.part, .inter)) {} rest
  | '-' :: '-' :: rest => more (some (pending.join f m.part, .diff)) {} rest
  | '~' :: '~' :: rest => more (some (pending.join f m.part, .symmDiff)) {} rest
  | t => (readRange? f t).bind fun (p, rest) => more pending (m.add p) rest
termination_by 2 * s.length

end

/-! ## The machine -/

/-- A part of a branch with how deeply it nests; a setting of flags is a part without a pattern. -/
structure Item where
  pattern : Option Pattern
  depth : Nat

/-- A group that is being read: its current branch, last part first, and the branches before it. -/
structure Group where
  items : List Item := []
  branches : List (Pattern × Nat) := []
  /-- Whether the group marks where it matches. -/
  marks : Bool := false
  /-- The flags that hold again after the group. -/
  outer : Flags

/-- A branch as one pattern, with its depth. -/
def branchOf (items : List Item) : Pattern × Nat :=
  let ps := (items.filterMap (·.pattern)).reverse
  let depth := (items.map (·.depth)).foldl max 0
  (sequence ps, if items.length ≤ 1 then depth else depth + 1)

namespace Group

/-- The group as one pattern, with its depth. -/
def close (g : Group) : Pattern × Nat :=
  let all := (branchOf g.items :: g.branches).reverse
  let depth := (all.map (·.2)).foldl max 0
  let p := choice (all.map (·.1))
  (if g.marks then .group p else p, if g.branches.isEmpty then depth else depth + 1)

def push (g : Group) (p : Pattern) (depth : Nat := 0) : Group :=
  { g with items := ⟨some p, depth⟩ :: g.items }

end Group

structure Machine where
  flags : Flags
  current : Group
  around : List Group := []
  names : List (List Char) := []

namespace Machine

def push (m : Machine) (p : Pattern) (depth : Nat := 0) : Machine :=
  { m with current := m.current.push p depth }

/-- The last part of the branch, repeated. -/
def repeatLast? (m : Machine) (least : Nat) (most : Option Nat) : Option Machine :=
  match m.current.items with
  | ⟨some p, depth⟩ :: rest =>
    some { m with
      current := { m.current with items := ⟨some (repeated p least most), depth + 1⟩ :: rest } }
  | _ => none

/-- A new group, with flags that hold inside. -/
def openGroup (m : Machine) (marks : Bool) (inner : Flags) : Machine :=
  { m with
    flags := inner
    current := { marks, outer := m.flags }
    around := m.current :: m.around }

/-- The end of a group. -/
def closeGroup? (m : Machine) : Option Machine :=
  match m.around with
  | [] => none
  | g :: around =>
    let (p, depth) := m.current.close
    some { m with flags := m.current.outer, current := g.push p (depth + 1), around := around }

/-- The next branch of the group. -/
def nextBranch (m : Machine) : Machine :=
  { m with
    current := { m.current with
      items := []
      branches := branchOf m.current.items :: m.current.branches } }

/-- A character, in both cases where case is ignored. -/
def literal? (f : Flags) (c : Char) (byte : Bool) : Option Pattern :=
  if f.unicode then some (.one (.chars (if f.ignoreCase then orbit c else [c])))
  else if byte && 128 ≤ c.toNat then none
  else some (.one (.chars (if f.ignoreCase then CharClass.asciiOrbit c else [c])))

/-- The pattern of an atom. -/
def atom? (f : Flags) : Atom → Option Pattern
  | .literal c byte => literal? f c byte
  | .cls a => some (.one a)
  | .assertion a => some (.assertion a)

/-- Any character but those that end a line. -/
def dot? (f : Flags) : Option Pattern :=
  if !f.unicode then none
  else if f.dotAll then some (.one (.complement .empty))
  else some (.one (.complement (.chars (if f.crlf then ['\r', '\n'] else ['\n']))))

end Machine

/-- One flag switched on or off; the flag for laziness changes nothing here. -/
def Flags.set? (f : Flags) (c : Char) (on : Bool) : Option Flags :=
  match c with
  | 'i' => some { f with ignoreCase := on }
  | 'm' => some { f with multiLine := on }
  | 's' => some { f with dotAll := on }
  | 'u' => some { f with unicode := on }
  | 'R' => some { f with crlf := on }
  | 'x' => some { f with verbose := on }
  | 'U' => some f
  | _ => none

/-- The flags between a question mark and what ends them; none may stand twice. -/
def readFlags? (f : Flags) (seen : List Char) : List Char → Option (Flags × List Char × List Char)
  | [] => none
  | c :: rest =>
    if c = ':' ∨ c = ')' then
      if seen.head? = some '-' then none else some (f, seen, c :: rest)
    else if seen.contains c then none
    else if c = '-' then readFlags? f ('-' :: seen) rest
    else (f.set? c (!seen.contains '-')).bind fun f => readFlags? f (c :: seen) rest

/-- The characters of the name of a group. -/
def isNameStart (c : Char) : Bool := c == '_' || Latest.isAlphabetic c
def isNameChar (c : Char) : Bool :=
  ['_', '.', '[', ']'].contains c || Latest.isAlphanumeric c

/-- The name of a group up to the angle bracket that ends it. -/
def readName? (s : List Char) : Option (List Char × List Char) :=
  match s.takeWhile (· != '>'), s.dropWhile (· != '>') with
  | c :: cs, '>' :: rest =>
    if isNameStart c && cs.all isNameChar then some (c :: cs, rest) else none
  | _, _ => none

/-- A group after its opening bracket. -/
def Machine.readGroup? (m : Machine) (s : List Char) : Option (Machine × List Char) :=
  let named (rest : List Char) := (readName? rest).bind fun (name, rest) =>
    if m.names.contains name then none
    else some ({ m.openGroup true m.flags with names := name :: m.names }, rest)
  match m.flags.gap s with
  | '?' :: '=' :: _ | '?' :: '!' :: _ | '?' :: '<' :: '=' :: _ | '?' :: '<' :: '!' :: _ => none
  | '?' :: 'P' :: '<' :: rest => named rest
  | '?' :: '<' :: rest => named rest
  | '?' :: rest =>
    match readFlags? m.flags [] rest with
    | some (inner, _, ':' :: rest) => some (m.openGroup false inner, rest)
    | some (inner, _ :: _, ')' :: rest) =>
      let current := { m.current with items := ⟨none, 0⟩ :: m.current.items }
      some ({ m with flags := inner, current }, rest)
    | _ => none
  | rest => some (m.openGroup true m.flags, rest)

/-- The counts of a repetition after the opening brace, and the rest after the closing one. -/
def readCounts? (f : Flags) (s : List Char) : Option (Nat × Option Nat × List Char) := do
  let (least, rest) ← readCount? f (f.gap s)
  match rest with
  | ',' :: rest =>
    match f.gap rest with
    | '}' :: rest => some (least, none, rest)
    | rest =>
      let (most, rest) ← readCount? f rest
      match rest with
      | '}' :: rest => if least ≤ most then some (least, some most, rest) else none
      | _ => none
  | '}' :: rest => some (least, some least, rest)
  | _ => none

/-- What stands after a repetition to make it lazy. -/
def dropLazy : List Char → List Char
  | '?' :: rest => rest
  | s => s

/-- One part of the pattern, from its first character on. -/
def Machine.step? (m : Machine) (c : Char) (rest : List Char) : Option (Machine × List Char) :=
  let f := m.flags
  match c with
  | '(' => m.readGroup? rest
  | ')' => m.closeGroup?.map (·, rest)
  | '|' => some (m.nextBranch, rest)
  | '[' => (readClass? f rest).map fun (p, rest) => (m.push (.one p.cls) p.depth, rest)
  | '?' => (m.repeatLast? 0 (some 1)).map (·, dropLazy rest)
  | '*' => (m.repeatLast? 0 none).map (·, dropLazy rest)
  | '+' => (m.repeatLast? 1 none).map (·, dropLazy rest)
  | '{' => (readCounts? f rest).bind fun (least, most, rest) =>
    (m.repeatLast? least most).map (·, dropLazy (f.gap rest))
  | '\\' => (readEscape? f rest).bind fun (a, rest) => (atom? f a).map fun p => (m.push p, rest)
  | '.' => (dot? f).map fun p => (m.push p, rest)
  | '^' => some (m.push (.assertion (if f.multiLine then .lineStart f.crlf else .textStart)), rest)
  | '$' => some (m.push (.assertion (if f.multiLine then .lineEnd f.crlf else .textEnd)), rest)
  | c => (literal? f c false).map fun p => (m.push p, rest)

/-- The machine at the end of the text. -/
def Machine.run? (m : Machine) (s : List Char) : Option Machine :=
  match hgap : m.flags.gap s with
  | [] => some m
  | c :: rest =>
    have : rest.length < s.length := by
      have := m.flags.length_gap_le s
      simp only [hgap, List.length_cons] at this
      omega
    match m.step? c rest with
    | none => none
    | some (m', rest') => if rest'.length ≤ rest.length then m'.run? rest' else none
termination_by s.length

/-- How deeply a pattern may nest. -/
def maxDepth : Nat := 250

/-- The pattern that a text stands for, read with the given flags. -/
def readWith? (f : Flags) (s : List Char) : Option Pattern :=
  match Machine.run? { flags := f, current := { outer := f } } s with
  | some { current := g, around := [], .. } =>
    let (p, depth) := g.close
    if depth ≤ maxDepth ∧ p.fits then some p else none
  | _ => none

/-- The pattern that a text stands for; case is ignored unless the pattern says otherwise. -/
def read? (s : List Char) : Option Pattern := readWith? { ignoreCase := true } s

/-- The pattern that a string stands for. -/
def ofString? (s : String) : Option Pattern := read? s.toList

end CardSearch.Pattern
