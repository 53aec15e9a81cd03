import CardSearch.Toml.Text
import CardSearch.Toml.Token

/-!
# Reading TOML files

A file is read in two steps: its text is a list of statements, which are headers
and entries, and the statements then make a table, one after the other. A text
that is not TOML has no value, and neither has one that gives a key twice or adds
to a table that is complete.
-/

namespace CardSearch.Toml

/-- The greatest depth to which arrays and records nest, and of segments in a key. -/
def maxDepth : Nat := 79

def skipSpaces (s : List Char) : List Char := s.dropWhile isSpace

/-- The text after a comment, if one begins here. -/
def skipComment : List Char → List Char
  | '#' :: rest => rest.dropWhile isPlain
  | s => s

/-- What follows the end of a line, which may be the end of the file. -/
def afterLine? (s : List Char) : Option (List Char) :=
  match skipComment (skipSpaces s) with
  | [] => some []
  | rest => afterNewline? rest

/-- The text after blanks, comments and line breaks, within an array. -/
def skipLines (s : List Char) : List Char :=
  match s with
  | [] => []
  | '\r' :: '\n' :: rest => skipLines rest
  | '#' :: rest => skipLines (rest.dropWhile isPlain)
  | c :: rest => if isSpace c || c = '\n' then skipLines rest else c :: rest
termination_by s.length
decreasing_by
  all_goals simp only [List.length_cons]
  · omega
  · have := (List.dropWhile_sublist (l := rest) isPlain).length_le
    omega
  · omega

/-! ## Keys -/

def isBareKeyChar (c : Char) : Bool := c.isAlphanum || c = '_' || c = '-'

/-- A segment of a key, blanks around it aside. -/
def readSegment? (s : List Char) : Option (String × List Char) :=
  let s := skipSpaces s
  let bare := s.takeWhile isBareKeyChar
  let segment? := if bare.isEmpty then readLineText? s else some (bare, s.drop bare.length)
  segment?.map fun (segment, rest) => (String.ofList segment, skipSpaces rest)

/-- The segments of a key that has no more than a number of them. -/
def readSegments? : Nat → List Char → Option (List String × List Char)
  | 0, _ => none
  | most + 1, s =>
    match readSegment? s with
    | some (segment, '.' :: rest) =>
      (readSegments? most rest).map fun (more, rest) => (segment :: more, rest)
    | some (segment, rest) => some ([segment], rest)
    | none => none

/-- A key: the segments before the last one, and the last one. -/
structure Key where
  path : List String
  last : String
deriving DecidableEq, Repr

def readKey? (s : List Char) : Option (Key × List Char) :=
  (readSegments? maxDepth s).bind fun (segments, rest) =>
    segments.getLast?.map fun last => (⟨segments.dropLast, last⟩, rest)

/-! ## Values -/

mutual

/-- A value whose arrays and records nest no deeper than a number of levels. -/
def readValue? (depth : Nat) (s : List Char) : Option (Toml × List Char) :=
  match s with
  | '[' :: rest =>
    match depth with
    | 0 => none
    | depth + 1 =>
      match skipLines rest with
      | ']' :: rest => some (array [], rest)
      | start => (readItems? depth start).map fun (items, rest) => (array items, rest)
  | '\x7b' :: rest =>
    match depth with
    | 0 => none
    | depth + 1 =>
      match skipSpaces rest with
      | '\x7d' :: rest => some (record [], rest)
      | start => (readFields? depth [] start).map fun (fields, rest) => (record fields, rest)
  | '"' :: _ | '\'' :: _ => (readText? s).map fun (t, rest) => (text (String.ofList t), rest)
  | _ =>
    let (token, rest) := takeToken s
    (readToken? token).map (·, rest)
termination_by (depth, s.length, 0)

/-- The items of an array, from the first one on. -/
def readItems? (depth : Nat) (s : List Char) : Option (List Toml × List Char) :=
  match readValue? depth s with
  | none => none
  | some (v, rest) =>
    match skipLines rest with
    | ']' :: rest => some ([v], rest)
    | ',' :: more =>
      match skipLines more with
      | ']' :: rest => some ([v], rest)
      | next =>
        if _ : next.length < s.length then
          (readItems? depth next).map fun (vs, rest) => (v :: vs, rest)
        else none
    | _ => none
termination_by (depth, s.length, 1)

/-- The fields of a record, added to those before. -/
def readFields? (depth : Nat) (done : Fields) (s : List Char) : Option (Fields × List Char) :=
  match readKey? s with
  | some (key, '=' :: rest) =>
    let start := skipSpaces rest
    if _ : start.length < s.length then
      match readValue? depth start with
      | none => none
      | some (v, rest) =>
        match put? key.path key.last v done, skipSpaces rest with
        | some fields, '\x7d' :: rest => some (fields, rest)
        | some fields, ',' :: more =>
          if _ : more.length < s.length then readFields? depth fields more else none
        | _, _ => none
    else none
  | _ => none
termination_by (depth, s.length, 1)

end

/-! ## Statements -/

/-- A line of a file that says something. -/
inductive Statement where
  /-- The header of a table. -/
  | begin (key : Key)
  /-- The header of one more table of an array. -/
  | append (key : Key)
  | entry (key : Key) (value : Toml)
deriving Repr

/-- A statement up to the end of its line. -/
def readStatement? : List Char → Option (Statement × List Char)
  | '[' :: '[' :: rest =>
    match readKey? rest with
    | some (key, ']' :: ']' :: rest) => some (.append key, rest)
    | _ => none
  | '[' :: rest =>
    match readKey? rest with
    | some (key, ']' :: rest) => some (.begin key, rest)
    | _ => none
  | s =>
    match readKey? s with
    | some (key, '=' :: rest) =>
      (readValue? maxDepth (skipSpaces rest)).map fun (v, rest) => (.entry key v, rest)
    | _ => none

/-- The statements of a text. -/
def readStatements? (s : List Char) : Option (List Statement) :=
  match skipSpaces s with
  | [] => some []
  | c :: line =>
    if c = '#' ∨ c = '\n' ∨ c = '\r' then
      match afterLine? (c :: line) with
      | some rest => if _ : rest.length < s.length then readStatements? rest else none
      | none => none
    else
      match readStatement? (c :: line) with
      | none => none
      | some (statement, rest) =>
        match afterLine? rest with
        | some rest =>
          if _ : rest.length < s.length then (readStatements? rest).map (statement :: ·) else none
        | none => none
termination_by s.length

/-- A file as it is put together: the table so far and the path of the header in force. -/
structure Draft where
  fields : Fields := []
  place : List String := []

namespace Draft

/-- The draft with one more statement. -/
def add? (d : Draft) : Statement → Option Draft
  | .begin key =>
    (changeAt? key.path (beginTable? key.last) d.fields).map fun fields =>
      ⟨fields, key.path ++ [key.last]⟩
  | .append key =>
    (changeAt? key.path (beginTables? key.last) d.fields).map fun fields =>
      ⟨fields, key.path ++ [key.last]⟩
  | .entry key value =>
    (changeAt? d.place (put? key.path key.last value) d.fields).map fun fields =>
      { d with fields }

end Draft

/-- The text without a byte order mark at its start. -/
def dropMark : List Char → List Char
  | '\ufeff' :: rest => rest
  | s => s

/-- The table that a file holds. -/
def read? (s : List Char) : Option Fields :=
  (readStatements? (dropMark s)).bind fun statements =>
    (statements.foldlM Draft.add? {}).map (·.fields)

end CardSearch.Toml
