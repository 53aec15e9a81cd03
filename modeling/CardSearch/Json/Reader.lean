import CardSearch.Json.Basic

/-!
# Reading JSON text

A reader takes characters from the front of a text and returns what it read
with the rest. A text that is not JSON has no value, and neither has one that
nests deeper than a given number of levels or holds a number beyond the greatest
double. Objects come out as written, with their keys in the order of the text.
-/

namespace CardSearch.Json

open CardSearch.Number (Double digitValue hexValue? ofDigits wordSize)

/-- The blanks that may stand between tokens. -/
def isSpace (c : Char) : Bool := c == ' ' || c == '\n' || c == '\t' || c == '\r'

def skipSpace (s : List Char) : List Char := s.dropWhile isSpace

/-- Four hexadecimal digits. -/
def readUnit? : List Char → Option (Nat × List Char)
  | a :: b :: c :: d :: rest => do
    let high := (← hexValue? a) * 16 + (← hexValue? b)
    let n := (high * 16 + (← hexValue? c)) * 16 + (← hexValue? d)
    some (n, rest)
  | _ => none

/-- The character of a one-letter escape. -/
def simpleEscape? : Char → Option Char
  | '"' => some '"'
  | '\\' => some '\\'
  | '/' => some '/'
  | 'b' => some '\x08'
  | 'f' => some '\x0c'
  | 'n' => some '\n'
  | 'r' => some '\r'
  | 't' => some '\t'
  | _ => none

/-- What follows a backslash and `u`: a unit, or two that form a surrogate pair. -/
def readEscapedUnits? (s : List Char) : Option (Char × List Char) := do
  let (high, rest) ← readUnit? s
  if 0xD800 ≤ high ∧ high < 0xDC00 then
    match rest with
    | '\\' :: 'u' :: rest =>
      let (low, rest) ← readUnit? rest
      if 0xDC00 ≤ low ∧ low < 0xE000 then
        some (Char.ofNat (0x10000 + (high - 0xD800) * 0x400 + (low - 0xDC00)), rest)
      else none
    | _ => none
  else if 0xDC00 ≤ high ∧ high < 0xE000 then none
  else some (Char.ofNat high, rest)

/--
The rest of a string after its opening quotation mark; `done` holds the
characters read so far, the last one first.
-/
def readString? (done : List Char) (s : List Char) : Option (String × List Char) :=
  match s with
  | [] => none
  | '"' :: rest => some (String.ofList done.reverse, rest)
  | '\\' :: 'u' :: rest =>
    match readEscapedUnits? rest with
    | some (c, rest') =>
      if rest'.length ≤ rest.length then readString? (c :: done) rest' else none
    | none => none
  | '\\' :: e :: rest => (simpleEscape? e).bind fun c => readString? (c :: done) rest
  | c :: rest => if c.toNat < 0x20 then none else readString? (c :: done) rest
termination_by s.length

/-- The digits added to a significand as long as it stays below 2^64, and those left over. -/
def accumulate (n : Nat) : List Char → Nat × List Char
  | [] => (n, [])
  | d :: rest =>
    let next := n * 10 + digitValue d
    if next < wordSize then accumulate next rest else (n, d :: rest)

/-- An exponent after its letter, with an optional sign. -/
def readExponent? (s : List Char) : Option (Int × List Char) :=
  let (negative, s) := match s with
    | '+' :: rest => (false, rest)
    | '-' :: rest => (true, rest)
    | _ => (false, s)
  let ds := s.takeWhile Char.isDigit
  let e : Int := ofDigits ds
  if ds.isEmpty then none else some (if negative then -e else e, s.dropWhile Char.isDigit)

/-- The digits of a fraction, if a point follows. -/
def readFraction? : List Char → Option (Option (List Char) × List Char)
  | '.' :: rest =>
    let ds := rest.takeWhile Char.isDigit
    if ds.isEmpty then none else some (some ds, rest.dropWhile Char.isDigit)
  | rest => some (none, rest)

/-- Whether a run of digits may start a number: a leading zero stands alone. -/
def isWholePart : List Char → Bool
  | [] => false
  | '0' :: _ :: _ => false
  | _ => true

/-- A whole number, when its digits fit 64 bits; minus zero and greater numbers are doubles. -/
def wholeNumber? (negative : Bool) (significand : Nat) : Option Json.Number :=
  if negative then
    if significand = 0 ∨ 9223372036854775808 < significand then
      (Double.ofDecimal? true significand 0).map .float
    else some (.int (-(significand : Int)))
  else some (.int significand)

/-- A number after its sign. -/
def readMagnitude? (negative : Bool) (s : List Char) : Option (Json.Number × List Char) := do
  let ds := s.takeWhile Char.isDigit
  if !isWholePart ds then none
  let (fraction, rest) ← readFraction? (s.dropWhile Char.isDigit)
  let (exponent, rest) ← match rest with
    | 'e' :: r | 'E' :: r => (readExponent? r).map fun (e, r) => (some e, r)
    | r => some (none, r)
  let (whole, left) := accumulate 0 ds
  match fraction, exponent, left with
  | none, none, [] => (wholeNumber? negative whole).map (·, rest)
  | _, _, _ =>
    let fs := fraction.getD []
    let (significand, unread) := accumulate whole fs
    let places : Int := left.length - (fs.length - unread.length : Nat)
    (Double.ofDecimal? negative significand (places + exponent.getD 0)).map (.float ·, rest)

def readNumber? : List Char → Option (Json.Number × List Char)
  | '-' :: rest => readMagnitude? true rest
  | s => readMagnitude? false s

/-- The key of a field and the colon after it, up to the first character of the value. -/
def readKey? : List Char → Option (String × List Char)
  | '"' :: rest => do
    let (key, rest) ← readString? [] rest
    match skipSpace rest with
    | ':' :: rest => some (key, skipSpace rest)
    | _ => none
  | _ => none

mutual

/-- A value, from its first character on, of at most `depth` levels. -/
def readValue? (depth : Nat) (s : List Char) : Option (Json × List Char) :=
  match s with
  | 'n' :: 'u' :: 'l' :: 'l' :: rest => some (.null, rest)
  | 't' :: 'r' :: 'u' :: 'e' :: rest => some (.bool true, rest)
  | 'f' :: 'a' :: 'l' :: 's' :: 'e' :: rest => some (.bool false, rest)
  | '"' :: rest => (readString? [] rest).map fun (t, rest) => (.string t, rest)
  | '[' :: rest =>
    match depth with
    | 0 => none
    | depth + 1 =>
      match skipSpace rest with
      | ']' :: rest => some (.array [], rest)
      | start => (readItems? depth start).map fun (vs, rest) => (.array vs, rest)
  | '{' :: rest =>
    match depth with
    | 0 => none
    | depth + 1 =>
      match skipSpace rest with
      | '}' :: rest => some (.object [], rest)
      | start => (readFields? depth start).map fun (fs, rest) => (.object fs, rest)
  | s => (readNumber? s).map fun (n, rest) => (.number n, rest)
termination_by (depth, s.length, 0)

/-- The items of an array, from the first one on. -/
def readItems? (depth : Nat) (s : List Char) : Option (List Json × List Char) :=
  match readValue? depth s with
  | none => none
  | some (v, rest) =>
    match skipSpace rest with
    | ']' :: rest => some ([v], rest)
    | ',' :: more =>
      let next := skipSpace more
      if next.length < s.length then
        (readItems? depth next).map fun (vs, rest) => (v :: vs, rest)
      else none
    | _ => none
termination_by (depth, s.length, 1)

/-- The fields of an object, from the first key on. -/
def readFields? (depth : Nat) (s : List Char) : Option (List (String × Json) × List Char) :=
  match readKey? s with
  | none => none
  | some (key, start) =>
    if _ : start.length < s.length then
      match readValue? depth start with
      | none => none
      | some (v, rest) =>
        match skipSpace rest with
        | '}' :: rest => some ([(key, v)], rest)
        | ',' :: more =>
          let next := skipSpace more
          if _ : next.length < s.length then
            (readFields? depth next).map fun (fs, rest) => ((key, v) :: fs, rest)
          else none
        | _ => none
    else none
termination_by (depth, s.length, 1)

end

/-- How deep the values of a card file may nest. -/
def maxDepth : Nat := 127

/-- The one value that a text holds, blanks around it aside. -/
def readWithin? (depth : Nat) (s : List Char) : Option Json :=
  match readValue? depth (skipSpace s) with
  | some (v, rest) => if (skipSpace rest).isEmpty then some v else none
  | none => none

/-- The one value that a text holds. -/
def read? (s : String) : Option Json := readWithin? maxDepth s.toList

end CardSearch.Json
