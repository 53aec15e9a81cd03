import CardSearch.Number.Double
import CardSearch.Text.Parts
import CardSearch.Time.Calendar
import CardSearch.Toml.Basic

/-!
# TOML numbers, times and truth values

All values but strings, arrays and records are told by a token without blanks,
save that a date and a clock time may have a space between them. Underscores may
stand between digits. An integer has to fit 64 bits, and a fraction must not lie
beyond the greatest double.
-/

namespace CardSearch.Toml

open Number (Double isInt64 ofDigits)
open Text (parts cutAtFirst?)

/-- The digits of a run in which single underscores may stand between digits. -/
def readDigits? (isDigit : Char → Bool) (s : List Char) : Option (List Char) :=
  let groups := parts '_' s
  if groups.all fun g => !g.isEmpty && g.all isDigit then some groups.flatten else none

/-- The digits of a whole number, which does not begin with a zero unless it is zero. -/
def readWhole? (s : List Char) : Option (List Char) :=
  match s with
  | '0' :: _ :: _ => none
  | _ => readDigits? Char.isDigit s

/-- A text without its sign, and whether the sign is a minus. -/
def splitSign : List Char → Bool × List Char
  | '-' :: rest => (true, rest)
  | '+' :: rest => (false, rest)
  | s => (false, s)

/-- A number in a base of 2, 8 or 16. -/
def readBased? (base : Nat) (s : List Char) : Option Int :=
  let value? (c : Char) := (Number.hexValue? c).filter (· < base)
  (readDigits? (fun c => (value? c).isSome) s).map fun ds =>
    ((ds.filterMap value?).foldl (fun n d => base * n + d) 0 : Nat)

/-- An integer of 64 bits. -/
def readInteger? (s : List Char) : Option Int :=
  let n? := match s with
    | '0' :: 'x' :: ds => readBased? 16 ds
    | '0' :: 'o' :: ds => readBased? 8 ds
    | '0' :: 'b' :: ds => readBased? 2 ds
    | s =>
      let (negative, ds) := splitSign s
      (readWhole? ds).map fun ds => if negative then -(ofDigits ds : Int) else ofDigits ds
  n?.filter isInt64

/-- The number of digits before the point of the greatest double. -/
def greatestSize : Int := 309

/-- Whether the number, given by digits and a power of ten, is not beyond the greatest double. -/
def isWithinDouble (ds : List Char) (exponent : Int) : Bool :=
  let ds := ds.dropWhile (· = '0')
  let size := ds.length + exponent
  if ds.isEmpty ∨ size < greatestSize then true
  else if greatestSize < size then false
  else (Double.ofRatio? false (ofDigits ds * Nat.pow 10 exponent.toNat)
    (Nat.pow 10 (-exponent).toNat)).isSome

/-- Whether the text is a number with a fraction, an exponent or both, or infinite, or no number. -/
def isFraction (s : List Char) : Bool :=
  let (negative, s) := splitSign s
  if s = ['i', 'n', 'f'] ∨ s = ['n', 'a', 'n'] then true
  else
    let mantissa := s.takeWhile fun c => c ≠ 'e' && c ≠ 'E'
    let exponent? : Option Int := match s.drop mantissa.length with
      | [] => some 0
      | _ :: e =>
        let (below, ds) := splitSign e
        (readDigits? Char.isDigit ds).map fun ds =>
          if below then -(ofDigits ds : Int) else ofDigits ds
    let digits? := match cutAtFirst? '.' mantissa with
      | none => if mantissa.length < s.length then (readWhole? mantissa).map (·, []) else none
      | some (whole, places) =>
        (readWhole? whole).bind fun ds => (readDigits? Char.isDigit places).map (ds, ·)
    match digits?, exponent? with
    | some (ds, places), some e => negative || isWithinDouble (ds ++ places) (e - places.length)
    | _, _ => false

/-- The number that a fixed count of digits tells, up to a greatest value. -/
def readField? (count most : Nat) (s : List Char) : Option Nat :=
  if s.length = count ∧ s.all Char.isDigit ∧ ofDigits s ≤ most then some (ofDigits s) else none

/-- Whether the text is a date. -/
def isDate (s : List Char) : Bool :=
  match parts '-' s with
  | [y, m, d] =>
    match readField? 4 9999 y, readField? 2 12 m, readField? 2 31 d with
    | some y, some m, some d => Time.Date.isValid ⟨y, m, d⟩
    | _, _, _ => false
  | _ => false

/-- Whether the text is a time of day to the minute. -/
def isHourMinute (s : List Char) : Bool :=
  match parts ':' s with
  | [h, m] => (readField? 2 23 h).isSome && (readField? 2 59 m).isSome
  | _ => false

/-- Whether the text is a time of day to the second or a part of it. -/
def isClock (s : List Char) : Bool :=
  let (whole, places) := (cutAtFirst? '.' s).getD (s, ['0'])
  !places.isEmpty && places.all Char.isDigit && isHourMinute (whole.take 5) &&
    match whole.drop 5 with
    | ':' :: second => (readField? 2 60 second).isSome
    | _ => false

/-- Whether the text is a time of day with or without an offset. -/
def isZonedClock (s : List Char) : Bool :=
  let clock := s.takeWhile fun c => c.isDigit || c = ':' || c = '.'
  isClock clock &&
    match s.drop clock.length with
    | [] | ['Z'] | ['z'] => true
    | c :: offset => (c = '+' || c = '-') && isHourMinute offset

/-- Whether the text is a date, a time of day, or both. -/
def isMoment (s : List Char) : Bool :=
  isClock s || isDate s ||
    isDate (s.take 10) &&
      match s.drop 10 with
      | c :: clock => (c = 'T' || c = 't' || c = ' ') && isZonedClock clock
      | [] => false

/-- The value of a token. -/
def readToken? (s : List Char) : Option Toml :=
  if s = ['t', 'r', 'u', 'e'] then some (boolean true)
  else if s = ['f', 'a', 'l', 's', 'e'] then some (boolean false)
  else if isMoment s then some moment
  else if isFraction s then some fraction
  else (readInteger? s).map integer

/-- The characters of a token. -/
def isTokenChar (c : Char) : Bool := c.isAlphanum || ['+', '-', '_', '.', ':'].contains c

/-- A token and the rest; after a date, a space and a clock time belong to it. -/
def takeToken (s : List Char) : List Char × List Char :=
  let word := s.takeWhile isTokenChar
  match s.drop word.length with
  | ' ' :: rest =>
    let clock := rest.takeWhile isTokenChar
    if isDate word && (clock.head?.any Char.isDigit) then
      (word ++ ' ' :: clock, rest.drop clock.length)
    else (word, ' ' :: rest)
  | rest => (word, rest)

end CardSearch.Toml
