import CardSearch.Number.Integer

/-!
# Spans of time in queries

A span such as `3d`, `-2h` or `+1mo` is a signed whole number with a unit behind
it and nothing around it. Its value is a number of seconds; months and years have
the fixed lengths of 30 and 365 days. A number of more than 64 bits, or a span of
2^63 milliseconds and more, is no span.
-/

namespace CardSearch.Time

open Number

inductive SpanUnit where
  | minute | hour | day | week | month | year
deriving DecidableEq, Repr

namespace SpanUnit

def seconds : SpanUnit → Int
  | minute => 60
  | hour => 3600
  | day => 86400
  | week => 604800
  | month => 30 * 86400
  | year => 365 * 86400

/-- Units have a short and a long name; only the month's short name is in upper case. -/
def ofName? : List Char → Option SpanUnit
  | ['m'] | ['m', 'i', 'n'] => some minute
  | ['h'] | ['h', 'r'] => some hour
  | ['d'] => some day
  | ['w'] | ['w', 'k'] => some week
  | ['M'] | ['m', 'o'] => some month
  | ['y'] | ['y', 'r'] => some year
  | _ => none

end SpanUnit

/-- The longest span, in seconds. -/
def maxSpan : Int := 9223372036854775

/-- Whether a number of seconds is a span. -/
def isSpan (seconds : Int) : Bool := -maxSpan ≤ seconds && seconds ≤ maxSpan

/-- The text that stands for no span at all. -/
def nowName : List Char := ['N', 'O', 'W']

/-- An optional sign split off, with whether it is a minus. -/
def splitSign : List Char → Bool × List Char
  | '-' :: rest => (true, rest)
  | '+' :: rest => (false, rest)
  | rest => (false, rest)

/-- The span in seconds. -/
def readSpan? (s : List Char) : Option Int :=
  if s = nowName then some 0
  else
    let (negative, body) := splitSign s
    do
      let n ← readNat? (body.takeWhile Char.isDigit)
      let unit ← SpanUnit.ofName? (body.dropWhile Char.isDigit)
      let amount : Int := if negative then -n else n
      let seconds := amount * unit.seconds
      if isInt64 amount && isSpan seconds then some seconds else none

/-- The refusal of a text that is no span. -/
structure NotASpan where
  text : String
deriving DecidableEq, Repr

/-- The wording of the refusal. -/
def NotASpan.message (e : NotASpan) : String := "invalid timedelta: " ++ e.text

/-- The span in seconds that a string stands for. -/
def readSpan (s : String) : Except NotASpan Int :=
  match readSpan? s.toList with
  | some n => .ok n
  | none => .error ⟨s⟩

end CardSearch.Time
