import CardSearch.Pattern.CharClass
import CardSearch.Text.Property

/-!
# Patterns

A pattern is a regular expression without look-around and without references
back. Whether it matches asks only for the existence of a match, so repetition
is neither greedy nor lazy and a group matches what it holds.

A text is matched by sets of places. Each pattern sends the places at which it
may begin to those at which it may end, and a pattern matches when this set is
not empty for all places of the text. A set of places is an ascending list, so
it has at most one more member than the text has characters.
-/

namespace CardSearch

open Text

/-- What is asked at the edge of a word. -/
inductive WordEdge where
  | boundary
  | inside
  | start
  | stop
  | halfStart
  | halfStop
deriving DecidableEq, Repr

/-- What is asked of a place in the text. -/
inductive Assertion where
  | textStart
  | textEnd
  /-- A place next to a line feed; with `crlf` a carriage return ends lines too. -/
  | lineStart (crlf : Bool)
  | lineEnd (crlf : Bool)
  | word (unicode : Bool) (edge : WordEdge)
deriving DecidableEq, Repr

/-- The letters, digits and underscore of ASCII. -/
def isAsciiWord (c : Char) : Bool := c.isAlphanum || c == '_'

namespace WordEdge

/-- Whether the edge is there, with or without a word before and after the place. -/
def holds : WordEdge → Bool → Bool → Bool
  | boundary, before, after => before != after
  | inside, before, after => before == after
  | start, before, after => !before && after
  | stop, before, after => before && !after
  | halfStart, before, _ => !before
  | halfStop, _, after => !after

end WordEdge

namespace Assertion

/-- Whether the assertion holds between two neighbouring characters. -/
def holdsBetween (a : Assertion) (before after : Option Char) : Bool :=
  match a with
  | textStart => before.isNone
  | textEnd => after.isNone
  | lineStart false => before.all (· == '\n')
  | lineStart true => before.all fun c => c == '\n' || c == '\r' && after != some '\n'
  | lineEnd false => after.all (· == '\n')
  | lineEnd true => after.all fun c => c == '\r' || c == '\n' && before != some '\r'
  | word unicode edge =>
    let isWordChar := if unicode then isWord else isAsciiWord
    edge.holds (before.any isWordChar) (after.any isWordChar)

/-- Whether the assertion holds at a place of a text. -/
def holdsAt (a : Assertion) (text : Array Char) (i : Nat) : Bool :=
  a.holdsBetween (if i = 0 then none else text[i - 1]?) text[i]?

end Assertion

inductive Pattern where
  | empty
  | one (cls : CharClass)
  | assertion (a : Assertion)
  | seq (p q : Pattern)
  | alt (p q : Pattern)
  /-- At least and at most so many times, or without an upper limit. -/
  | times (p : Pattern) (least : Nat) (most : Option Nat)
  /-- A part in round brackets, which marks where it matches. -/
  | group (p : Pattern)
deriving DecidableEq, Repr

/-- The union of two ascending lists of places. -/
def mergePlaces : List Nat → List Nat → List Nat
  | [], js => js
  | is, [] => is
  | i :: is, j :: js =>
    if i < j then i :: mergePlaces is (j :: js)
    else if j < i then j :: mergePlaces (i :: is) js
    else i :: mergePlaces is js
termination_by is js => is.length + js.length

/-- The places of the first ascending list that are not in the second. -/
def removePlaces : List Nat → List Nat → List Nat
  | [], _ => []
  | is, [] => is
  | i :: is, j :: js =>
    if i < j then i :: removePlaces is (j :: js)
    else if j < i then removePlaces (i :: is) js
    else removePlaces is js
termination_by is js => is.length + js.length

/-- A step taken a number of times; from no place it leads nowhere. -/
def stepTimes (step : List Nat → List Nat) : Nat → List Nat → List Nat
  | 0, is => is
  | n + 1, is => if is.isEmpty then [] else stepTimes step n (step is)

/-- The places reached by at most so many steps; each step sets out from the places just reached. -/
def stepUpTo (step : List Nat → List Nat) : Nat → List Nat → List Nat → List Nat
  | 0, reached, _ => reached
  | n + 1, reached, latest =>
    let fresh := removePlaces (step latest) reached
    if fresh.isEmpty then reached else stepUpTo step n (mergePlaces reached fresh) fresh

namespace Pattern

/-- The places one character further, where a character of the class stands in between. -/
def advance (text : Array Char) (cls : CharClass) (is : List Nat) : List Nat :=
  is.filterMap fun i => if text[i]?.any cls.contains then some (i + 1) else none

/-- The places at which the pattern may end when it begins at one of the given places. -/
def ends (text : Array Char) : Pattern → List Nat → List Nat
  | empty, is => is
  | one cls, is => advance text cls is
  | assertion a, is => is.filter (a.holdsAt text)
  | seq p q, is => ends text q (ends text p is)
  | alt p q, is => mergePlaces (ends text p is) (ends text q is)
  | times p least most, is =>
    let begun := stepTimes (ends text p) least is
    let further := match most with
      | some most => most - least
      | none => text.size + 1
    stepUpTo (ends text p) further begun begun
  | group p, is => ends text p is

/-- Whether the pattern matches somewhere in the text. -/
def isMatch (p : Pattern) (text : List Char) : Bool :=
  !(p.ends text.toArray (List.range (text.length + 1))).isEmpty

end Pattern

end CardSearch
