import CardSearch.Card.Basic
import CardSearch.Json.Reader
import CardSearch.Store.File
import CardSearch.Text.Blank

/-!
# Card files

The cards of a store are kept in a JSON file: a list of objects, or an object
with such a list under the key `cards`, which stands there once; its other keys
do not matter. A file that is not there or holds nothing but blanks is a store
without cards.
-/

namespace CardSearch.Store

/-- Why the cards of a file cannot be had. -/
inductive LoadError where
  /-- The file cannot be read, or is not UTF-8. -/
  | unreadable
  /-- The file is not JSON, or is not a list of cards. -/
  | notCards
deriving DecidableEq, Repr

/-- The list of cards that a JSON value wraps, or is. -/
def cardList? : Json → Option (List Json)
  | .array items => some items
  | .object fields =>
    match fields.filter (·.1 = "cards") with
    | [(_, .array items)] => some items
    | _ => none
  | _ => none

/-- The cards of a JSON value. -/
def cardsOf? (v : Json) : Option (List Card) := (cardList? v).bind (·.mapM Card.ofJson?)

/-- The cards of a text. -/
def readCards? (text : String) : Option (List Card) :=
  if Text.trim text.toList = [] then some [] else (Json.read? text).bind cardsOf?

/-- The cards of a file. -/
def load : File → Except LoadError (List Card)
  | .missing => .ok []
  | .unreadable => .error .unreadable
  | .text content =>
    match readCards? content with
    | none => .error .notCards
    | some cards => .ok cards

end CardSearch.Store
