import CardSearch.Pattern.Reader
import CardSearch.Query.Reading
import CardSearch.Query.Split
import CardSearch.Time.Span
import CardSearch.Time.Timestamp

/-!
# Terms

A term is a word, which is looked for in the usual text fields, or a field, an
operator and a value. Some terms say how to sort or which cards to select and
ask nothing of single cards. A minus before a term negates it, or turns its
order around.
-/

namespace CardSearch.Query

open Time (Instant)

/-- The operators between a field and a value. -/
inductive TermOp where
  | colon
  | atLeast
  | above
  | atMost
  | below
  | equal
  | tilde
deriving DecidableEq, Repr

namespace TermOp

def sign : TermOp → List Char
  | colon => [':']
  | atLeast => ['>', '=']
  | above => ['>']
  | atMost => ['<', '=']
  | below => ['<']
  | equal => ['=']
  | tilde => ['~']

def all : List TermOp := [colon, atLeast, above, atMost, below, equal, tilde]

/-- The operator that is written so. -/
def ofSign? (s : List Char) : Option TermOp := all.find? (·.sign == s)

/-- What separates the parts of a term. -/
def signs : List (List Char) := all.map sign

@[simp] theorem ofSign?_sign (op : TermOp) : ofSign? op.sign = some op := by cases op <;> decide

end TermOp

/-- What a term asks for. -/
inductive Term where
  | filter (c : Condition)
  | sort (field : String)
  | select (s : Selection)
deriving Repr

/-- The fields in which a word is looked for. -/
def wordFields : List String := ["template", "front", "mnemonic", "key", "deck", "tag"]

/-- The field that stands for all custom values. -/
def anyCustomField : String := "@*"

/-- The fields that hold an instant. -/
def instantFields : List String := ["created", "modified", "nextReview"]

/-- The text that stands for a missing value. -/
def nullName : String := "NULL"

/-- The text as a pattern that finds it. -/
def literalPattern (s : List Char) : Operand := .text (String.ofList (Pattern.escape s))

/-- The condition that a word is found in one of the usual fields. -/
def anyOf (word : List Char) : Condition :=
  .any ((wordFields ++ [anyCustomField]).map fun f => .field f .pattern (literalPattern word))

/-- The instant that a span leads to from now on, as text. -/
def relativeInstant? (now : Instant) (value : String) : Option String :=
  (Time.readSpan? value.toList).bind fun seconds =>
    (now.add? seconds).map fun t => String.ofList t.text

/--
The condition that compares a field with a text. A span in a field that holds an
instant stands for the instant it leads to; a colon then asks for anything up to
it, or from it on for fields that lie in the past.
-/
def compareText (now : Instant) (field : String) (op : TermOp) (value : String) :
    Reading Condition :=
  let instant := if instantFields.contains field then relativeInstant? now value else none
  let op := if instant.isSome ∧ op = .colon then
      (if field = "nextReview" then .atMost else .atLeast)
    else op
  let operand := instant.getD value
  match op with
  | .colon => .pure (.field field .pattern (literalPattern operand.toList))
  | .tilde =>
    if (Pattern.ofString? operand).isSome then .pure (.field field .pattern (.text operand))
    else .fail (.invalidPattern operand)
  | .atLeast => .pure (.field field .atLeast (.text operand))
  | .above => .pure (.field field .above (.text operand))
  | .atMost => .pure (.field field .atMost (.text operand))
  | .below => .pure (.field field .below (.text operand))
  | .equal => .pure (.field field .equals (.text operand))

/-- The same, where the text may stand for a missing value. -/
def compareValue (now : Instant) (field : String) (op : TermOp) (value : String) :
    Reading Condition :=
  if value = nullName then .pure (.isNull field) else compareText now field op value

/-- What a shortcut stands for. -/
def Shortcut.term (now : Instant) : Shortcut → Reading Term
  | due => (compareValue now "nextReview" .atMost (String.ofList now.text)).map .filter
  | leech => .pure (.filter (.field "srsLevel" .equals (.number 0)))
  | new => .pure (.filter (.isNull "nextReview"))
  | marked => (compareValue now "tag" .equal "marked").map .filter
  | duplicate => .pure (.select .duplicate)
  | distinct => .pure (.select .distinct)

/-- What a field, an operator and a value ask for. -/
def fieldTerm (now : Instant) (field : String) (op : TermOp) (value : String) : Reading Term :=
  if field = "sortBy" then .pure (.sort value)
  else if field = "is" then
    match Shortcut.ofName? value with
    | some s => s.term now
    | none =>
      (Reading.warn (.unknownShortcut value (Shortcut.suggestion? value)) ()).bind fun _ =>
        (compareValue now "is" op value).map .filter
  else if field = "due" then (compareValue now "nextReview" .atMost value).map .filter
  else (compareValue now field op value).map .filter

/-- What the body of a term asks for; `term` is the whole term, for error messages. -/
def bodyTerm (now : Instant) (term body : List Char) : Reading Term :=
  match split TermOp.signs true body with
  | [word] => .pure (.filter (anyOf word))
  | [field, op, value] =>
    match TermOp.ofSign? op with
    | some op => fieldTerm now (String.ofList field) op (String.ofList value)
    | none => .fail (.invalidOperator (String.ofList term) (String.ofList op))
  | _ => .fail (.invalidTerm (String.ofList term))

/-- A term, with whether a minus stands before it. -/
structure SignedTerm where
  negated : Bool
  term : Term
deriving Repr

/-- A minus taken off a term. -/
def splitMinus : List Char → Bool × List Char
  | '-' :: rest => (true, rest)
  | s => (false, s)

/-- What a term with or without a minus asks for. -/
def readTerm (now : Instant) (term : List Char) : Reading SignedTerm :=
  let (negated, body) := splitMinus term
  (bodyTerm now term body).map (⟨negated, ·⟩)

end CardSearch.Query
