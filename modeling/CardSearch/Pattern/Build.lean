import CardSearch.Pattern.Basic

/-!
# Building patterns

The constructors of a pattern keep every part that they are given. The functions
of this module put parts together without what makes no difference to a match:
sequences have no empty part, characters to choose from become one class, what
all alternatives begin with is written once, and a part that takes no character
is not repeated. Patterns are read with them, so that the room that a pattern
takes is that of its plainest form.
-/

namespace CardSearch.Pattern

/-! ## Sequences -/

/-- The parts of a sequence. -/
def parts : Pattern → List Pattern
  | empty => []
  | seq p q => parts p ++ parts q
  | p => [p]

/-- Parts as a sequence. -/
def ofParts : List Pattern → Pattern
  | [] => empty
  | [p] => p
  | p :: q :: rest => seq p (ofParts (q :: rest))

/-- Patterns one after the other. -/
def sequence (ps : List Pattern) : Pattern := ofParts (ps.flatMap parts)

/-! ## Single characters -/

/-- The class of a pattern that is one. -/
def class? : Pattern → Option CharClass
  | one cls => some cls
  | _ => none

/-- The character of a pattern that is one. -/
def single? (p : Pattern) : Option Char := p.class?.bind (·.single?)

/-- The parts of a sequence, with a text as a single one. -/
def runs (p : Pattern) : List (List Pattern) :=
  p.parts.splitBy fun p q => p.single?.isSome && q.single?.isSome

/-! ## Alternatives -/

/-- The patterns to choose from. -/
def alternatives : Pattern → List Pattern
  | alt p q => alternatives p ++ alternatives q
  | p => [p]

/-- Alternatives as a choice. -/
def ofAlternatives : List Pattern → Pattern
  | [] => empty
  | [p] => p
  | p :: q :: rest => alt p (ofAlternatives (q :: rest))

/-- The class of patterns that are all single characters, or all larger classes. -/
def classOf? (ps : List Pattern) : Option CharClass :=
  let singles := ps.countP (·.single?.isSome)
  if singles = 0 ∨ singles = ps.length then (ps.mapM class?).map .unions else none

/-- A choice in which single characters make one class. -/
def merged (ps : List Pattern) : Pattern :=
  let all := ps.flatMap alternatives
  match classOf? all with
  | some cls => one cls
  | none => ofAlternatives all

/-- What two lists begin with. -/
def commonStart {α : Type} [DecidableEq α] : List α → List α → List α
  | a :: as, b :: bs => if a = b then a :: commonStart as bs else []
  | _, _ => []

/-- What all sequences begin with, if none of them is a single run. -/
def sharedRuns : List (List (List Pattern)) → List (List Pattern)
  | [] => []
  | first :: rest =>
    if (first :: rest).all (2 ≤ ·.length) then rest.foldl commonStart first else []

/-- Patterns to choose from. -/
def choice (ps : List Pattern) : Pattern :=
  match ps.flatMap alternatives with
  | [p] => p
  | all =>
    let all := all.map runs
    let shared := (sharedRuns all).length
    let start := (all.headD []).take shared
    if shared = 0 then merged ps
    else sequence (start.flatten ++ [merged (all.map fun rs => sequence (rs.drop shared).flatten)])

/-! ## Repetition -/

/-- Whether the pattern takes no character. -/
def isWidthless : Pattern → Bool
  | empty | assertion _ => true
  | one _ => false
  | seq p q | alt p q => p.isWidthless && q.isWidthless
  | times p _ most => p.isWidthless || most == some 0
  | group p => p.isWidthless

/-- A pattern at least and at most so many times, or without an upper limit. -/
def repeated (p : Pattern) (least : Nat) (most : Option Nat) : Pattern :=
  let (least, most) :=
    if p.isWidthless then (min least 1, some (min (most.getD 1) 1)) else (least, most)
  if most = some 0 then empty
  else if least = 1 ∧ most = some 1 then p
  else times p least most

end CardSearch.Pattern
