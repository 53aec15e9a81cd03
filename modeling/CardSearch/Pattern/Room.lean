import CardSearch.Pattern.Build

/-!
# The room of a pattern

To be searched for, a pattern is laid out as an automaton on bytes, once for
texts read forwards and once for texts read backwards. Repetitions are written
out, so a short pattern may ask for an automaton of any size; one that would
take more than ten mebibytes is refused. This module counts the bytes.

A state takes 32 bytes. A state that tells several ranges of bytes apart takes 8
more for each, and one that leaves several ways open 4 more for each way.
Forwards, the states of a class are shared by all characters that end alike;
backwards, by those that begin alike.
-/

namespace CardSearch

open Text

/-- The bytes of the two automata. -/
structure Room where
  forward : Nat
  backward : Nat
deriving DecidableEq, Repr

namespace Room

def both (n : Nat) : Room := ⟨n, n⟩

instance : Add Room := ⟨fun a b => ⟨a.forward + b.forward, a.backward + b.backward⟩⟩

/-- The same a number of times. -/
def copies (n : Nat) (r : Room) : Room := ⟨n * r.forward, n * r.backward⟩

/-! ## Classes -/

/-- What may follow the ranges of bytes that sequences begin with. -/
def followers (node : List (List ByteRange)) : List (List (List ByteRange)) :=
  (node.splitBy fun s t => s.head? == t.head?).map (·.map List.tail)

/-- What may follow each start of the sequences, down to a depth; nothing follows a whole one. -/
def nodes : Nat → List (List ByteRange) → List (List (List ByteRange))
  | 0, _ => []
  | depth + 1, node => node :: ((followers node).filter (· != [[]])).flatMap (nodes depth)

/-- Starts that may go on alike share a state. -/
def forwardClass (seqs : List (List ByteRange)) : Nat :=
  (nodes 4 seqs).eraseDups.foldl (fun room node => room + 32 + 8 * (followers node).length) 32

/-- The ranges of each sequence that are not the start of the one before. -/
def freshRanges : List ByteRange → List (List ByteRange) → Nat
  | _, [] => 0
  | before, s :: rest => s.length - (Pattern.commonStart before s).length + freshRanges s rest

/-- Sequences that begin alike share the states of what they have in common. -/
def backwardClass (seqs : List (List ByteRange)) : Nat :=
  64 + 4 * seqs.length + 32 * freshRanges [] seqs

/-- The room of a class, by its sequences of ranges of bytes. -/
def ofSequences (seqs : List (List ByteRange)) : Room :=
  if seqs.length = 1 ∧ seqs.flatten.all (fun r => r.1 == r.2) then both (32 * seqs.flatten.length)
  else if seqs.all (·.length == 1) then both (64 + 8 * seqs.length)
  else ⟨forwardClass seqs, backwardClass seqs⟩

/-! ## Texts to choose from -/

/-- The states of texts that are told apart byte by byte, each at most so long. -/
def textTree : Nat → List (List UInt8) → Nat
  | 0, _ => 0
  | length + 1, texts =>
    let longer := texts.filter (· ≠ [])
    let firsts := (longer.filterMap List.head?).eraseDups
    let bytes := if firsts.length = 1 then 32 else 32 + 8 * firsts.length
    let ways := if longer.length < texts.length then 2 else 1
    if firsts.isEmpty then 0
    else
      firsts.foldl
        (fun room b => room + textTree length ((longer.filter (·.head? == some b)).map List.tail))
        (bytes + 32 + 4 * ways)

/-- The room of texts to choose from. -/
def ofTexts (texts : List (List UInt8)) : Room :=
  let longest := (texts.map List.length).foldl max 0
  ⟨32 + textTree (longest + 1) texts, 32 + textTree (longest + 1) (texts.map List.reverse)⟩

end Room

namespace Pattern

/-- Whether every match of the pattern takes a character. -/
def isAdvancing : Pattern → Bool
  | empty | assertion _ => false
  | one _ => true
  | seq p q => p.isAdvancing || q.isAdvancing
  | alt p q => p.isAdvancing && q.isAdvancing
  | times p least _ => least != 0 && p.isAdvancing
  | group p => p.isAdvancing

/-- What is known of a pattern when its room is counted. -/
structure Measure where
  /-- The room of all alternatives. -/
  sides : Room
  /-- How many alternatives there are. -/
  ways : Nat := 1
  /-- The alternatives, if they are all texts. -/
  texts : Option (List (List UInt8)) := none

/-- The room of the choice between the alternatives. -/
def Measure.room (m : Measure) : Room :=
  if m.ways = 1 then m.sides
  else
    match m.texts with
    | some texts => .ofTexts texts
    | none => m.sides + .both (64 + 4 * m.ways)

/-- The text that two texts make, one after the other. -/
def Measure.joinedTexts (a b : Measure) : Option (List (List UInt8)) :=
  match a.texts, b.texts with
  | some [s], some [t] => some [s ++ t]
  | _, _ => none

/-- The room of a repetition, by the room of what is repeated. -/
def repeatedRoom (advancing : Bool) (r : Room) : Nat → Option Nat → Room
  | 0, none => r + .both (if advancing then 40 else 112)
  | 0, some 1 => r + .both 72
  | least, none => r.copies least + .both 40
  | least, some most =>
    r.copies least + (r + .both 40).copies (most - least) +
      .both ((if least = 0 then 32 else 0) + if least < most then 32 else 0)

/-- What a pattern needs. -/
def measure : Pattern → Measure
  | empty | assertion _ => ⟨.both 32, 1, none⟩
  | one cls =>
    ⟨.ofSequences cls.byteSequences, 1, cls.single?.map fun c => [String.utf8EncodeChar c]⟩
  | seq p q =>
    let a := p.measure
    let b := q.measure
    ⟨a.room + b.room, 1, a.joinedTexts b⟩
  | alt p q =>
    let a := p.measure
    let b := q.measure
    ⟨a.sides + b.sides, a.ways + b.ways, a.texts.bind fun ss => b.texts.map (ss ++ ·)⟩
  | times p least most => ⟨repeatedRoom p.isAdvancing p.measure.room least most, 1, none⟩
  | group p => ⟨p.measure.room + ⟨64, 0⟩, 1, none⟩

/-- The room of a pattern. -/
def room (p : Pattern) : Room := p.measure.room

/-- The most that an automaton may take. -/
def maxRoom : Nat := 10485760

/-- Whether both automata fit, with the states to begin anywhere, to end, and to mark the match. -/
def fits (p : Pattern) : Bool :=
  let r := p.room
  r.forward + 208 ≤ maxRoom && r.backward + 144 ≤ maxRoom

end Pattern

end CardSearch
