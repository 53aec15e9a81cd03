import CardSearch.Proofs.LiteralPatterns
import Mathlib

/-!
# There is room for literal text

A pattern is refused when its automata grow too large, and a text can be long
enough for that. What a character costs is bounded: few characters are alike but
for case, each has at most four bytes, and the states that tell so few sequences
of bytes apart can be counted. The rooms of the characters add up, so every text
up to a fixed length fits (`fits_literal`), and `isSome_ofString?_escape` says
what the parser relies on: the pattern made of such a text can be read.
-/

namespace CardSearch

open Text (orbit ByteRange charSequence)

/-! ## Characters alike -/

theorem Text.length_orbit_le (c : Char) : (orbit c).length ≤ 5 := by
  have hlarge : ∀ ns ∈ Text.largeOrbits, ns.length ≤ 4 := by decide
  unfold orbit
  dsimp only
  split
  · next ns hns =>
      have hlen := hlarge ns (List.mem_of_find?_eq_some hns)
      have hothers := List.length_filter_le (fun n => decide (n ≠ c.toNat)) ns
      rw [List.length_cons, List.length_map]
      omega
  · split
    · exact Nat.le_add_left 2 3
    · split
      · exact Nat.le_add_left 2 3
      · exact Nat.le_add_left 1 4

theorem Text.length_charSequence_le (c : Char) : (charSequence c).length ≤ 4 := by
  rw [charSequence, List.length_map, String.length_utf8EncodeChar]
  exact c.utf8Size_le_four

namespace Room

/-! ## Lists -/

theorem length_eraseDups_le {α : Type} [BEq α] (as : List α) :
    as.eraseDups.length ≤ as.length := by
  match as with
  | [] => exact Nat.le_refl 0
  | a :: rest =>
      have hlen := List.length_filter_le (fun b => !b == a) rest
      have ih := length_eraseDups_le (rest.filter fun b => !b == a)
      rw [List.eraseDups_cons, List.length_cons, List.length_cons]
      omega
termination_by as.length
decreasing_by rw [List.length_cons]; omega

theorem foldl_add_le {α : Type} {f : α → Nat} {k : Nat} {as : List α} (h : ∀ a ∈ as, f a ≤ k)
    (start : Nat) : as.foldl (fun n a => n + f a) start ≤ start + as.length * k := by
  induction as generalizing start with
  | nil => exact Nat.le_add_right start _
  | cons a as ih =>
      have ha := h a List.mem_cons_self
      have hrest := ih (fun b hb => h b (List.mem_cons_of_mem a hb)) (start + f a)
      rw [List.foldl_cons, List.length_cons, Nat.succ_mul]
      omega

theorem length_le_length_flatten {α : Type} {ls : List (List α)} (h : [] ∉ ls) :
    ls.length ≤ ls.flatten.length := by
  induction ls with
  | nil => exact Nat.le_refl 0
  | cons l ls ih =>
      rw [List.mem_cons, not_or] at h
      have hl := List.length_pos_iff.2 (Ne.symm h.1)
      have hls := ih h.2
      rw [List.length_cons, List.flatten_cons, List.length_append]
      omega

/-! ## States of a class -/

/-- How many sequences follow the different starts, together and by start. -/
theorem length_followers (node : List (List ByteRange)) :
    ((followers node).map List.length).sum = node.length ∧
      (followers node).length ≤ node.length := by
  have hflat := List.flatten_splitBy (fun s t : List ByteRange => s.head? == t.head?) node
  have hnil := List.nil_notMem_splitBy (fun s t : List ByteRange => s.head? == t.head?) node
  constructor
  · rw [followers, List.map_map]
    have hlen := congrArg List.length hflat
    rw [List.length_flatten] at hlen
    rw [← hlen]
    congr 1
    exact List.map_congr_left fun group _ => List.length_map _
  · rw [followers, List.length_map]
    have hlen := length_le_length_flatten hnil
    rwa [hflat] at hlen

theorem sum_map_le_mul_add {s : List (List (List ByteRange))} {g : List (List ByteRange) → Nat}
    {depth : Nat} (h : ∀ part ∈ s, g part ≤ depth * part.length + 1) :
    (s.map g).sum ≤ depth * (s.map List.length).sum + s.length := by
  induction s with
  | nil => exact Nat.zero_le _
  | cons part s ih =>
      have hpart := h part List.mem_cons_self
      have hs := ih fun other hother => h other (List.mem_cons_of_mem part hother)
      rw [List.map_cons, List.map_cons, List.sum_cons, List.sum_cons, List.length_cons,
        Nat.mul_add]
      omega

/-- Each sequence adds at most one state at each depth. -/
theorem length_nodes_le (depth : Nat) (node : List (List ByteRange)) :
    (nodes depth node).length ≤ depth * node.length + 1 := by
  induction depth generalizing node with
  | zero => exact Nat.zero_le _
  | succ depth ih =>
      obtain ⟨hsum, hlen⟩ := length_followers node
      have hkept : (((followers node).filter (· != [[]])).map fun next =>
          (nodes depth next).length).sum ≤
            ((followers node).map fun next => (nodes depth next).length).sum :=
        (List.filter_sublist.map _).sum_le_sum fun _ _ => Nat.zero_le _
      have hall := sum_map_le_mul_add (s := followers node)
        (g := fun next => (nodes depth next).length) fun next _ => ih next
      rw [hsum] at hall
      rw [nodes, List.length_cons, List.length_flatMap, Nat.succ_mul]
      omega

theorem length_followers_le_of_mem_nodes {depth : Nat} {node next : List (List ByteRange)}
    (h : next ∈ nodes depth node) : (followers next).length ≤ node.length := by
  induction depth generalizing node with
  | zero => cases h
  | succ depth ih =>
      obtain ⟨hsum, hlen⟩ := length_followers node
      rw [nodes, List.mem_cons, List.mem_flatMap] at h
      rcases h with rfl | ⟨start, hstart, hnext⟩
      · exact hlen
      · have hmem := List.mem_map_of_mem (f := List.length) (List.mem_of_mem_filter hstart)
        have hone := List.single_le_sum (fun n _ => Nat.zero_le n) _ hmem
        exact (ih hnext).trans (hsum ▸ hone)

theorem forwardClass_le {seqs : List (List ByteRange)} {k : Nat} (hk : seqs.length ≤ k) :
    forwardClass seqs ≤ 32 + (4 * k + 1) * (32 + 8 * k) := by
  have hcount : (nodes 4 seqs).eraseDups.length ≤ 4 * k + 1 := by
    have hdups := length_eraseDups_le (nodes 4 seqs)
    have hnodes := length_nodes_le 4 seqs
    omega
  have heach : ∀ node ∈ (nodes 4 seqs).eraseDups, 32 + 8 * (followers node).length ≤ 32 + 8 * k := by
    intro node hnode
    have hlen := length_followers_le_of_mem_nodes (List.mem_eraseDups.1 hnode)
    omega
  have hfold := foldl_add_le heach 32
  simp only [← Nat.add_assoc] at hfold
  rw [forwardClass]
  exact hfold.trans (Nat.add_le_add_left (Nat.mul_le_mul_right _ hcount) 32)

theorem freshRanges_le {seqs : List (List ByteRange)} {n : Nat} (h : ∀ s ∈ seqs, s.length ≤ n)
    (before : List ByteRange) : freshRanges before seqs ≤ seqs.length * n := by
  induction seqs generalizing before with
  | nil => exact Nat.zero_le _
  | cons s seqs ih =>
      have hs := h s List.mem_cons_self
      have hrest := ih (fun t ht => h t (List.mem_cons_of_mem s ht)) s
      rw [freshRanges, List.length_cons, Nat.succ_mul]
      omega

theorem length_flatten_le {seqs : List (List ByteRange)} {n : Nat} (h : ∀ s ∈ seqs, s.length ≤ n) :
    seqs.flatten.length ≤ seqs.length * n := by
  induction seqs with
  | nil => exact Nat.zero_le _
  | cons s seqs ih =>
      have hs := h s List.mem_cons_self
      have hrest := ih fun t ht => h t (List.mem_cons_of_mem s ht)
      rw [List.flatten_cons, List.length_append, List.length_cons, Nat.succ_mul]
      omega

/-- A bound for the room of five characters or fewer. -/
def classRoom : Nat := 1544

theorem ofSequences_le {seqs : List (List ByteRange)} (hk : seqs.length ≤ 5)
    (hn : ∀ s ∈ seqs, s.length ≤ 4) :
    (ofSequences seqs).forward ≤ classRoom ∧ (ofSequences seqs).backward ≤ classRoom := by
  have hforward := forwardClass_le hk
  have hfresh := freshRanges_le hn []
  have hflat := length_flatten_le hn
  unfold ofSequences classRoom
  split
  · constructor <;> (simp only [both]; omega)
  · split
    · constructor <;> (simp only [both]; omega)
    · refine ⟨hforward, ?_⟩
      simp only [backwardClass]
      omega

end Room

namespace Pattern

theorem room_anyCase_le (c : Char) :
    (anyCase c).room.forward ≤ Room.classRoom ∧ (anyCase c).room.backward ≤ Room.classRoom := by
  refine Room.ofSequences_le ?_ ?_
  · show (((orbit c).mergeSort fun a b => a ≤ b).map charSequence).length ≤ 5
    rw [List.length_map, List.length_mergeSort]
    exact Text.length_orbit_le c
  · intro s hs
    obtain ⟨d, -, rfl⟩ := List.mem_map.1 hs
    exact Text.length_charSequence_le d

theorem room_seq (p q : Pattern) : (seq p q).room = p.room + q.room := rfl

theorem room_literal_le (s : List Char) :
    (literal s).room.forward ≤ 32 + s.length * Room.classRoom ∧
      (literal s).room.backward ≤ 32 + s.length * Room.classRoom := by
  induction s with
  | nil => exact ⟨Nat.le_refl 32, Nat.le_refl 32⟩
  | cons c s ih =>
      obtain ⟨hforward, hbackward⟩ := room_anyCase_le c
      cases s with
      | nil =>
          constructor
          · exact hforward.trans (by rw [List.length_singleton]; omega)
          · exact hbackward.trans (by rw [List.length_singleton]; omega)
      | cons d s =>
          have hroom : (literal (c :: d :: s)).room = (anyCase c).room + (literal (d :: s)).room :=
            room_seq _ _
          rw [hroom, List.length_cons, Nat.succ_mul]
          constructor
          · show (anyCase c).room.forward + (literal (d :: s)).room.forward ≤ _
            omega
          · show (anyCase c).room.backward + (literal (d :: s)).room.backward ≤ _
            omega

/-- How many characters a text may have for there to be room for it in any case. -/
def maxLiteral : Nat := 6000

theorem fits_literal {s : List Char} (h : s.length ≤ maxLiteral) : (literal s).fits = true := by
  obtain ⟨hforward, hbackward⟩ := room_literal_le s
  have hspace : 32 + s.length * Room.classRoom + 208 ≤ maxRoom := by
    simp only [maxRoom, maxLiteral, Room.classRoom] at h ⊢
    omega
  show (decide _ && decide _) = true
  rw [Bool.and_eq_true, decide_eq_true_iff, decide_eq_true_iff]
  omega

/-- A text that is not too long can be looked for as it is written. -/
theorem isSome_ofString?_escape {s : List Char} (h : s.length ≤ maxLiteral) :
    (ofString? (String.ofList (escape s))).isSome = true := by
  rw [ofString?, String.toList_ofList, read?_escape, if_pos (fits_literal h)]
  rfl

end Pattern

end CardSearch
