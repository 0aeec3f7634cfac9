import Mathlib.Data.List.Chain
import BemLint.Text.Basic

/-!
# Doubled characters

A delimiter is one character written twice. `NoPair` says that a text holds no such place; a text
that has one is cut at the leftmost, which is the one with no other before it or across its front.
The number of pieces then tells how many pairs there are that do not overlap.
-/
namespace BemLint.Text

def NoPair (d : Char) (s : Text) : Prop := s.IsChain fun a b => ¬ (a = d ∧ b = d)

theorem noPair_of_notMem (d : Char) (s : Text) (absent : d ∉ s) : NoPair d s := by
  induction s with
  | nil => exact .nil
  | cons c s ih =>
    rw [NoPair, List.isChain_cons]
    refine ⟨fun _ _ same => ?_, ih fun member => absent (List.mem_cons_of_mem c member)⟩
    exact absent (by simp [same.1])

/-- Two texts without a pair make one, unless the character stands on both sides of the join. -/
theorem noPair_append (d : Char) (s t : Text) (left : NoPair d s) (right : NoPair d t)
    (apart : s.getLast? ≠ some d ∨ t.head? ≠ some d) : NoPair d (s ++ t) := by
  refine List.isChain_append.mpr ⟨left, right, ?_⟩
  rintro x last y first ⟨rfl, rfl⟩
  rcases apart with no | no
  · exact no last
  · exact no first

/-- Another character between them keeps two texts from making a pair. -/
theorem noPair_between {c d : Char} (differ : c ≠ d) {s t : Text} (left : NoPair d s)
    (right : NoPair d t) : NoPair d (s ++ c :: t) := by
  have behind : NoPair d ([c] ++ t) :=
    noPair_append d [c] t (.singleton c) right (.inl (by simpa using differ))
  exact noPair_append d s _ left behind (.inr (by simpa using differ))

theorem splitAtPair_single (d : Char) (s : Text) (noPair : NoPair d s) : splitAtPair d s = [s] := by
  fun_induction splitAtPair d s with
  | case1 => rfl
  | case2 c => rfl
  | case3 a b rest pair ih =>
    have := (List.isChain_cons_cons.mp noPair).1
    exact absurd pair this
  | case4 a b rest single ih =>
    rw [ih (List.isChain_cons_cons.mp noPair).2]
    rfl

/-- A text is cut at its leftmost pair. -/
theorem splitAtPair_pair (d : Char) (s t : Text) (noPair : NoPair d s)
    (last : s.getLast? ≠ some d) : splitAtPair d (s ++ d :: d :: t) = s :: splitAtPair d t := by
  induction s with
  | nil => simp [splitAtPair]
  | cons a s ih =>
    cases s with
    | nil =>
      have differ : a ≠ d := by simpa using last
      simp [splitAtPair, differ, consHead]
    | cons b s =>
      have chain := List.isChain_cons_cons.mp noPair
      have next := ih chain.2 (by simpa using last)
      rw [List.cons_append, List.cons_append, splitAtPair, if_neg chain.1]
      rw [List.cons_append] at next
      rw [next]
      rfl

/-! ## Where pairs lie -/

def HasPair (d : Char) (s : Text) : Prop := ∃ left right, s = left ++ d :: d :: right

/-- A text holds two pairs that do not overlap. -/
def HasTwoPairs (d : Char) (s : Text) : Prop :=
  ∃ left middle right, s = left ++ d :: d :: (middle ++ d :: d :: right)

/-- The leftmost pair of a text, with what is on its two sides: no other pair lies before it or
across its front. -/
structure FirstPair (d : Char) (s left right : Text) : Prop where
  whole : s = left ++ d :: d :: right
  noPair : NoPair d left
  last : left.getLast? ≠ some d

theorem noPair_or_firstPair (d : Char) (s : Text) :
    NoPair d s ∨ ∃ left right, FirstPair d s left right := by
  induction s with
  | nil => exact .inl .nil
  | cons a s ih =>
    cases s with
    | nil => exact .inl (.singleton a)
    | cons b rest =>
      by_cases pair : a = d ∧ b = d
      · obtain ⟨rfl, rfl⟩ := pair
        exact .inr ⟨[], rest, rfl, .nil, by simp⟩
      rcases ih with noPair | ⟨left, right, first⟩
      · exact .inl (List.isChain_cons_cons.mpr ⟨pair, noPair⟩)
      right
      refine ⟨a :: left, right, by rw [first.whole, List.cons_append], ?_, ?_⟩
      · cases left with
        | nil => exact .singleton a
        | cons c left =>
          have head : b = c := (List.cons.inj first.whole).1
          exact List.isChain_cons_cons.mpr ⟨head ▸ pair, first.noPair⟩
      · cases left with
        | nil =>
          have head : b = d := (List.cons.inj first.whole).1
          simpa using fun same => pair ⟨same, head⟩
        | cons c left => simpa using first.last

theorem NoPair.not_hasPair {d : Char} {s : Text} (noPair : NoPair d s) : ¬ HasPair d s := by
  rintro ⟨left, right, rfl⟩
  have behind := (List.isChain_append.mp noPair).2.1
  exact (List.isChain_cons_cons.mp behind).1 ⟨rfl, rfl⟩

theorem HasTwoPairs.hasPair {d : Char} {s : Text} (two : HasTwoPairs d s) : HasPair d s := by
  obtain ⟨left, middle, right, whole⟩ := two
  exact ⟨left, _, whole⟩

theorem HasPair.exists_first {d : Char} {s : Text} (has : HasPair d s) :
    ∃ left right, FirstPair d s left right :=
  (noPair_or_firstPair d s).resolve_left fun noPair => noPair.not_hasPair has

theorem noPair_iff (d : Char) (s : Text) : NoPair d s ↔ ¬ HasPair d s := by
  refine ⟨NoPair.not_hasPair, fun absent => ?_⟩
  rcases noPair_or_firstPair d s with noPair | ⟨left, right, first⟩
  · exact noPair
  · exact absurd ⟨left, right, first.whole⟩ absent

/-- Every pair that is not the first, nor overlaps it, lies behind it. -/
theorem FirstPair.behind {d : Char} {s left right : Text} (first : FirstPair d s left right)
    (before after : Text) (whole : s = before ++ d :: d :: after) :
    ∃ gap, right = gap ++ after := by
  rw [first.whole] at whole
  rcases List.append_eq_append_iff.mp whole with ⟨a, rfl, e⟩ | ⟨a, rfl, e⟩
  · match a with
    | [] => exact ⟨[], by simpa using e⟩
    | [x] => exact ⟨[d], by simpa using (List.cons.inj (List.cons.inj e).2).2⟩
    | x :: y :: gap => exact ⟨gap ++ [d, d], by simpa using (List.cons.inj (List.cons.inj e).2).2⟩
  · match a with
    | [] => exact ⟨[], by simpa using e.symm⟩
    | [x] =>
      have same : d = x := (List.cons.inj e).1
      exact absurd (by simp [same]) first.last
    | x :: y :: gap =>
      have fronts : d = x ∧ d = y :=
        ⟨(List.cons.inj e).1, (List.cons.inj (List.cons.inj e).2).1⟩
      exact absurd ⟨before, gap, by rw [← fronts.1, ← fronts.2]⟩ first.noPair.not_hasPair

/-- A text has one first pair. -/
theorem FirstPair.unique {d : Char} {s left right left' right' : Text}
    (first : FirstPair d s left right) (first' : FirstPair d s left' right') :
    left = left' ∧ right = right' := by
  obtain ⟨gap, e⟩ := first.behind left' right' first'.whole
  obtain ⟨gap', e'⟩ := first'.behind left right first.whole
  have none : gap = [] := by
    have := congrArg List.length e
    have := congrArg List.length e'
    simp only [List.length_append] at *
    exact List.length_eq_zero_iff.mp (by omega)
  have same : right = right' := by rw [e, none, List.nil_append]
  refine ⟨?_, same⟩
  have whole := first.whole.symm.trans first'.whole
  rw [same] at whole
  exact List.append_cancel_right whole

theorem FirstPair.splitAtPair {d : Char} {s left right : Text} (first : FirstPair d s left right) :
    splitAtPair d s = left :: splitAtPair d right := by
  rw [first.whole]
  exact splitAtPair_pair d left right first.noPair first.last

/-- The front piece is empty when the text is, or when it begins with a pair. -/
theorem splitAtPair_head {d : Char} {s piece : Text} {pieces : List Text}
    (split : splitAtPair d s = piece :: pieces) :
    piece = [] ↔ s = [] ∨ ∃ rest, s = d :: d :: rest := by
  constructor
  · rintro rfl
    rcases noPair_or_firstPair d s with noPair | ⟨left, right, first⟩
    · rw [splitAtPair_single d s noPair] at split
      exact .inl (List.cons.inj split).1
    · rw [first.splitAtPair] at split
      have empty : left = [] := (List.cons.inj split).1
      exact .inr ⟨right, by rw [first.whole, empty, List.nil_append]⟩
  · rintro (rfl | ⟨rest, rfl⟩)
    · exact (List.cons.inj split).1.symm
    · rw [Text.splitAtPair, if_pos ⟨rfl, rfl⟩] at split
      exact (List.cons.inj split).1.symm

theorem two_le_length_splitAtPair (d : Char) (s : Text) :
    2 ≤ (splitAtPair d s).length ↔ HasPair d s := by
  rcases noPair_or_firstPair d s with noPair | ⟨left, right, first⟩
  · simp [splitAtPair_single d s noPair, noPair.not_hasPair]
  · have more := List.length_pos_iff.mpr (splitAtPair_ne_nil d right)
    rw [first.splitAtPair, List.length_cons]
    exact ⟨fun _ => ⟨left, right, first.whole⟩, fun _ => by omega⟩

/-- A second pair that does not overlap the first is one behind it. -/
theorem FirstPair.hasTwoPairs_iff {d : Char} {s left right : Text}
    (first : FirstPair d s left right) : HasTwoPairs d s ↔ HasPair d right := by
  constructor
  · rintro ⟨before, middle, after, whole⟩
    obtain ⟨gap, behind⟩ := first.behind before _ whole
    exact ⟨gap ++ middle, after, by simp [behind]⟩
  · rintro ⟨middle, after, rfl⟩
    exact ⟨left, middle, after, first.whole⟩

/-- There are three pieces just when two pairs do not overlap. -/
theorem three_le_length_splitAtPair (d : Char) (s : Text) :
    3 ≤ (splitAtPair d s).length ↔ HasTwoPairs d s := by
  rcases noPair_or_firstPair d s with noPair | ⟨left, right, first⟩
  · have none : ¬ HasTwoPairs d s := fun two => noPair.not_hasPair two.hasPair
    simp [splitAtPair_single d s noPair, none]
  · rw [first.hasTwoPairs_iff, ← two_le_length_splitAtPair, first.splitAtPair, List.length_cons]
    omega

theorem exists_mem_consHead (c : Char) (pieces : List Text) {piece : Text}
    (member : piece ∈ pieces) : ∃ longer ∈ consHead c pieces, piece ⊆ longer := by
  cases pieces with
  | nil => cases member
  | cons first pieces =>
    rcases List.mem_cons.mp member with rfl | behind
    · exact ⟨c :: piece, List.mem_cons_self .., List.subset_cons_self c piece⟩
    · exact ⟨piece, List.mem_cons_of_mem _ behind, List.Subset.refl piece⟩

/-- A character that is not next to another of its kind is left in a piece. -/
theorem mem_splitAtPair_of_lone (d : Char) (left right : Text) (last : left.getLast? ≠ some d)
    (head : right.head? ≠ some d) : ∃ piece ∈ splitAtPair d (left ++ d :: right), d ∈ piece := by
  have shorter : ∀ (x : Char) (left : Text), (x :: left).getLast? ≠ some d →
      left.getLast? ≠ some d := by
    intro x left last
    cases left with
    | nil => simp
    | cons y left => simpa using last
  generalize whole : left ++ d :: right = s
  fun_induction splitAtPair d s generalizing left with
  | case1 => simp at whole
  | case2 c =>
    have same : d ∈ [c] := by simp [← whole]
    exact ⟨[c], List.mem_singleton_self _, same⟩
  | case3 a b rest pair ih =>
    obtain ⟨rfl, rfl⟩ := pair
    match left with
    | [] => simp [(List.cons.inj whole).2] at head
    | [x] => simp [(List.cons.inj whole).1] at last
    | x :: y :: left =>
      have behind := (List.cons.inj (List.cons.inj whole).2).2
      obtain ⟨piece, member, inside⟩ := ih left (shorter y left (shorter x _ last)) behind
      exact ⟨piece, List.mem_cons_of_mem _ member, inside⟩
  | case4 a b rest single ih =>
    cases left with
    | nil =>
      obtain rfl : d = a := (List.cons.inj whole).1
      obtain ⟨piece, pieces, e⟩ := List.exists_cons_of_ne_nil (splitAtPair_ne_nil d (b :: rest))
      exact ⟨d :: piece, by simp [e, consHead], List.mem_cons_self ..⟩
    | cons x left =>
      obtain ⟨piece, member, inside⟩ := ih left (shorter x left last) (List.cons.inj whole).2
      obtain ⟨longer, among, part⟩ := exists_mem_consHead a _ member
      exact ⟨longer, among, part inside⟩

end BemLint.Text
