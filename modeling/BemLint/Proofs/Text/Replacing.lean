import BemLint.Proofs.Text.Pair
import BemLint.Proofs.Text.Pieces

/-!
# Doubled characters replaced and put in

What becomes of the pairs of a text when it is rewritten. Replacing them goes along the pairs from
the left, each of them the first of what is left of the text, and `pairInduction` is that walk. A
character other than the doubled one leaves no pair where it is put, doubling a character makes a
pair of each of its occurrences, and a pair that is put in stays the only one unless there is one
more of its kind on both of its sides.
-/
namespace BemLint.Text

/-! ## From pair to pair -/

theorem FirstPair.length_lt {d : Char} {s left right : Text} (first : FirstPair d s left right) :
    right.length < s.length := by
  rw [first.whole, List.length_append, List.length_cons, List.length_cons]
  omega

/-- What holds of texts without a pair, and of a text as soon as it holds of what follows its first
pair, holds of all texts. -/
@[elab_as_elim]
theorem pairInduction {d : Char} {motive : Text → Prop}
    (single : ∀ s, NoPair d s → motive s)
    (pair : ∀ s left right, FirstPair d s left right → motive right → motive s) (s : Text) :
    motive s := by
  rcases noPair_or_firstPair d s with noPair | ⟨left, right, first⟩
  · exact single s noPair
  · have shorter := first.length_lt
    exact pair s left right first (pairInduction single pair right)
termination_by s.length

/-- Replacing the pairs of a text writes the new text between the pieces that they leave. -/
theorem replace_pair (d : Char) (new s : Text) :
    replace [d, d] new s = join new (splitAtPair d s) := by
  unfold replace
  fun_induction splitAtPair d s with
  | case1 => rfl
  | case2 c => simp [replaceFrom, startsWith, join]
  | case3 a b rest pair ih =>
    obtain ⟨rfl, rfl⟩ := pair
    rw [join_cons new [] (splitAtPair_ne_nil _ rest), ← ih]
    simp [replaceFrom, startsWith]
  | case4 a b rest single ih =>
    have other : startsWith (a :: b :: rest) [d, d] = false := by
      simpa [startsWith] using single
    rw [join_consHead, ← ih, replaceFrom, other]
    rfl

theorem NoPair.replace {d : Char} {s : Text} (new : Text) (noPair : NoPair d s) :
    replace [d, d] new s = s := by
  rw [replace_pair, splitAtPair_single d s noPair, join]

theorem FirstPair.replace {d : Char} {s left right : Text} (new : Text)
    (first : FirstPair d s left right) :
    replace [d, d] new s = left ++ (new ++ replace [d, d] new right) := by
  rw [replace_pair, replace_pair, first.splitAtPair, join_cons _ _ (splitAtPair_ne_nil d right)]

/-- Where every pair is replaced by another character no pair is left, nor does one arise. -/
theorem noPair_replace {c d : Char} (differ : c ≠ d) (s : Text) :
    NoPair d (replace [d, d] [c] s) := by
  induction s using pairInduction (d := d) with
  | single s noPair =>
    rw [noPair.replace [c]]
    exact noPair
  | pair s left right first rest =>
    rw [first.replace [c]]
    exact noPair_between differ first.noPair rest

/-- Texts that are free of a character, joined by a pair of it, are joined by the new text then. -/
theorem replace_join (d : Char) (new : Text) (parts : List Text) (tail : Text)
    (some : parts ≠ []) (free : ∀ part ∈ parts, d ∉ part) (absent : d ∉ tail) :
    replace [d, d] new (join [d, d] parts ++ tail) = join new parts ++ tail := by
  induction parts with
  | nil => contradiction
  | cons part parts ih =>
    simp only [List.mem_cons, forall_eq_or_imp] at free
    cases parts with
    | nil =>
      have noPair : NoPair d (part ++ tail) :=
        noPair_of_notMem d _ (by simp [free.1, absent])
      rw [join, join, noPair.replace new]
    | cons next parts =>
      have rest := ih (by simp) free.2
      have first : FirstPair d (part ++ d :: d :: (join [d, d] (next :: parts) ++ tail)) part
          (join [d, d] (next :: parts) ++ tail) :=
        ⟨rfl, noPair_of_notMem d part free.1, fun last => free.1 (List.mem_of_getLast? last)⟩
      have cut : ∀ sep, join sep (part :: next :: parts) = part ++ (sep ++ join sep (next :: parts)) :=
        fun sep => join_cons sep part (by simp)
      have whole := first.replace new
      rw [rest] at whole
      rw [cut, cut]
      simpa using whole

/-! ## Pairs put in -/

theorem splitAtPair_cons_ne {a d : Char} (differ : a ≠ d) (s : Text) :
    splitAtPair d (a :: s) = consHead a (splitAtPair d s) := by
  cases s with
  | nil => rfl
  | cons b rest => rw [splitAtPair, if_neg fun pair => differ pair.1]

/-- Doubling a character makes a pair of each of its occurrences. -/
theorem splitAtPair_doubled (d : Char) (s : Text) :
    splitAtPair d (replaceChar d [d, d] s) = splitAt d s := by
  induction s with
  | nil => rfl
  | cons c s ih =>
    unfold replaceChar at ih ⊢
    rw [List.flatMap_cons, splitAt]
    by_cases same : c = d
    · rw [if_pos same, if_pos same, ← ih]
      simp [splitAtPair]
    · rw [if_neg same, if_neg same, List.singleton_append, splitAtPair_cons_ne same, ih]

theorem hasTwoPairs_doubled (d : Char) (s : Text) :
    HasTwoPairs d (replaceChar d [d, d] s) ↔ 2 ≤ s.count d := by
  rw [← three_le_length_splitAtPair, splitAtPair_doubled, length_splitAt]
  omega

theorem noPair_cons_self (d : Char) (s : Text) :
    NoPair d (d :: s) ↔ NoPair d s ∧ s.head? ≠ some d := by
  cases s with
  | nil => simp [NoPair]
  | cons c s =>
    rw [NoPair, List.isChain_cons_cons, and_comm]
    simp [NoPair]

/-- Between texts without pairs a pair is the only one, unless the same character stands on both of
its sides. -/
theorem hasTwoPairs_between (d : Char) (s t : Text) (left : NoPair d s) (right : NoPair d t) :
    HasTwoPairs d (s ++ d :: d :: t) ↔ s.getLast? = some d ∧ t.head? = some d := by
  by_cases last : s.getLast? = some d
  · -- The first pair begins with the end of the text in front, and leaves one character behind it.
    obtain ⟨front, rfl⟩ := List.getLast?_eq_some_iff.mp last
    have chain := List.isChain_append.mp left
    have ends : front.getLast? ≠ some d := fun same => chain.2.2 d same d rfl ⟨rfl, rfl⟩
    have first : FirstPair d (front ++ [d] ++ d :: d :: t) front (d :: t) :=
      ⟨by simp, chain.1, ends⟩
    rw [first.hasTwoPairs_iff, and_iff_right last, ← not_iff_not, ← noPair_iff, noPair_cons_self,
      and_iff_right right]
  · have first : FirstPair d (s ++ d :: d :: t) s t := ⟨rfl, left, last⟩
    rw [first.hasTwoPairs_iff]
    exact iff_of_false right.not_hasPair fun both => last both.1

theorem HasTwoPairs.append {d : Char} {s : Text} (two : HasTwoPairs d s) (t : Text) :
    HasTwoPairs d (s ++ t) := by
  obtain ⟨left, middle, right, rfl⟩ := two
  exact ⟨left, middle, right ++ t, by simp⟩

/-- Text that is free of the character holds no part of a pair. -/
theorem HasTwoPairs.of_append {d : Char} {s t : Text} (two : HasTwoPairs d (s ++ t))
    (absent : d ∉ t) : HasTwoPairs d s := by
  obtain ⟨left, middle, right, whole⟩ := two
  have cut : s ++ t = (left ++ d :: d :: (middle ++ [d, d])) ++ right := by simp [whole]
  rcases List.append_eq_append_iff.mp cut with ⟨more, front, behind⟩ | ⟨more, rfl, -⟩
  · -- What reaches into the text behind ends in the character, so nothing does.
    rcases more.eq_nil_or_concat with rfl | ⟨init, last, rfl⟩
    · exact ⟨left, middle, [], by simpa using front.symm⟩
    · have ends : left ++ d :: d :: (middle ++ [d]) ++ [d] = s ++ init ++ [last] := by
        simpa using front
      obtain rfl : d = last := List.singleton_inj.mp (List.append_inj_right' ends rfl)
      exact absurd (by simp [behind]) absent
  · exact ⟨left, middle, more, by simp⟩

end BemLint.Text
