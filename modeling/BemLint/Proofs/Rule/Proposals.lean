import BemLint.Proofs.ClassName.Rewriting
import BemLint.Proofs.Rule.Advice
import BemLint.Proofs.Rule.Findings
import BemLint.Proofs.Text.Replacing

/-!
# Better names that nest elements

Whether the better name of a finding nests elements when the name itself does not. Most advice only
takes low lines away or leaves them, so it cannot. The rule about elements puts delimiters in: one
for every low line, which is one too many as soon as there are two, and one for the first hyphen,
which makes two delimiters of it when a low line stands on both of its sides.
-/
namespace BemLint.Rule
open Text (NoPair HasPair HasTwoPairs FirstPair)

/-! ## Advice that puts no delimiter in -/

theorem flat_of_notMem {s : Text} (absent : '_' ∉ s) : ¬ HasTwoPairs '_' s := fun two =>
  (Text.noPair_of_notMem '_' s absent).not_hasPair two.hasPair

/-- A beginning of a name with text behind it that has no low line. -/
theorem flat_of_front {name front : Text} (flat : ¬ HasTwoPairs '_' name) {rest : Text}
    (whole : name = front ++ rest) {more : Text} (absent : '_' ∉ more) :
    ¬ HasTwoPairs '_' (front ++ more) := by
  intro two
  rw [whole] at flat
  exact flat ((two.of_append absent).append rest)

theorem checkBlock_flat {name : Text} {v : Violation} (found : v ∈ checkBlock name) :
    ¬ HasTwoPairs '_' v.suggestion := by
  rw [suggestion_of_mem_checkBlock found]
  exact flat_of_notMem (ClassName.lowLine_notMem_toKebab _)

theorem Rejoins.flat {name advice before after : Text} (rejoins : Rejoins name advice before after)
    (flat : ¬ HasTwoPairs '_' name) : ¬ HasTwoPairs '_' advice := by
  have absent : '_' ∉ '-' :: '-' :: after := by simp [rejoins.after_absent]
  rw [rejoins.advice]
  rcases rejoins.delimiter with ⟨whole, -⟩ | ⟨whole, -⟩ <;> exact flat_of_front flat whole absent

/-- A low line at the end of a name is left there. -/
theorem hyphenateLastLowLine_end (before : Text) :
    hyphenateLastLowLine (before ++ ['_']) = before ++ ['_'] := by
  simp [hyphenateLastLowLine]

theorem checkModifier_flat {name : Text} (flat : ¬ HasTwoPairs '_' name) {v : Violation}
    (found : v ∈ checkModifier name) : ¬ HasTwoPairs '_' v.suggestion := by
  by_cases ends : name.getLast? = some '_'
  · obtain ⟨before, rfl⟩ := List.getLast?_eq_some_iff.mp ends
    rcases (mem_checkModifier_iff _ v).mp found with ⟨-, rfl⟩ | ⟨twoPart, -⟩
    · show ¬ HasTwoPairs '_' (hyphenateLastLowLine (before ++ ['_']))
      rwa [hyphenateLastLowLine_end]
    · exact absurd (isTwoPartKebab_counts _ twoPart).1 (by simp)
  · obtain ⟨before, after, rejoins⟩ := checkModifier_rejoins found ends
    exact rejoins.flat flat

theorem checkModifierFormat_flat {name : Text} (flat : ¬ HasTwoPairs '_' name) {v : Violation}
    (found : v ∈ checkModifierFormat name) : ¬ HasTwoPairs '_' v.suggestion := by
  obtain ⟨left, right, first⟩ := firstPair_of_mem_checkModifierFormat found
  rcases suggestion_of_mem_checkModifierFormat first found with ⟨-, advice⟩ | ⟨-, advice⟩
  · rw [advice]
    exact flat_of_front flat first.whole (by decide)
  · rw [advice]
    exact flat_of_notMem (by decide)

/-! ## Advice that puts delimiters in -/

/-- The first hyphen of a name stands between two low lines. -/
def HyphenBetweenLowLines (name : Text) : Prop :=
  ∃ before after, name = before ++ '_' :: '-' :: '_' :: after ∧ '-' ∉ before

theorem lowLineElement_nests_iff (name : Text) :
    HasTwoPairs '_' (lowLineElement name).suggestion ↔ 2 ≤ name.count '_' :=
  Text.hasTwoPairs_doubled '_' name

theorem hyphenElement_suggestion (before after : Text) (absent : '-' ∉ before) :
    (hyphenElement (before ++ '-' :: after)).suggestion = before ++ '_' :: '_' :: after :=
  Text.replaceFirst_append '-' ['_', '_'] before after absent

theorem hyphenElement_nests_iff {name : Text} (lowLines : NoPair '_' name) (some : '-' ∈ name) :
    HasTwoPairs '_' (hyphenElement name).suggestion ↔ HyphenBetweenLowLines name := by
  constructor
  · obtain ⟨before, after, rfl, absent⟩ := List.eq_append_cons_of_mem some
    have chain := List.isChain_append.mp lowLines
    have behind : NoPair '_' after := (List.isChain_cons.mp chain.2.1).2
    rw [hyphenElement_suggestion before after absent,
      Text.hasTwoPairs_between '_' before after chain.1 behind]
    rintro ⟨last, head⟩
    obtain ⟨front, rfl⟩ := List.getLast?_eq_some_iff.mp last
    obtain ⟨rest, rfl⟩ := List.head?_eq_some_iff.mp head
    exact ⟨front, rest, by simp, fun member => absent (List.mem_append_left _ member)⟩
  · rintro ⟨front, rest, rfl, absent⟩
    have advice := hyphenElement_suggestion (front ++ ['_']) ('_' :: rest) (by simp [absent])
    exact ⟨front, [], rest, by simpa using advice⟩

theorem hyphen_mem_of_chain {name : Text} (chain : isHyphenChain name = true) : '-' ∈ name := by
  simp only [isHyphenChain, Bool.and_eq_true, decide_eq_true_eq] at chain
  exact List.count_pos_iff.mp (by omega)

theorem checkElement_nests_iff {name : Text} {v : Violation} (found : v ∈ checkElement name) :
    HasTwoPairs '_' v.suggestion ↔
      v = lowLineElement name ∧ 2 ≤ name.count '_' ∨
      v = hyphenElement name ∧ HyphenBetweenLowLines name := by
  have differ := hyphenElement_ne_lowLineElement name
  obtain ⟨lowLines, -, ⟨chain, rfl⟩ | ⟨-, rfl⟩⟩ := (mem_checkElement_iff name v).mp found
  · rw [hyphenElement_nests_iff ((Text.noPair_iff _ _).mpr lowLines) (hyphen_mem_of_chain chain)]
    simp [differ]
  · rw [lowLineElement_nests_iff]
    simp [differ.symm]

/-- Advice on a name that does not nest elements is a name that does in two cases, both of the rule
about elements: where two low lines or more become delimiters, and where the first hyphen becomes
one between two low lines. -/
theorem advice_nests_iff (name : Text) (v : Violation) (flat : checkNesting name = [])
    (found : v ∈ checkAll name) :
    checkNesting v.suggestion ≠ [] ↔
      v = lowLineElement name ∧ 2 ≤ name.count '_' ∨
      v = hyphenElement name ∧ HyphenBetweenLowLines name := by
  have single : ¬ HasTwoPairs '_' name := (checkNesting_pairs name).mp flat
  have other : v.rule ≠ .elementDelimiter → ¬ HasTwoPairs '_' v.suggestion →
      (HasTwoPairs '_' v.suggestion ↔ v = lowLineElement name ∧ 2 ≤ name.count '_' ∨
        v = hyphenElement name ∧ HyphenBetweenLowLines name) := by
    intro rule none
    refine iff_of_false none ?_
    rintro (⟨rfl, -⟩ | ⟨rfl, -⟩) <;> exact rule rfl
  rw [Ne, checkNesting_pairs, not_not]
  rw [mem_checkAll_iff] at found
  cases rule : v.rule with
  | noElementNesting =>
    rw [rule, check, flat] at found
    contradiction
  | blockName =>
    rw [rule] at found
    exact other (by simp [rule]) (checkBlock_flat found)
  | elementDelimiter =>
    rw [rule] at found
    exact checkElement_nests_iff found
  | modifierDelimiter =>
    rw [rule] at found
    exact other (by simp [rule]) (checkModifier_flat single found)
  | modifierFormat =>
    rw [rule] at found
    exact other (by simp [rule]) (checkModifierFormat_flat single found)

theorem advice_nests_iff_path :
    checkNesting "main_nav_-_item-link".toList = [] ∧
    hyphenElement "main_nav_-_item-link".toList ∈ checkAll "main_nav_-_item-link".toList ∧
    checkNesting (hyphenElement "main_nav_-_item-link".toList).suggestion ≠ [] := by
  have flat : checkNesting "main_nav_-_item-link".toList = [] := by decide
  have found : hyphenElement "main_nav_-_item-link".toList ∈
      checkAll "main_nav_-_item-link".toList := by decide
  exact ⟨flat, found, (advice_nests_iff _ _ flat found).mpr
    (.inr ⟨rfl, "main_nav".toList, "item-link".toList, by decide, by decide⟩)⟩

/-- Two low lines become two delimiters. -/
theorem low_lines_advice_nests :
    checkNesting "nav_item_link".toList = [] ∧
    ∃ v ∈ checkAll "nav_item_link".toList, v.suggestion = "nav__item__link".toList ∧
      checkNesting v.suggestion ≠ [] :=
  ⟨by decide, lowLineElement "nav_item_link".toList, by decide, by decide, by decide⟩

end BemLint.Rule
