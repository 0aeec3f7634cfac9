import BemLint.Proofs.Rule.LowLines

/-!
# What a finding says

Every finding of a rule bears the name of the rule, so the findings of one rule can be told from all
that is found. Before that there are lemmas, rule by rule, that say what the better name of a finding
is made of.
-/
namespace BemLint.Rule
open Text (HasPair HasTwoPairs FirstPair)

/-! ## Better names -/

theorem suggestion_of_mem_checkBlock {name : Text} {v : Violation} (found : v ∈ checkBlock name) :
    v.suggestion = ClassName.toKebab (ClassName.block name) := by
  simp only [checkBlock] at found
  split at found
  · contradiction
  · obtain rfl := List.mem_singleton.mp found
    rfl

theorem mem_checkElement_iff (name : Text) (v : Violation) :
    v ∈ checkElement name ↔ ¬ HasPair '_' name ∧ ¬ HasPair '-' name ∧
      (isHyphenChain name = true ∧ v = hyphenElement name ∨
        '_' ∈ name ∧ v = lowLineElement name) := by
  by_cases delimited : HasPair '_' name ∨ HasPair '-' name
  · have silent : checkElement name = [] := by
      refine checkElement_delimited name ?_
      rwa [hasElement_iff, hasModifier_iff]
    rw [silent]
    exact iff_of_false List.not_mem_nil fun none => not_or.mpr ⟨none.1, none.2.1⟩ delimited
  · obtain ⟨lowLines, hyphens⟩ := not_or.mp delimited
    have bare : (ClassName.hasElement name || ClassName.hasModifier name) = false := by
      rw [Bool.or_eq_false_iff, ← Bool.not_eq_true, ← Bool.not_eq_true, hasElement_iff,
        hasModifier_iff]
      exact ⟨lowLines, hyphens⟩
    cases chain : isHyphenChain name <;> by_cases some : '_' ∈ name <;>
      simp [checkElement, bare, chain, some, lowLines, hyphens]

theorem hyphenElement_ne_lowLineElement (name : Text) :
    hyphenElement name ≠ lowLineElement name := by
  intro same
  have messages := congrArg Violation.message same
  simp only [hyphenElement, lowLineElement] at messages
  revert messages
  decide

theorem firstPair_of_mem_checkModifierFormat {name : Text} {v : Violation}
    (found : v ∈ checkModifierFormat name) : ∃ left right, FirstPair '-' name left right := by
  refine (Text.noPair_or_firstPair '-' name).resolve_left fun noPair => ?_
  simp [checkModifierFormat_noPair noPair] at found

/-- The advice about the first modifier delimiter keeps what stands before it, if anything does. -/
theorem suggestion_of_mem_checkModifierFormat {name left right : Text}
    (first : FirstPair '-' name left right) {v : Violation} (found : v ∈ checkModifierFormat name) :
    left ≠ [] ∧ v.suggestion = left ++ "--modifier".toList ∨
      left = [] ∧ v.suggestion = "block--modifier".toList := by
  obtain ⟨piece, pieces, -, parts⟩ := modifierParts_firstPair first
  simp only [checkModifierFormat, parts] at found
  split at found
  · contradiction
  next lacking =>
    obtain rfl := List.mem_singleton.mp found
    cases left with
    | nil => exact .inr ⟨rfl, rfl⟩
    | cons c left =>
      have empty : piece = [] := by simpa using lacking
      exact .inl ⟨by simp, by simp [modifierForm, empty]⟩

/-! ## Findings of one rule -/

theorem rule_of_mem_check {rule : Rule} {name : Text} {v : Violation}
    (found : v ∈ rule.check name) : v.rule = rule := by
  cases rule with
  | noElementNesting =>
    rw [check, checkNesting] at found
    split at found
    · obtain rfl := List.mem_singleton.mp found
      rfl
    · contradiction
  | blockName =>
    simp only [check, checkBlock] at found
    split at found
    · contradiction
    · obtain rfl := List.mem_singleton.mp found
      rfl
  | elementDelimiter =>
    obtain ⟨-, -, ⟨-, rfl⟩ | ⟨-, rfl⟩⟩ := (mem_checkElement_iff name v).mp found <;> rfl
  | modifierDelimiter =>
    rcases (mem_checkModifier_iff name v).mp found with ⟨-, rfl⟩ | ⟨-, rfl⟩ <;> rfl
  | modifierFormat =>
    simp only [check, checkModifierFormat] at found
    split at found
    · split at found
      · contradiction
      · obtain rfl := List.mem_singleton.mp found
        rfl
    · contradiction

theorem filter_checkAll (rule : Rule) (name : Text) :
    (checkAll name).filter (·.rule = rule) = rule.check name := by
  have own : (rule.check name).filter (·.rule = rule) = rule.check name :=
    List.filter_eq_self.mpr fun v found => by simp [rule_of_mem_check found]
  have other : ∀ rule', rule' ≠ rule → (rule'.check name).filter (·.rule = rule) = [] := by
    intro rule' differ
    refine List.filter_eq_nil_iff.mpr fun v found => ?_
    simpa [rule_of_mem_check found] using differ
  rw [checkAll, List.filter_flatMap]
  cases rule <;> simp [all, own, other]

theorem mem_checkAll_iff (name : Text) (v : Violation) :
    v ∈ checkAll name ↔ v ∈ v.rule.check name := by
  rw [← filter_checkAll, List.mem_filter]
  simp

end BemLint.Rule
