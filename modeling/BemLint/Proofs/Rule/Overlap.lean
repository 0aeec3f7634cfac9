import BemLint.Proofs.Rule.Advice
import BemLint.Proofs.Rule.Findings

/-!
# Rules that speak of the same name

Which findings one name can have together. Each rule has at most one, but for the rule about
elements, which has two sides and may find both. That rule passes every name with a delimiter, and
only such names and two words with one hyphen are a matter of the rules about nesting and about
modifiers, so none of those ever speaks beside it.
-/
namespace BemLint.Rule
open ClassName (isKebabChar_lowLine)

/-! ## How many findings a rule has -/

/-- As many findings as one rule may have about one name. -/
def most : Rule → Nat
  | .elementDelimiter => 2
  | _ => 1

/-- A low line joins a modifier or a single hyphen does, never both. -/
theorem isTwoPartKebab_lowLineModifier {name : Text} (low : hasLowLineModifier name = true) :
    isTwoPartKebab name = false :=
  isTwoPartKebab_delimited name (.inl ((hasLowLineModifier_iff_holds name).mp low).lowLine_mem)

theorem length_check_le (rule : Rule) (name : Text) : (rule.check name).length ≤ rule.most := by
  cases rule with
  | noElementNesting =>
    rw [check, checkNesting]
    split <;> simp [most]
  | blockName =>
    simp only [check, checkBlock]
    split <;> simp [most]
  | elementDelimiter =>
    rw [check, checkElement]
    split
    · simp
    · split <;> split <;> simp [most]
  | modifierDelimiter =>
    rw [check, checkModifier]
    cases low : hasLowLineModifier name with
    | true => simp [isTwoPartKebab_lowLineModifier low, most]
    | false =>
      cases two : isTwoPartKebab name <;> simp [most]
  | modifierFormat =>
    simp only [check, checkModifierFormat]
    split
    · split <;> simp [most]
    · simp

/-- The findings of a rule all bear its name. -/
theorem map_rule_check (rule : Rule) (name : Text) :
    (rule.check name).map (·.rule) = List.replicate (rule.check name).length rule := by
  rw [List.eq_replicate_iff, List.length_map]
  refine ⟨rfl, fun rule' member => ?_⟩
  obtain ⟨v, found, rfl⟩ := List.mem_map.mp member
  exact rule_of_mem_check found

/-- The findings come in the order of the rules, as many of each as it may have. -/
theorem map_rule_checkAll_sublist (name : Text) (rules : List Rule) :
    ((rules.flatMap fun rule => rule.check name).map (·.rule)).Sublist
      (rules.flatMap fun rule => List.replicate rule.most rule) := by
  induction rules with
  | nil => exact .slnil
  | cons rule rules ih =>
    rw [List.flatMap_cons, List.map_append, List.flatMap_cons, map_rule_check]
    exact ((List.replicate_sublist_replicate rule).mpr (length_check_le rule name)).append ih

/-! ## What stands beside a finding about elements -/

section Elements

variable {name : Text} {v : Violation}

/-- What the rule about elements speaks of is no matter of the other rules about delimiters. -/
theorem silent_beside_element (found : v ∈ checkElement name) :
    checkNesting name = [] ∧ checkModifier name = [] ∧ checkModifierFormat name = [] := by
  obtain ⟨lowLines, hyphens, kind⟩ := (mem_checkElement_iff name v).mp found
  have delimited : '_' ∈ name ∨ 2 ≤ name.count '-' := by
    rcases kind with ⟨chain, -⟩ | ⟨some, -⟩
    · simp only [isHyphenChain, Bool.and_eq_true, decide_eq_true_eq] at chain
      exact .inr chain.1
    · exact .inl some
  have calm := hasLowLineModifier_noPair name ((Text.noPair_iff _ _).mpr lowLines)
  exact ⟨(checkNesting_pairs name).mpr fun two => lowLines two.hasPair,
    checkModifier_silent name delimited calm,
    checkModifierFormat_noPair ((Text.noPair_iff _ _).mpr hyphens)⟩

/-- A name with a low line and no delimiter is a block that is not in kebab case. -/
theorem checkBlock_beside_lowLine (found : lowLineElement name ∈ checkElement name) :
    checkBlock name ≠ [] := by
  obtain ⟨lowLines, hyphens, kind⟩ := (mem_checkElement_iff name _).mp found
  have some : '_' ∈ name := by
    rcases kind with ⟨-, same⟩ | ⟨some, -⟩
    · exact absurd same.symm (hyphenElement_ne_lowLineElement name)
    · exact some
  rw [Ne, checkBlock_eq_nil_iff, block_undelimited lowLines hyphens]
  intro kebab
  have none := List.count_eq_zero.mpr (kebab.notMem isKebabChar_lowLine (by decide))
  rw [ClassName.count_dropFinalFeed '_' name (by decide)] at none
  exact List.count_eq_zero.mp none some

end Elements

/-! ## All findings of a name -/

theorem length_checkAll_le (name : Text) : (checkAll name).length ≤ 4 := by
  have nesting := length_check_le .noElementNesting name
  have block := length_check_le .blockName name
  have element := length_check_le .elementDelimiter name
  have modifier := length_check_le .modifierDelimiter name
  have format := length_check_le .modifierFormat name
  simp only [check, most] at nesting block element modifier format
  simp only [checkAll_eq, List.length_append]
  -- The rule with two findings leaves only the one about the block beside them.
  by_cases silent : checkElement name = []
  · rw [silent, List.length_nil]
    omega
  · obtain ⟨v, found⟩ := List.exists_mem_of_ne_nil _ silent
    obtain ⟨noNesting, noModifier, noFormat⟩ := silent_beside_element found
    rw [noNesting, noModifier, noFormat, List.length_nil]
    omega

/-- The findings of a name come in the order of the rules, two of them at most about elements and
one of each other kind. Beside one about elements there is none about nesting or modifiers; beside
the one about a low line there is one about the block. So there are four at most, and never do the
rules about elements and about modifiers speak of the same name. -/
theorem findings_of_one_name (name : Text) :
    ((checkAll name).map (·.rule)).Sublist
      [.noElementNesting, .blockName, .elementDelimiter, .elementDelimiter, .modifierDelimiter,
        .modifierFormat] ∧
    (∀ v ∈ checkAll name, v.rule = .elementDelimiter → ∀ w ∈ checkAll name,
      w.rule ≠ .noElementNesting ∧ w.rule ≠ .modifierDelimiter ∧ w.rule ≠ .modifierFormat) ∧
    (lowLineElement name ∈ checkAll name → ∃ w ∈ checkAll name, w.rule = .blockName) ∧
    (checkAll name).length ≤ 4 ∧
    (checkElement name = [] ∨ checkModifier name = []) := by
  have beside : ∀ v ∈ checkAll name, v.rule = .elementDelimiter → v ∈ checkElement name := by
    intro v found rule
    rw [mem_checkAll_iff, rule] at found
    exact found
  refine ⟨map_rule_checkAll_sublist name all, ?_, ?_, length_checkAll_le name, ?_⟩
  · intro v found rule w found'
    obtain ⟨nesting, modifier, format⟩ := silent_beside_element (beside v found rule)
    rw [mem_checkAll_iff] at found'
    refine ⟨?_, ?_, ?_⟩ <;> intro rule' <;> rw [rule'] at found'
    · simp [check, nesting] at found'
    · simp [check, modifier] at found'
    · simp [check, format] at found'
  · intro found
    have block := checkBlock_beside_lowLine (beside _ found rfl)
    obtain ⟨w, among⟩ := List.exists_mem_of_ne_nil _ block
    replace among : w ∈ check .blockName name := among
    have rule := rule_of_mem_check among
    exact ⟨w, (mem_checkAll_iff name w).mpr (rule ▸ among), rule⟩
  · by_cases silent : checkElement name = []
    · exact .inl silent
    · obtain ⟨v, found⟩ := List.exists_mem_of_ne_nil _ silent
      exact .inr (silent_beside_element found).2.1

example : (checkAll "Tabs__head_on__x--".toList).map (·.rule) =
    [.noElementNesting, .blockName, .modifierDelimiter, .modifierFormat] := by decide

end BemLint.Rule
