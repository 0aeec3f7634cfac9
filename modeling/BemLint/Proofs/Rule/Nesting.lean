import BemLint.Proofs.Rule.Findings
import BemLint.Proofs.Text.Replacing

/-!
# Nested elements

A name nests elements when it has two element delimiters or more that do not overlap. The advice is
to keep the first of them and to write a hyphen for each of the others, taken from the left. All
that comes before the first delimiter is left alone, so the block is the same, and behind it no
pair of low lines remains or arises. A name of nested kebab-case parts becomes a name in the
convention in this way.
-/
namespace BemLint.Rule
open ClassName (Kebab isKebabChar_hyphen isKebabChar_lowLine)
open Text (NoPair HasPair HasTwoPairs FirstPair)

/-! ## The advice -/

/-- How the advice is made of a name: of the delimiters all but the one behind `left` become
hyphens. -/
structure Flattens (name advice left right : Text) : Prop where
  first : FirstPair '_' name left right
  advice : advice = left ++ ['_', '_'] ++ Text.replace ['_', '_'] ['-'] right

theorem checkNesting_nested {name : Text} (nested : HasTwoPairs '_' name) :
    ∃ v left right, checkNesting name = [v] ∧ Flattens name v.suggestion left right := by
  obtain ⟨left, right, first⟩ := nested.hasPair.exists_first
  have pieces : 2 ≤ (Text.splitAtPair '_' right).length := by
    rwa [Text.two_le_length_splitAtPair, ← first.hasTwoPairs_iff]
  match e : Text.splitAtPair '_' right, pieces with
  | second :: third :: rest, _ =>
    have parts : ClassName.elementParts name = left :: second :: third :: rest := by
      rw [ClassName.elementParts, first.splitAtPair, e]
    have behind : Text.replace ['_', '_'] ['-'] right =
        second ++ (third :: rest).flatMap fun part => '-' :: part := by
      rw [Text.replace_pair, e, Text.join_flatMap]
      rfl
    rw [checkNesting, parts]
    refine ⟨_, left, right, rfl, first, ?_⟩
    rw [behind, List.append_assoc]

section Flattened

variable {name advice left right : Text} (flattens : Flattens name advice left right)

include flattens

/-- The delimiter that was the first of the name is the first of the advice. -/
theorem Flattens.firstPair :
    FirstPair '_' advice left (Text.replace ['_', '_'] ['-'] right) :=
  ⟨by simp [flattens.advice], flattens.first.noPair, flattens.first.last⟩

theorem Flattens.hasPair : HasPair '_' advice := ⟨_, _, flattens.firstPair.whole⟩

theorem Flattens.not_hasTwoPairs : ¬ HasTwoPairs '_' advice := by
  rw [flattens.firstPair.hasTwoPairs_iff]
  exact (Text.noPair_replace (by decide) right).not_hasPair

theorem Flattens.block : ClassName.block advice = ClassName.block name := by
  rw [flattens.firstPair.whole, flattens.first.whole]
  exact ClassName.block_behind '_' left _ _ (.inl rfl)

end Flattened

/-- What the rule about blocks finds depends on the block, up to the name in the finding. -/
theorem checkBlock_of_block {s t : Text} (same : ClassName.block s = ClassName.block t) :
    checkBlock s = (checkBlock t).map fun v => { v with original := s } := by
  simp only [checkBlock, same]
  split <;> rfl

/-- There is a finding just where two element delimiters do not overlap. Its advice replaces all
delimiters but the first by hyphens, has one delimiter therefore and nothing more to be found, and
the rule about blocks judges it as it judges the name. -/
theorem nesting_advice_exact (name : Text) :
    ((∃ v, checkNesting name = [v]) ↔ HasTwoPairs '_' name) ∧
    (¬ HasTwoPairs '_' name → checkNesting name = []) ∧
    ∀ v ∈ checkNesting name,
      (∃ left right, FirstPair '_' name left right ∧
        v.suggestion = left ++ ['_', '_'] ++ Text.replace ['_', '_'] ['-'] right) ∧
      HasPair '_' v.suggestion ∧ ¬ HasTwoPairs '_' v.suggestion ∧ v.suggestion ≠ name ∧
      checkNesting v.suggestion = [] ∧
      ClassName.block v.suggestion = ClassName.block name ∧
      checkBlock v.suggestion =
        (checkBlock name).map fun w => { w with original := v.suggestion } := by
  have silent : ¬ HasTwoPairs '_' name → checkNesting name = [] := (checkNesting_pairs name).mpr
  refine ⟨⟨?_, fun nested => ?_⟩, silent, fun v found => ?_⟩
  · rintro ⟨v, one⟩
    by_contra none
    simp [silent none] at one
  · obtain ⟨v, left, right, one, -⟩ := checkNesting_nested nested
    exact ⟨v, one⟩
  · have nested : HasTwoPairs '_' name := by
      by_contra none
      simp [silent none] at found
    obtain ⟨w, left, right, one, flattens⟩ := checkNesting_nested nested
    obtain rfl : v = w := by simpa [one] using found
    have single := flattens.not_hasTwoPairs
    refine ⟨⟨left, right, flattens.first, flattens.advice⟩, flattens.hasPair, single, ?_,
      (checkNesting_pairs _).mpr single, flattens.block, checkBlock_of_block flattens.block⟩
    rintro same
    exact single (same.symm ▸ nested)

example : (checkNesting "grid_____cell--on__x".toList).map (·.suggestion) =
    ["grid__-_cell--on-x".toList] := by decide

/-! ## Nested names in kebab case -/

def modifierEnd : Option Text → Text
  | none => []
  | some m => ['-', '-'] ++ m

/-- The name of elements one in another, with a modifier or without. -/
def nestedName (block : Text) (elements : List Text) (modifier : Option Text) : Text :=
  Text.join ['_', '_'] (block :: elements) ++ modifierEnd modifier

/-- The name of one element whose words are the elements. -/
def flatName (block : Text) (elements : List Text) (modifier : Option Text) : Text :=
  block ++ ['_', '_'] ++ Text.join ['-'] elements ++ modifierEnd modifier

section Names

variable {block : Text} {elements : List Text} {modifier : Option Text}

theorem lowLine_notMem_modifierEnd (kebab : ∀ m ∈ modifier, Kebab m) :
    '_' ∉ modifierEnd modifier := by
  cases modifier with
  | none => exact List.not_mem_nil
  | some m =>
    have absent := (kebab m rfl).notMem isKebabChar_lowLine (by decide)
    simp [modifierEnd, absent]

theorem nestedName_firstPair (isBlock : Kebab block) (some : elements ≠ []) :
    FirstPair '_' (nestedName block elements modifier) block
      (Text.join ['_', '_'] elements ++ modifierEnd modifier) := by
  have absent := isBlock.notMem isKebabChar_lowLine (by decide)
  refine ⟨?_, Text.noPair_of_notMem '_' block absent, isBlock.getLast?_ne isKebabChar_lowLine⟩
  rw [nestedName, Text.join_cons _ _ some]
  simp

theorem nestedName_nested (isBlock : Kebab block) (several : 2 ≤ elements.length) :
    HasTwoPairs '_' (nestedName block elements modifier) := by
  match elements, several with
  | first :: second :: rest, _ =>
    rw [(nestedName_firstPair isBlock (by simp)).hasTwoPairs_iff, Text.join_cons _ _ (by simp)]
    exact ⟨first, Text.join ['_', '_'] (second :: rest) ++ modifierEnd modifier, by simp⟩

/-- The advice on such a name makes one element of its elements. -/
theorem Flattens.nestedName {advice left right : Text}
    (flattens : Flattens (nestedName block elements modifier) advice left right)
    (isBlock : Kebab block) (some : elements ≠ []) (areElements : ∀ e ∈ elements, Kebab e)
    (isModifier : ∀ m ∈ modifier, Kebab m) : advice = flatName block elements modifier := by
  have free : ∀ e ∈ elements, '_' ∉ e := fun e member =>
    (areElements e member).notMem isKebabChar_lowLine (by decide)
  obtain ⟨rfl, rfl⟩ := flattens.first.unique (nestedName_firstPair isBlock some)
  rw [flattens.advice, Text.replace_join '_' ['-'] elements _ some free
    (lowLine_notMem_modifierEnd isModifier), flatName, List.append_assoc _ _ (modifierEnd modifier)]

theorem checkAll_flatName (isBlock : Kebab block) (some : elements ≠ [])
    (areElements : ∀ e ∈ elements, Kebab e) (isModifier : ∀ m ∈ modifier, Kebab m) :
    checkAll (flatName block elements modifier) = [] := by
  have element := ClassName.kebab_join elements some areElements
  cases modifier with
  | none =>
    simpa [flatName, modifierEnd] using checkAll_element isBlock element
  | some m =>
    simpa [flatName, modifierEnd] using checkAll_elementModifier isBlock element (isModifier m rfl)

end Names

/-- Of two or more elements that are nested below a block, all in kebab case, there is one finding
of the rule against it. Its advice joins the elements with hyphens and keeps the modifier, and no
rule has anything against that name. -/
theorem nested_elements_flatten (block : Text) (elements : List Text) (modifier : Option Text)
    (isBlock : Kebab block) (several : 2 ≤ elements.length) (areElements : ∀ e ∈ elements, Kebab e)
    (isModifier : ∀ m ∈ modifier, Kebab m) :
    ∃ v, (checkAll (nestedName block elements modifier)).filter (·.rule = .noElementNesting) = [v] ∧
      v.suggestion = flatName block elements modifier ∧ checkAll v.suggestion = [] := by
  have some : elements ≠ [] := List.ne_nil_of_length_pos (by omega)
  have nested : HasTwoPairs '_' (nestedName block elements modifier) :=
    nestedName_nested isBlock several
  obtain ⟨v, left, right, one, flattens⟩ := checkNesting_nested nested
  have advice := flattens.nestedName isBlock some areElements isModifier
  refine ⟨v, ?_, advice, ?_⟩
  · rw [filter_checkAll, check, one]
  · rw [advice]
    exact checkAll_flatName isBlock some areElements isModifier

theorem nested_elements_flatten_list :
    Kebab "side-menu".toList ∧
    (∀ e ∈ ["list".toList, "item".toList, "call-to-action".toList], Kebab e) ∧
    Kebab "active".toList ∧
    ∃ v, (checkAll "side-menu__list__item__call-to-action--active".toList).filter
        (·.rule = .noElementNesting) = [v] ∧
      v.suggestion = "side-menu__list-item-call-to-action--active".toList ∧
      checkAll v.suggestion = [] := by
  have block : Kebab "side-menu".toList := (ClassName.isKebab_iff _).mp (by decide)
  have elements : ∀ e ∈ ["list".toList, "item".toList, "call-to-action".toList], Kebab e := by
    simp only [← ClassName.isKebab_iff]
    decide
  have modifier : Kebab "active".toList := (ClassName.isKebab_iff _).mp (by decide)
  refine ⟨block, elements, modifier, ?_⟩
  exact nested_elements_flatten _ _ (some "active".toList) block (by decide) elements
    fun m same => Option.some.inj same ▸ modifier

end BemLint.Rule
