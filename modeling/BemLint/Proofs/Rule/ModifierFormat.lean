import BemLint.Proofs.Rule.Findings
import BemLint.Proofs.Text.Replacing
import Mathlib.Logic.Relation

/-!
# Modifier delimiters with nothing on one side

The rule about the format of modifiers looks at the first delimiter of a name. What it has against
a later one it only says when it is given the text behind an earlier one, so a name passes when
its first delimiter has something on both sides, however the others stand. A name has an empty
part just where the rule speaks of the name or of what follows one of its delimiters.
-/
namespace BemLint.Rule
open Text (NoPair HasPair FirstPair)
open Relation (ReflTransGen)

/-- A delimiter has nothing on one side, where the side behind it reaches to the next one. -/
def LacksSide (left right : Text) : Prop :=
  left = [] ∨ right = [] ∨ ∃ rest, right = '-' :: '-' :: rest

/-- What follows the first modifier delimiter of a name. -/
def Behind (name rest : Text) : Prop := ∃ left, FirstPair '-' name left rest

theorem checkModifierFormat_cases (name : Text) :
    checkModifierFormat name = [] ∨ ∃ v, checkModifierFormat name = [v] := by
  unfold checkModifierFormat
  split
  · split
    · exact .inl rfl
    · exact .inr ⟨_, rfl⟩
  · exact .inl rfl

theorem speaks_iff {name left right : Text} (first : FirstPair '-' name left right) :
    checkModifierFormat name ≠ [] ↔ LacksSide left right := by
  rw [Ne, checkModifierFormat_firstPair first, LacksSide, not_and_or, not_and_or, not_not, not_not,
    not_not]

/-- One step along the delimiters: the rule speaks behind some of them when it speaks of the name or
behind some that follow the first. -/
theorem speaks_behind_iff {name left right : Text} (first : FirstPair '-' name left right) :
    (∃ t, ReflTransGen Behind name t ∧ checkModifierFormat t ≠ []) ↔
      LacksSide left right ∨ ∃ t, ReflTransGen Behind right t ∧ checkModifierFormat t ≠ [] := by
  rw [← speaks_iff first]
  constructor
  · rintro ⟨t, walk, speaks⟩
    rcases ReflTransGen.cases_head_iff.mp walk with rfl | ⟨rest, ⟨left', first'⟩, more⟩
    · exact .inl speaks
    · obtain ⟨-, rfl⟩ := first.unique first'
      exact .inr ⟨t, more, speaks⟩
  · rintro (speaks | ⟨t, more, speaks⟩)
    · exact ⟨name, .refl, speaks⟩
    · exact ⟨t, .head ⟨left, first⟩ more, speaks⟩

/-- Of a text without delimiters the rule is silent, and nothing follows one. -/
theorem silent_behind {name : Text} (noPair : NoPair '-' name) :
    ¬ ∃ t, ReflTransGen Behind name t ∧ checkModifierFormat t ≠ [] := by
  rintro ⟨t, walk, speaks⟩
  rcases ReflTransGen.cases_head_iff.mp walk with rfl | ⟨rest, ⟨left, first⟩, -⟩
  · exact speaks (checkModifierFormat_noPair noPair)
  · exact noPair.not_hasPair ⟨left, rest, first.whole⟩

theorem nil_mem_modifierParts_iff (name : Text) :
    [] ∈ ClassName.modifierParts name ↔
      name = [] ∨ ∃ t, ReflTransGen Behind name t ∧ checkModifierFormat t ≠ [] := by
  unfold ClassName.modifierParts
  induction name using Text.pairInduction (d := '-') with
  | single name noPair =>
    rw [Text.splitAtPair_single '-' name noPair, List.mem_singleton,
      or_iff_left (silent_behind noPair), eq_comm]
  | pair name left right first ih =>
    have filled : name ≠ [] := by simp [first.whole]
    rw [first.splitAtPair, List.mem_cons, ih, or_iff_right filled, speaks_behind_iff first,
      LacksSide]
    -- A delimiter at the very front of what follows is one that the rule speaks of there.
    have next : (∃ rest, right = '-' :: '-' :: rest) →
        ∃ t, ReflTransGen Behind right t ∧ checkModifierFormat t ≠ [] := by
      rintro ⟨rest, rfl⟩
      have front : FirstPair '-' ('-' :: '-' :: rest) [] rest := ⟨rfl, .nil, by simp⟩
      exact ⟨_, .refl, (speaks_iff front).mpr (.inl rfl)⟩
    constructor
    · rintro (front | empty | behind)
      · exact .inl (.inl front.symm)
      · exact .inl (.inr (.inl empty))
      · exact .inr behind
    · rintro ((front | empty | pair) | behind)
      · exact .inl front.symm
      · exact .inr (.inl empty)
      · exact .inr (.inr (next pair))
      · exact .inr (.inr behind)

/-- In a name with a modifier delimiter there is one finding when the first delimiter has nothing
on one side, and none otherwise. Some part of the name is empty just when the rule speaks of the
name or of what follows one of its delimiters. -/
theorem modifier_format_exact (name : Text) (has : HasPair '-' name) :
    (∃ left right, FirstPair '-' name left right ∧
      ((∃ v, checkModifierFormat name = [v]) ↔ LacksSide left right) ∧
      (checkModifierFormat name = [] ↔ ¬ LacksSide left right)) ∧
    ([] ∈ ClassName.modifierParts name ↔
      ∃ t, ReflTransGen Behind name t ∧ checkModifierFormat t ≠ []) := by
  obtain ⟨left, right, first⟩ := has.exists_first
  have speaks := speaks_iff first
  have filled : name ≠ [] := by simp [first.whole]
  refine ⟨⟨left, right, first, ?_, by rw [← speaks, not_not]⟩, ?_⟩
  · rw [← speaks]
    rcases checkModifierFormat_cases name with none | ⟨v, one⟩
    · simp [none]
    · simp [one]
  · rw [nil_mem_modifierParts_iff, or_iff_right filled]

theorem modifier_format_exact_secondModifier :
    HasPair '-' "card--large--".toList ∧ checkModifierFormat "card--large--".toList = [] ∧
    ∃ t, ReflTransGen Behind "card--large--".toList t ∧ checkModifierFormat t ≠ [] := by
  have has : HasPair '-' "card--large--".toList := ⟨"card".toList, "large--".toList, by decide⟩
  exact ⟨has, by decide, (modifier_format_exact _ has).2.mp (by decide)⟩

/-- The last part of a name is empty and there is no finding. -/
theorem later_side_missed :
    HasPair '-' "block--mod--".toList ∧ [] ∈ ClassName.modifierParts "block--mod--".toList ∧
    checkModifierFormat "block--mod--".toList = [] :=
  ⟨⟨"block".toList, "mod--".toList, by decide⟩, by decide, by decide⟩

end BemLint.Rule
