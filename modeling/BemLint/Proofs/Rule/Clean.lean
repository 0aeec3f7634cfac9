import BemLint.Proofs.Rule.Conforming
import BemLint.Proofs.Text.Words

/-!
# Names without findings

`Clean` describes the names that no rule has anything against, by what stands where in them and
without a word about rules. Each rule is first put into these terms on its own. The rules then agree
with `Clean` because a name without delimiters is its own block, and a name with one is out of reach
of the rules about single hyphens.
-/
namespace BemLint.Rule
open ClassName (Kebab isKebabChar)
open Text (NoPair HasPair HasTwoPairs FirstPair Solid)

/-- The longest beginning of a text without hyphens. -/
def HyphenFreeRun (run s : Text) : Prop :=
  ∃ rest, s = run ++ rest ∧ '-' ∉ run ∧ ∀ c ∈ rest.head?, c = '-'

/-- A low line stands strictly between the first and the last character of a text. -/
def HoldsLowLine (s : Text) : Prop :=
  ∃ first inside last, s = first :: (inside ++ [last]) ∧ '_' ∈ inside

/-- The names that no rule has anything against. -/
structure Clean (name : Text) : Prop where
  block : Kebab (ClassName.block name)
  element : ¬ HasTwoPairs '_' name
  modifier : HasPair '-' name → ∃ left right, FirstPair '-' name left right ∧ left ≠ [] ∧
    right ≠ [] ∧ ¬ ∃ rest, right = '-' :: '-' :: rest
  bare : ¬ HasPair '_' name → ¬ HasPair '-' name →
    '-' ∉ name ∨ BeginsWithDigit name ∧ 2 ≤ name.count '-'
  lowLines : ∀ before after run, name = before ++ '_' :: '_' :: after → HyphenFreeRun run after →
    ¬ HoldsLowLine run

/-! ## Delimiters -/

theorem checkNesting_pairs (name : Text) : checkNesting name = [] ↔ ¬ HasTwoPairs '_' name := by
  rw [checkNesting_eq_nil_iff, ← Text.three_le_length_splitAtPair, ClassName.elementParts]
  omega

theorem hasElement_iff (name : Text) : ClassName.hasElement name = true ↔ HasPair '_' name := by
  rw [← Text.two_le_length_splitAtPair]
  exact decide_eq_true_iff

theorem hasModifier_iff (name : Text) : ClassName.hasModifier name = true ↔ HasPair '-' name := by
  rw [← Text.two_le_length_splitAtPair]
  exact decide_eq_true_iff

theorem checkModifierFormat_parts (name left right : Text) (more : List Text)
    (parts : ClassName.modifierParts name = left :: right :: more) :
    checkModifierFormat name = [] ↔ left ≠ [] ∧ right ≠ [] := by
  cases left <;> cases right <;> simp [checkModifierFormat, parts]

/-- The parts of a name with a modifier delimiter begin with what is in front of the first. -/
theorem modifierParts_firstPair {name left right : Text} (first : FirstPair '-' name left right) :
    ∃ piece pieces, Text.splitAtPair '-' right = piece :: pieces ∧
      ClassName.modifierParts name = left :: piece :: pieces := by
  obtain ⟨piece, pieces, behind⟩ :=
    List.exists_cons_of_ne_nil (Text.splitAtPair_ne_nil '-' right)
  exact ⟨piece, pieces, behind, by rw [ClassName.modifierParts, first.splitAtPair, behind]⟩

theorem checkModifierFormat_noPair {name : Text} (noPair : NoPair '-' name) :
    checkModifierFormat name = [] := by
  have single : ClassName.modifierParts name = [name] := Text.splitAtPair_single '-' name noPair
  exact checkModifierFormat_eq_nil name (by simp [single])

theorem checkModifierFormat_firstPair {name left right : Text}
    (first : FirstPair '-' name left right) :
    checkModifierFormat name = [] ↔
      left ≠ [] ∧ right ≠ [] ∧ ¬ ∃ rest, right = '-' :: '-' :: rest := by
  obtain ⟨piece, pieces, behind, parts⟩ := modifierParts_firstPair first
  rw [checkModifierFormat_parts name left piece pieces parts, Ne, Ne, Text.splitAtPair_head behind,
    not_or]

theorem checkModifierFormat_eq_nil_iff (name : Text) :
    checkModifierFormat name = [] ↔ (HasPair '-' name → ∃ left right,
      FirstPair '-' name left right ∧ left ≠ [] ∧ right ≠ [] ∧
        ¬ ∃ rest, right = '-' :: '-' :: rest) := by
  rcases Text.noPair_or_firstPair '-' name with noPair | ⟨left, right, first⟩
  · exact ⟨fun _ has => absurd has noPair.not_hasPair, fun _ => checkModifierFormat_noPair noPair⟩
  rw [checkModifierFormat_firstPair first]
  constructor
  · exact fun filled _ => ⟨left, right, first, filled⟩
  · intro described
    obtain ⟨left', right', first', filled⟩ := described ⟨left, right, first.whole⟩
    obtain ⟨rfl, rfl⟩ := first.unique first'
    exact filled

/-! ## Low lines -/

theorem hasInnerLowLine_iff (s : Text) : hasInnerLowLine s = true ↔ HoldsLowLine s := by
  unfold hasInnerLowLine HoldsLowLine
  cases s with
  | nil => simp
  | cons first s =>
    rcases s.eq_nil_or_concat with rfl | ⟨inside, last, rfl⟩
    · simp
    · have same : ∀ inside' last', inside ++ [last] = inside' ++ [last'] ↔
          inside = inside' ∧ last = last' := by
        simp
      simp [same]

/-- Every place of two low lines counts, also one across another. -/
theorem hasLowLineModifier_iff (s : Text) :
    hasLowLineModifier s = true ↔ ∃ before after, s = before ++ '_' :: '_' :: after ∧
      hasInnerLowLine (unbroken after) = true := by
  fun_induction hasLowLineModifier s with
  | case1 a b rest ih =>
    rw [Bool.or_eq_true, ih]
    constructor
    · rintro (here | ⟨before, after, e, inner⟩)
      · simp only [Bool.and_eq_true, decide_eq_true_eq] at here
        exact ⟨[], rest, by rw [here.1.1, here.1.2, List.nil_append], here.2⟩
      · exact ⟨a :: before, after, by rw [e, List.cons_append], inner⟩
    · rintro ⟨before, after, e, inner⟩
      cases before with
      | nil =>
        obtain ⟨rfl, rfl, rfl⟩ : a = '_' ∧ b = '_' ∧ rest = after := by simpa using e
        simp [inner]
      | cons c before => exact .inr ⟨before, after, (List.cons.inj e).2, inner⟩
  | case2 s short =>
    refine ⟨by simp, ?_⟩
    rintro ⟨before, after, rfl, -⟩
    cases before with
    | nil => exact absurd rfl (short '_' '_' after)
    | cons c before =>
      cases before with
      | nil => exact absurd rfl (short c '_' ('_' :: after))
      | cons d before => exact absurd rfl (short c d (before ++ '_' :: '_' :: after))

/-- Where there is no white space, only hyphens end a run. -/
theorem hyphenFreeRun_iff (run s : Text) (solid : Solid s) :
    HyphenFreeRun run s ↔ run = unbroken s := by
  constructor
  · rintro ⟨rest, rfl, free, ends⟩
    have passes : ∀ c ∈ run, (c ≠ '-' && !Text.isBlank c) = true := by
      intro c member
      have differ : c ≠ '-' := by
        rintro rfl
        exact free member
      simp [differ, solid c (by simp [member])]
    have stops : rest.takeWhile (fun c => c ≠ '-' && !Text.isBlank c) = [] := by
      cases rest with
      | nil => rfl
      | cons c rest => simp [ends c (by simp)]
    rw [unbroken, List.takeWhile_append_of_pos passes, stops, List.append_nil]
  · rintro rfl
    refine ⟨_, List.takeWhile_append_dropWhile.symm, ?_, ?_⟩
    · intro member
      have passed := List.all_eq_true.mp List.all_takeWhile '-' member
      simp at passed
    · intro c head
      have inside := solid c (List.dropWhile_subset _ (List.mem_of_mem_head? head))
      have failed := List.head?_dropWhile_not (fun c => c ≠ '-' && !Text.isBlank c) s
      rw [head] at failed
      simpa [inside] using failed

theorem hasLowLineModifier_eq_false_iff (name : Text) (solid : Solid name) :
    hasLowLineModifier name = false ↔ ∀ before after run, name = before ++ '_' :: '_' :: after →
      HyphenFreeRun run after → ¬ HoldsLowLine run := by
  rw [← Bool.not_eq_true, hasLowLineModifier_iff]
  constructor
  · rintro none before after run rfl isRun holds
    have rest : Solid after := fun c member => solid c (by simp [member])
    obtain rfl := (hyphenFreeRun_iff run after rest).mp isRun
    exact none ⟨before, after, rfl, (hasInnerLowLine_iff _).mpr holds⟩
  · rintro calm ⟨before, after, rfl, inner⟩
    have rest : Solid after := fun c member => solid c (by simp [member])
    have isRun := (hyphenFreeRun_iff _ after rest).mpr rfl
    exact calm before after _ rfl isRun ((hasInnerLowLine_iff _).mp inner)

/-! ## All rules together -/

theorem block_prefix (name : Text) : ∃ rest, name = ClassName.block name ++ rest := by
  fun_induction ClassName.block name with
  | case1 => exact ⟨[], rfl⟩
  | case2 c => exact ⟨[], rfl⟩
  | case3 a b rest pair => exact ⟨a :: b :: rest, rfl⟩
  | case4 a b rest single ih =>
    obtain ⟨after, e⟩ := ih
    exact ⟨after, by rw [List.cons_append, ← e]⟩

theorem solid_last (s : Text) (solid : Solid s) : s.getLast? ≠ some '\n' := by
  intro last
  have blank := solid '\n' (List.mem_of_getLast? last)
  exact absurd blank (by decide)

/-- In a name without white space no line feed is overlooked. -/
theorem checkBlock_solid (name : Text) (solid : Solid name) :
    checkBlock name = [] ↔ Kebab (ClassName.block name) := by
  obtain ⟨rest, whole⟩ := block_prefix name
  have front : Solid (ClassName.block name) := by
    intro c member
    apply solid
    rw [whole]
    exact List.mem_append_left rest member
  rw [checkBlock_eq_nil_iff, ClassName.dropFinalFeed_eq _ (solid_last _ front)]

/-- A kebab name without delimiters is let pass for its hyphens and its first character. -/
theorem checkAll_bare_eq_nil_iff {name : Text} (kebab : Kebab name) :
    checkAll name = [] ↔ '-' ∉ name ∨ BeginsWithDigit name ∧ 2 ≤ name.count '-' := by
  obtain ⟨c, t, e, head⟩ := kebab.exists_head
  rw [checkAll_bare kebab]
  by_cases one : name.count '-' = 1
  · have some : '-' ∈ name := List.count_pos_iff.mp (by omega)
    simp [one, some]
  by_cases none : name.count '-' = 0
  · have absent : '-' ∉ name := List.count_eq_zero.mp none
    simp [isHyphenChain, none, absent]
  have many : 2 ≤ name.count '-' := by omega
  have some : '-' ∈ name := List.count_pos_iff.mp (by omega)
  simp only [isKebabChar, Bool.or_eq_true, Bool.and_eq_true, decide_eq_true_eq] at head
  rcases head with letter | digit
  · have chain := isHyphenChain_letter name ⟨c, t, e, letter⟩
    have noDigit : ¬ BeginsWithDigit name := by
      intro digit
      have := isHyphenChain_digit name digit
      simp [chain, many] at this
    simp [chain, many, some, noDigit]
  · have isDigit : BeginsWithDigit name := ⟨c, t, e, digit⟩
    simp [isHyphenChain_digit name isDigit, one, many, isDigit]

section Undelimited

variable {name : Text} (lowLines : ¬ HasPair '_' name) (hyphens : ¬ HasPair '-' name)

include lowLines hyphens

/-- A name without delimiters is its own block. -/
theorem block_undelimited : ClassName.block name = name :=
  ClassName.block_single name ((Text.noPair_iff _ _).mpr lowLines)
    ((Text.noPair_iff _ _).mpr hyphens)

theorem checkAll_undelimited (solid : Solid name) :
    checkAll name = [] ↔
      Kebab name ∧ ('-' ∉ name ∨ BeginsWithDigit name ∧ 2 ≤ name.count '-') := by
  have own := block_undelimited lowLines hyphens
  constructor
  · intro passed
    have each := passed
    rw [checkAll_eq] at each
    have block := (List.append_eq_nil_iff.mp (List.append_eq_nil_iff.mp each).2).1
    have kebab := (checkBlock_solid name solid).mp block
    rw [own] at kebab
    exact ⟨kebab, (checkAll_bare_eq_nil_iff kebab).mp passed⟩
  · rintro ⟨kebab, bare⟩
    exact (checkAll_bare_eq_nil_iff kebab).mpr bare

theorem clean_undelimited :
    Clean name ↔ Kebab name ∧ ('-' ∉ name ∨ BeginsWithDigit name ∧ 2 ≤ name.count '-') := by
  have own := block_undelimited lowLines hyphens
  constructor
  · intro clean
    exact ⟨own ▸ clean.block, clean.bare lowLines hyphens⟩
  · rintro ⟨kebab, bare⟩
    refine ⟨own.symm ▸ kebab, fun two => lowLines two.hasPair, fun has => absurd has hyphens,
      fun _ _ => bare, ?_⟩
    · intro before after run whole
      exact absurd ⟨before, after, whole⟩ lowLines

end Undelimited

/-- The rules about single hyphens have nothing to say about a name with a delimiter. -/
theorem checkAll_delimited (name : Text) (solid : Solid name)
    (delimited : HasPair '_' name ∨ HasPair '-' name) :
    checkAll name = [] ↔ checkNesting name = [] ∧ checkBlock name = [] ∧
      hasLowLineModifier name = false ∧ checkModifierFormat name = [] := by
  have element : checkElement name = [] := by
    refine checkElement_delimited name ?_
    rwa [hasElement_iff, hasModifier_iff]
  have reach : '_' ∈ name ∨ 2 ≤ name.count '-' := by
    rcases delimited with ⟨left, right, rfl⟩ | ⟨left, right, rfl⟩
    · exact .inl (by simp)
    · right
      simp only [List.count_append, List.count_cons_self]
      omega
  have twoPart := isTwoPartKebab_delimited name reach
  have modifier : checkModifier name = [] ↔ hasLowLineModifier name = false :=
    (checkModifier_eq_nil_iff name).trans (and_iff_left twoPart)
  simp only [checkAll_eq, List.append_eq_nil_iff, element, modifier, true_and]

theorem clean_delimited (name : Text) (delimited : HasPair '_' name ∨ HasPair '-' name) :
    Clean name ↔ ¬ HasTwoPairs '_' name ∧ Kebab (ClassName.block name) ∧
      (∀ before after run, name = before ++ '_' :: '_' :: after → HyphenFreeRun run after →
        ¬ HoldsLowLine run) ∧
      (HasPair '-' name → ∃ left right, FirstPair '-' name left right ∧ left ≠ [] ∧
        right ≠ [] ∧ ¬ ∃ rest, right = '-' :: '-' :: rest) := by
  constructor
  · intro clean
    exact ⟨clean.element, clean.block, clean.lowLines, clean.modifier⟩
  · rintro ⟨element, block, lowLines, modifier⟩
    refine ⟨block, element, modifier, fun noElement noModifier => ?_, lowLines⟩
    exact absurd delimited (not_or.mpr ⟨noElement, noModifier⟩)

/-- The names without white space that no rule has anything against are those that `Clean`
describes. -/
theorem no_findings_iff_clean (name : Text) (solid : Solid name) :
    checkAll name = [] ↔ Clean name := by
  by_cases delimited : HasPair '_' name ∨ HasPair '-' name
  · rw [checkAll_delimited name solid delimited, clean_delimited name delimited,
      checkNesting_pairs, checkBlock_solid name solid, hasLowLineModifier_eq_false_iff name solid,
      checkModifierFormat_eq_nil_iff]
  · obtain ⟨lowLines, hyphens⟩ := not_or.mp delimited
    rw [checkAll_undelimited lowLines hyphens solid, clean_undelimited lowLines hyphens]

/-- A third low line at a delimiter is let pass, and so is one in a modifier; one inside an element
is not. -/
theorem no_findings_iff_clean_grid :
    Solid "2-grid___cell--is_wide".toList ∧ Clean "2-grid___cell--is_wide".toList ∧
    Solid "grid__cell_wide".toList ∧ ¬ Clean "grid__cell_wide".toList := by
  have solid (name : Text) (all : name.all (fun c => !Text.isBlank c) = true) : Solid name := by
    intro c member
    simpa using List.all_eq_true.mp all c member
  have three : Solid "2-grid___cell--is_wide".toList := solid _ (by decide)
  have inner : Solid "grid__cell_wide".toList := solid _ (by decide)
  refine ⟨three, (no_findings_iff_clean _ three).mp (by decide), inner, fun clean => ?_⟩
  exact absurd ((no_findings_iff_clean _ inner).mpr clean) (by decide)

end BemLint.Rule
