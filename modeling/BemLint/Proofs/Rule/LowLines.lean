import BemLint.Proofs.Rule.Clean

/-!
# Low lines as modifiers

What the rule about modifiers has against a low line behind an element delimiter. `HoldsModifier`
says where such a low line stands: text without hyphens and white space joins it to the delimiter and
follows it. Nothing keeps that text from holding low lines itself, so a second delimiter is reported
like a single low line. A hyphen in that text ends it, so an element of several words hides its
modifier.
-/
namespace BemLint.Rule
open ClassName (Kebab KebabWord isKebabChar isKebabChar_hyphen isKebabChar_lowLine)
open Text (NoPair HasPair HasTwoPairs)

/-! ## Low lines that are found -/

/-- Neither hyphens nor white space. -/
def Unbroken (s : Text) : Prop := ∀ c ∈ s, c ≠ '-' ∧ Text.isBlank c = false

/-- Behind some two low lines a low line has text on both sides that is unbroken up to there. -/
def HoldsModifier (name : Text) : Prop :=
  ∃ before element modifier after,
    name = before ++ '_' :: '_' :: (element ++ '_' :: (modifier ++ after)) ∧
      element ≠ [] ∧ modifier ≠ [] ∧ Unbroken element ∧ Unbroken modifier

/-- Behind some two low lines there is one that is not next to another. -/
def HasLoneLowLine (name : Text) : Prop :=
  ∃ before middle after, name = before ++ '_' :: '_' :: (middle ++ '_' :: after) ∧
    middle ≠ [] ∧ middle.getLast? ≠ some '_' ∧ after.head? ≠ some '_'

theorem unbroken_append (s t : Text) (free : Unbroken s) : unbroken (s ++ t) = s ++ unbroken t := by
  refine List.takeWhile_append_of_pos fun c member => ?_
  simp [(free c member).1, (free c member).2]

theorem unbroken_unbroken (s : Text) : Unbroken (unbroken s) := by
  intro c member
  have passed := List.all_eq_true.mp List.all_takeWhile c member
  simpa using passed

theorem hasLowLineModifier_iff_holds (name : Text) :
    hasLowLineModifier name = true ↔ HoldsModifier name := by
  rw [hasLowLineModifier_iff]
  constructor
  · rintro ⟨before, behind, rfl, inner⟩
    obtain ⟨first, inside, last, whole, member⟩ := (hasInnerLowLine_iff _).mp inner
    -- The inner low line parts the unbroken text into an element and a modifier.
    obtain ⟨left, right, rfl⟩ := List.append_of_mem member
    have free := unbroken_unbroken behind
    rw [whole] at free
    obtain ⟨rest, cut⟩ : ∃ rest, behind = unbroken behind ++ rest :=
      ⟨_, List.takeWhile_append_dropWhile.symm⟩
    refine ⟨before, first :: left, right ++ [last], rest, ?_, by simp, by simp, ?_, ?_⟩
    · rw [whole] at cut
      simp [cut]
    · exact fun c member => free c (by simp at member ⊢; tauto)
    · exact fun c member => free c (by simp at member ⊢; tauto)
  · rintro ⟨before, element, modifier, after, rfl, filled, filled', free, free'⟩
    refine ⟨before, _, rfl, ?_⟩
    have lowLine : Unbroken ['_'] := by
      intro c member
      obtain rfl := List.mem_singleton.mp member
      decide
    have run : unbroken (element ++ '_' :: (modifier ++ after)) =
        element ++ ('_' :: (modifier ++ unbroken after)) := by
      rw [unbroken_append _ _ free, ← unbroken_append _ after free']
      exact congrArg (element ++ ·) (unbroken_append ['_'] _ lowLine)
    obtain ⟨first, left, rfl⟩ := List.exists_cons_of_ne_nil filled
    have more : modifier ++ unbroken after ≠ [] := by simp [filled']
    obtain ⟨right, last, ending⟩ := (List.eq_nil_or_concat _).resolve_left more
    rw [run, hasInnerLowLine_iff, ending]
    exact ⟨first, left ++ '_' :: right, last, by simp, by simp⟩

theorem mem_checkModifier_iff (name : Text) (v : Violation) :
    v ∈ checkModifier name ↔ hasLowLineModifier name = true ∧ v = lowLineModifier name ∨
      isTwoPartKebab name = true ∧ v = hyphenModifier name := by
  cases low : hasLowLineModifier name <;> cases two : isTwoPartKebab name <;>
    simp [checkModifier, low, two]

theorem lowLineModifier_mem_iff (name : Text) :
    lowLineModifier name ∈ checkModifier name ↔ HoldsModifier name := by
  have differ : lowLineModifier name ≠ hyphenModifier name := by
    intro same
    have messages := congrArg Violation.message same
    simp only [lowLineModifier, hyphenModifier] at messages
    revert messages
    decide
  simp [mem_checkModifier_iff, differ, hasLowLineModifier_iff_holds]

/-! ## Nested elements -/

/-- A low line that is found is next to no other, unless there is a second delimiter. -/
theorem HoldsModifier.lone_or_nested {name : Text} (holds : HoldsModifier name) :
    HasLoneLowLine name ∨ HasTwoPairs '_' name := by
  obtain ⟨before, element, modifier, after, rfl, filled, -, -, -⟩ := holds
  by_cases pair : HasPair '_' (element ++ '_' :: (modifier ++ after))
  · obtain ⟨left, right, cut⟩ := pair
    exact .inr ⟨before, left, right, by rw [cut]⟩
  · refine .inl ⟨before, element, modifier ++ after, rfl, filled, fun last => ?_, fun head => ?_⟩
    · obtain ⟨front, rfl⟩ := List.getLast?_eq_some_iff.mp last
      exact pair ⟨front, modifier ++ after, by simp⟩
    · obtain ⟨rest, cut⟩ := List.head?_eq_some_iff.mp head
      exact pair ⟨element, rest, by rw [cut]⟩

/-- A low line that is next to no other is in a part of the name between its delimiters. -/
theorem HasLoneLowLine.inPart {name : Text} (lone : HasLoneLowLine name) :
    ∃ part ∈ ClassName.elementParts name, '_' ∈ part := by
  obtain ⟨before, middle, after, rfl, filled, last, head⟩ := lone
  have front : (before ++ '_' :: '_' :: middle).getLast? ≠ some '_' := by
    obtain ⟨c, rest, rfl⟩ := List.exists_cons_of_ne_nil filled
    simpa using last
  have inside := Text.mem_splitAtPair_of_lone '_' (before ++ '_' :: '_' :: middle) after front head
  simpa [ClassName.elementParts] using inside

/-- The rule finds a low line just where `HoldsModifier` says. One that is next to no other stands
behind a delimiter then, or elements are nested in the name and the rule against that speaks too. -/
theorem low_line_findings_exact (name : Text) :
    (lowLineModifier name ∈ checkModifier name ↔ HoldsModifier name) ∧
      (lowLineModifier name ∈ checkModifier name →
        HasLoneLowLine name ∨ checkNesting name ≠ []) := by
  refine ⟨lowLineModifier_mem_iff name, fun found => ?_⟩
  rw [Ne, checkNesting_pairs, not_not]
  exact ((lowLineModifier_mem_iff name).mp found).lone_or_nested

/-- Of a name with no low lines but those of its two delimiters the rule says that a low line joins
a modifier. -/
theorem second_delimiter_found :
    lowLineModifier "block__elem__sub".toList ∈ checkModifier "block__elem__sub".toList ∧
    (∀ part ∈ ClassName.elementParts "block__elem__sub".toList, '_' ∉ part) ∧
    ¬ HasLoneLowLine "block__elem__sub".toList := by
  have parts : ∀ part ∈ ClassName.elementParts "block__elem__sub".toList, '_' ∉ part := by decide
  refine ⟨by decide, parts, fun lone => ?_⟩
  obtain ⟨part, member, inside⟩ := lone.inPart
  exact parts part member inside

/-! ## Elements with a low line behind them -/

/-- What the advice makes of a name is settled by its last low line. -/
theorem hyphenateLastLowLine_append (before last : Text) (filled : last ≠ []) (none : '_' ∉ last) :
    hyphenateLastLowLine (before ++ '_' :: last) = before ++ '-' :: '-' :: last := by
  obtain ⟨c, more, e⟩ := List.exists_cons_of_ne_nil (List.reverse_ne_nil_iff.mpr filled)
  unfold hyphenateLastLowLine
  rw [Text.takeWhile_last '_' before last none, Text.dropWhile_last '_' before last none, e]
  show before.reverse.reverse ++ ['-', '-'] ++ (c :: more).reverse = _
  rw [← e]
  simp

theorem hasLowLineModifier_noPair (s : Text) (lowLines : NoPair '_' s) :
    hasLowLineModifier s = false := by
  rw [Bool.eq_false_iff]
  intro found
  obtain ⟨before, after, whole, -⟩ := (hasLowLineModifier_iff s).mp found
  exact lowLines.not_hasPair ⟨before, after, whole⟩

section Elements

variable {b e m : Text}

theorem unbroken_kebab (element : Kebab e) (plain : '-' ∉ e) : Unbroken e := by
  intro c member
  rcases element.chars c member with kebab | rfl
  · exact ⟨fun same => plain (same ▸ member), ClassName.isBlank_kebabChar kebab⟩
  · exact absurd member plain

/-- Parts in kebab case stay apart behind one low line. -/
theorem noPair_lowLine (element : Kebab e) (modifier : Kebab m) : NoPair '_' (e ++ '_' :: m) := by
  have absent := element.notMem isKebabChar_lowLine (by decide)
  have absent' := modifier.notMem isKebabChar_lowLine (by decide)
  have behind : NoPair '_' (['_'] ++ m) :=
    Text.noPair_append _ _ _ (.singleton _) (Text.noPair_of_notMem '_' m absent')
      (.inr (modifier.head?_ne isKebabChar_lowLine))
  exact Text.noPair_append _ e _ (Text.noPair_of_notMem '_' e absent) behind
    (.inl (element.getLast?_ne isKebabChar_lowLine))

/-- No hyphen stands between the delimiter and the low line, so the pattern finds a modifier. -/
theorem hasLowLineModifier_plain (b : Text) (element : Kebab e) (plain : '-' ∉ e)
    (modifier : Kebab m) : hasLowLineModifier (b ++ '_' :: '_' :: (e ++ '_' :: m)) = true := by
  obtain ⟨c, rest, rfl, first⟩ := modifier.exists_head
  have differ : c ≠ '-' := by
    rintro rfl
    simp [isKebabChar_hyphen] at first
  have free : Unbroken [c] := by
    intro d member
    obtain rfl := List.mem_singleton.mp member
    exact ⟨differ, ClassName.isBlank_kebabChar first⟩
  rw [hasLowLineModifier_iff_holds]
  exact ⟨b, e, [c], rest, rfl, element.nonempty, by simp, unbroken_kebab element plain, free⟩

/-- A hyphen in the element hides the low line behind it. -/
theorem hasLowLineModifier_hyphenated (block : Kebab b) (element : Kebab e) (hyphen : '-' ∈ e)
    (modifier : Kebab m) : hasLowLineModifier (b ++ '_' :: '_' :: (e ++ '_' :: m)) = false := by
  -- In front of the first hyphen there is no low line but the delimiter, behind it no delimiter.
  obtain ⟨word, rest, rfl, isWord, more⟩ := exists_cut element (List.count_pos_iff.mpr hyphen)
  have front : hasLowLineModifier (b ++ '_' :: '_' :: word) = false :=
    hasLowLineModifier_element b word (block.notMem isKebabChar_lowLine (by decide))
      (isWord.notMem isKebabChar_lowLine)
  have behind := hasLowLineModifier_noPair _ (noPair_lowLine more modifier)
  have cut := hasLowLineModifier_hyphen (b ++ '_' :: '_' :: word) (rest ++ '_' :: m)
  rw [front, behind] at cut
  simpa using cut

/-- One low line behind the element leaves the name to the rule about modifiers, and there to the
question whether the low line is found. -/
theorem checkAll_elementLowLine (block : Kebab b) (element : Kebab e) (modifier : Kebab m) :
    checkAll (b ++ '_' :: '_' :: (e ++ '_' :: m)) =
      if hasLowLineModifier (b ++ '_' :: '_' :: (e ++ '_' :: m)) then
        [lowLineModifier (b ++ '_' :: '_' :: (e ++ '_' :: m))] else [] := by
  have hyphens : NoPair '-' (b ++ '_' :: '_' :: (e ++ '_' :: m)) := by
    have whole := Text.noPair_between (by decide : '_' ≠ '-') (noPair_element block element)
      modifier.noPair
    simpa using whole
  have twoPart : isTwoPartKebab (b ++ '_' :: '_' :: (e ++ '_' :: m)) = false :=
    isTwoPartKebab_delimited _ (.inl (by simp))
  rw [checkAll_elementText _ block (noPair_lowLine element modifier) hyphens, checkModifier,
    twoPart]
  simp

/-- A low line that joins a modifier to an element is found unless there is a hyphen in the element.
The finding is the only one, and its advice is a name in the convention; with a hyphen in the
element there is no finding at all. -/
theorem element_low_line_found (b e m : Text) (block : Kebab b) (element : Kebab e)
    (modifier : Kebab m) :
    ('-' ∉ e → ∃ v, checkAll (b ++ ['_', '_'] ++ e ++ ['_'] ++ m) = [v] ∧
      v.rule = .modifierDelimiter ∧ v.suggestion = b ++ ['_', '_'] ++ e ++ ['-', '-'] ++ m ∧
      checkAll v.suggestion = []) ∧
    ('-' ∈ e → checkAll (b ++ ['_', '_'] ++ e ++ ['_'] ++ m) = []) := by
  have name : b ++ ['_', '_'] ++ e ++ ['_'] ++ m = b ++ '_' :: '_' :: (e ++ '_' :: m) := by simp
  have advised : b ++ ['_', '_'] ++ e ++ ['-', '-'] ++ m =
      b ++ '_' :: '_' :: (e ++ '-' :: '-' :: m) := by simp
  have findings := checkAll_elementLowLine block element modifier
  rw [name, advised]
  constructor
  · intro plain
    rw [hasLowLineModifier_plain b element plain modifier] at findings
    have absent := modifier.notMem isKebabChar_lowLine (by decide)
    have advice : (lowLineModifier (b ++ '_' :: '_' :: (e ++ '_' :: m))).suggestion =
        b ++ '_' :: '_' :: (e ++ '-' :: '-' :: m) := by
      have cut := hyphenateLastLowLine_append (b ++ '_' :: '_' :: e) m modifier.nonempty absent
      simpa [lowLineModifier] using cut
    refine ⟨_, findings, rfl, advice, ?_⟩
    rw [advice]
    exact checkAll_elementModifier block element modifier
  · intro hyphen
    rw [hasLowLineModifier_hyphenated block element hyphen modifier] at findings
    exact findings

theorem element_low_line_found_icon :
    Kebab "button".toList ∧ Kebab "icon".toList ∧ Kebab "extra-large".toList ∧
    ∃ v, checkAll "button__icon_extra-large".toList = [v] ∧ v.rule = .modifierDelimiter ∧
      v.suggestion = "button__icon--extra-large".toList ∧ checkAll v.suggestion = [] := by
  have block : Kebab "button".toList := (ClassName.isKebab_iff _).mp (by decide)
  have element : Kebab "icon".toList := (ClassName.isKebab_iff _).mp (by decide)
  have modifier : Kebab "extra-large".toList := (ClassName.isKebab_iff _).mp (by decide)
  exact ⟨block, element, modifier,
    (element_low_line_found _ _ _ block element modifier).1 (by decide)⟩

/-- Nothing is said of a low line behind an element of two words. -/
theorem hyphenated_element_passes :
    Kebab "card".toList ∧ Kebab "main-title".toList ∧ Kebab "large".toList ∧
    checkAll ("card".toList ++ ['_', '_'] ++ "main-title".toList ++ ['_'] ++ "large".toList) = [] :=
  ⟨(ClassName.isKebab_iff _).mp (by decide), (ClassName.isKebab_iff _).mp (by decide),
    (ClassName.isKebab_iff _).mp (by decide), by decide⟩

end Elements

end BemLint.Rule
