import BemLint.Proofs.ClassName.Kebab
import BemLint.Proofs.Text.Pieces
import BemLint.Rule.Check

/-!
# Names in the convention

Names made of kebab-case parts in the four forms of the convention. With a delimiter such a name is
accepted by every rule. A bare block is accepted or gets one finding, which depends on the number
of its hyphens and on its first character, and the advice of that finding is a name with a
delimiter.
-/
namespace BemLint.Rule
open ClassName (Kebab KebabWord isKebabChar isKebabChar_hyphen isKebabChar_lowLine)
open Text (NoPair)

theorem checkAll_eq (name : Text) :
    checkAll name = checkNesting name ++ (checkBlock name ++ (checkElement name ++
      (checkModifier name ++ checkModifierFormat name))) := by
  simp [checkAll, all, check]

/-! ## What each rule lets pass -/

theorem checkNesting_eq_nil_iff (name : Text) :
    checkNesting name = [] ↔ (ClassName.elementParts name).length ≤ 2 := by
  unfold checkNesting
  split
  next first second third rest e => simp [e]
  next few =>
    match e : ClassName.elementParts name with
    | [] | [_] | [_, _] => simp
    | first :: second :: third :: rest => exact absurd e (few first second third rest)

theorem checkBlock_eq_nil_iff (name : Text) :
    checkBlock name = [] ↔ Kebab (ClassName.dropFinalFeed (ClassName.block name)) := by
  rw [← ClassName.isKebab_iff, checkBlock]
  split
  next kebab => simp [kebab]
  next other => simp [other]

theorem checkElement_delimited (name : Text)
    (delimited : ClassName.hasElement name = true ∨ ClassName.hasModifier name = true) :
    checkElement name = [] := by
  rcases delimited with has | has <;> simp [checkElement, has]

theorem checkModifier_eq_nil_iff (name : Text) :
    checkModifier name = [] ↔ hasLowLineModifier name = false ∧ isTwoPartKebab name = false := by
  cases low : hasLowLineModifier name <;> cases two : isTwoPartKebab name <;>
    simp [checkModifier, low, two]

theorem checkModifierFormat_eq_nil (name : Text)
    (filled : ∀ left right rest, ClassName.modifierParts name = left :: right :: rest →
      left ≠ [] ∧ right ≠ []) : checkModifierFormat name = [] := by
  unfold checkModifierFormat
  split
  next left right rest e =>
    obtain ⟨left?, right?⟩ := filled left right rest e
    simp [left?, right?]
  · rfl

/-- Text without a low line in front changes nothing about the low lines behind it. -/
theorem hasLowLineModifier_append (s t : Text) (absent : '_' ∉ s) :
    hasLowLineModifier (s ++ t) = hasLowLineModifier t := by
  induction s with
  | nil => rfl
  | cons a s ih =>
    simp only [List.mem_cons, not_or] at absent
    have next := ih absent.2
    cases e : s ++ t with
    | nil =>
      have empty : t = [] := (List.append_eq_nil_iff.mp e).2
      rw [List.cons_append, e, empty]
      rfl
    | cons b rest =>
      rw [e] at next
      rw [List.cons_append, e, hasLowLineModifier, next]
      simp [Ne.symm absent.1]

theorem hasLowLineModifier_absent (s : Text) (absent : '_' ∉ s) :
    hasLowLineModifier s = false := by
  have whole := hasLowLineModifier_append s [] absent
  rwa [List.append_nil] at whole

theorem hasInnerLowLine_absent (s : Text) (absent : '_' ∉ s) : hasInnerLowLine s = false := by
  rw [hasInnerLowLine, List.any_eq_false]
  intro c member
  have inside := List.mem_of_mem_drop (List.dropLast_subset _ member)
  rw [decide_eq_true_eq]
  rintro rfl
  exact absent inside

/-- A hyphen ends every text behind a delimiter, so what is on its two sides is looked at apart. -/
theorem hasLowLineModifier_hyphen (s t : Text) :
    hasLowLineModifier (s ++ '-' :: t) = (hasLowLineModifier s || hasLowLineModifier t) := by
  have front : ∀ u, unbroken (u ++ '-' :: t) = unbroken u := by
    intro u
    induction u with
    | nil => rfl
    | cons c u ih => simp_all [unbroken, List.takeWhile_cons]
  have behind : hasLowLineModifier ('-' :: t) = hasLowLineModifier t :=
    hasLowLineModifier_append ['-'] t (by decide)
  fun_induction hasLowLineModifier s with
  | case1 a b rest ih =>
    rw [List.cons_append, List.cons_append, hasLowLineModifier, front, ← List.cons_append, ih,
      Bool.or_assoc]
  | case2 s short =>
    match s with
    | [] => exact behind
    | [a] =>
      rw [List.singleton_append, hasLowLineModifier, behind]
      simp
    | a :: b :: rest => exact absurd rfl (short a b rest)

/-- One delimiter and no other low line are no low-line modifier. -/
theorem hasLowLineModifier_element (s t : Text) (left : '_' ∉ s) (right : '_' ∉ t) :
    hasLowLineModifier (s ++ '_' :: '_' :: t) = false := by
  have front : '_' ∉ unbroken t := fun member => right (List.takeWhile_subset _ member)
  rw [hasLowLineModifier_append s _ left, hasLowLineModifier, hasInnerLowLine_absent _ front]
  cases t with
  | nil => rfl
  | cons b t =>
    have differ : b ≠ '_' := by
      rintro rfl
      exact right (by simp)
    rw [hasLowLineModifier, hasLowLineModifier_absent _ right]
    simp [differ]

/-- Two words in kebab case have one hyphen and no low line. -/
theorem isTwoPartKebab_iff (name : Text) :
    isTwoPartKebab name = true ↔
      ∃ left right, ClassName.dropFinalFeed name = left ++ '-' :: right ∧ KebabWord left ∧
        KebabWord right := by
  constructor
  · intro accepted
    unfold isTwoPartKebab at accepted
    split at accepted
    next left right e =>
      have whole := Text.join_splitAt '-' (ClassName.dropFinalFeed name)
      rw [e] at whole
      simp only [Bool.and_eq_true, Bool.not_eq_true', List.isEmpty_eq_false_iff,
        List.all_eq_true] at accepted
      obtain ⟨⟨⟨nonempty, nonempty'⟩, chars⟩, chars'⟩ := accepted
      exact ⟨left, right, by simpa [Text.join] using whole.symm, ⟨nonempty, chars⟩,
        ⟨nonempty', chars'⟩⟩
    · contradiction
  · rintro ⟨left, right, whole, isWord, isWord'⟩
    have parts : Text.splitAt '-' (ClassName.dropFinalFeed name) = [left, right] := by
      rw [whole, Text.splitAt_append _ _ _ (isWord.notMem isKebabChar_hyphen),
        Text.splitAt_absent _ _ (isWord'.notMem isKebabChar_hyphen)]
    have nonempty := isWord.nonempty
    have nonempty' := isWord'.nonempty
    simp only [isTwoPartKebab, parts, Bool.and_eq_true, Bool.not_eq_true',
      List.isEmpty_eq_false_iff, List.all_eq_true]
    exact ⟨⟨⟨nonempty, nonempty'⟩, isWord.chars⟩, isWord'.chars⟩

theorem isTwoPartKebab_counts (name : Text) (accepted : isTwoPartKebab name = true) :
    '_' ∉ name ∧ name.count '-' = 1 := by
  obtain ⟨left, right, whole, isWord, isWord'⟩ := (isTwoPartKebab_iff name).mp accepted
  have lowLines := ClassName.count_dropFinalFeed '_' name (by decide)
  have hyphens := ClassName.count_dropFinalFeed '-' name (by decide)
  rw [whole] at lowLines hyphens
  constructor
  · rw [← List.count_eq_zero, ← lowLines, List.count_eq_zero]
    simp [isWord.notMem isKebabChar_lowLine, isWord'.notMem isKebabChar_lowLine]
  · rw [← hyphens, List.count_append, List.count_cons_self, isWord.count_hyphen,
      isWord'.count_hyphen]

theorem isTwoPartKebab_delimited (name : Text) (delimited : '_' ∈ name ∨ 2 ≤ name.count '-') :
    isTwoPartKebab name = false := by
  rw [Bool.eq_false_iff]
  intro accepted
  obtain ⟨absent, one⟩ := isTwoPartKebab_counts name accepted
  rcases delimited with member | many
  · exact absent member
  · omega

/-! ## Names with a delimiter -/

section Delimited

variable {b e m : Text}

theorem checkBlock_delimited (d : Char) (t : Text) (delimiter : d = '_' ∨ d = '-')
    (kebab : Kebab b) : checkBlock (b ++ d :: d :: t) = [] := by
  have other : isKebabChar d = false := by
    rcases delimiter with rfl | rfl <;> decide
  have lowLines := Text.noPair_of_notMem '_' b (kebab.notMem isKebabChar_lowLine (by decide))
  have block := ClassName.block_pair d b t delimiter lowLines kebab.noPair
    (kebab.getLast?_ne other)
  rw [checkBlock_eq_nil_iff, block,
    ClassName.dropFinalFeed_eq b (kebab.getLast?_ne ClassName.isKebabChar_feed)]
  exact kebab

theorem elementParts_absent (s : Text) (absent : '_' ∉ s) : ClassName.elementParts s = [s] :=
  Text.splitAtPair_single '_' s (Text.noPair_of_notMem '_' s absent)

theorem elementParts_element (s t : Text) (left : '_' ∉ s) (right : '_' ∉ t) :
    ClassName.elementParts (s ++ '_' :: '_' :: t) = [s, t] := by
  have last : s.getLast? ≠ some '_' := fun last => left (List.mem_of_getLast? last)
  have cut := Text.splitAtPair_pair '_' s t (Text.noPair_of_notMem '_' s left) last
  have rest := elementParts_absent t right
  rw [ClassName.elementParts] at rest
  rw [ClassName.elementParts, cut, rest]

theorem modifierParts_modifier (s : Text) (noPair : NoPair '-' s) (last : s.getLast? ≠ some '-')
    (kebab : Kebab m) : ClassName.modifierParts (s ++ '-' :: '-' :: m) = [s, m] := by
  rw [ClassName.modifierParts, Text.splitAtPair_pair '-' s m noPair last,
    Text.splitAtPair_single '-' m kebab.noPair]

theorem noPair_element (left : Kebab b) (right : Kebab e) : NoPair '-' (b ++ '_' :: '_' :: e) := by
  have lines : NoPair '-' ['_', '_'] := Text.noPair_of_notMem '-' _ (by decide)
  have behind : NoPair '-' (['_', '_'] ++ e) :=
    Text.noPair_append _ _ _ lines right.noPair (.inr (right.head?_ne isKebabChar_hyphen))
  exact Text.noPair_append _ b _ left.noPair behind (.inl (left.getLast?_ne isKebabChar_hyphen))

theorem checkModifier_silent (name : Text) (delimited : '_' ∈ name ∨ 2 ≤ name.count '-')
    (calm : hasLowLineModifier name = false) : checkModifier name = [] :=
  (checkModifier_eq_nil_iff name).mpr ⟨calm, isTwoPartKebab_delimited name delimited⟩

theorem getLast?_append_kebab (s : Text) (kebab : Kebab e) {d : Char}
    (other : isKebabChar d = false) : (s ++ e).getLast? ≠ some d := by
  rw [List.getLast?_append_of_ne_nil _ kebab.nonempty]
  exact kebab.getLast?_ne other

/-- Behind a block and a delimiter, text without delimiters is a matter of the rule about modifiers
alone. -/
theorem checkAll_elementText (t : Text) (left : Kebab b) (lowLines : NoPair '_' t)
    (hyphens : NoPair '-' (b ++ '_' :: '_' :: t)) :
    checkAll (b ++ '_' :: '_' :: t) = checkModifier (b ++ '_' :: '_' :: t) := by
  have absent := left.notMem isKebabChar_lowLine (by decide)
  have parts : ClassName.elementParts (b ++ '_' :: '_' :: t) = [b, t] := by
    rw [ClassName.elementParts, Text.splitAtPair_pair '_' b t (Text.noPair_of_notMem '_' b absent)
      (left.getLast?_ne isKebabChar_lowLine), Text.splitAtPair_single '_' t lowLines]
  have single : ClassName.modifierParts (b ++ '_' :: '_' :: t) = [b ++ '_' :: '_' :: t] :=
    Text.splitAtPair_single _ _ hyphens
  have nesting := (checkNesting_eq_nil_iff (b ++ '_' :: '_' :: t)).mpr (by simp [parts])
  have block := checkBlock_delimited '_' t (.inl rfl) left
  have element := checkElement_delimited (b ++ '_' :: '_' :: t)
    (.inl (by simp [ClassName.hasElement, parts]))
  have format := checkModifierFormat_eq_nil (b ++ '_' :: '_' :: t) (by simp [single])
  rw [checkAll_eq, nesting, block, element, format, List.append_nil]
  rfl

/-- A block with an element. -/
theorem checkAll_element (left : Kebab b) (right : Kebab e) :
    checkAll (b ++ '_' :: '_' :: e) = [] := by
  have absent := left.notMem isKebabChar_lowLine (by decide)
  have absent' := right.notMem isKebabChar_lowLine (by decide)
  rw [checkAll_elementText e left (Text.noPair_of_notMem '_' e absent')
    (noPair_element left right)]
  exact checkModifier_silent _ (.inl (by simp))
    (hasLowLineModifier_element b e absent absent')

/-- What a modifier adds to a block or to a block with an element. -/
theorem checkAll_modifier (s : Text) (right : Kebab m) (noPair : NoPair '-' s)
    (last : s.getLast? ≠ some '-') (nonempty : s ≠ [])
    (block : checkBlock (s ++ '-' :: '-' :: m) = [])
    (nesting : (ClassName.elementParts (s ++ '-' :: '-' :: m)).length ≤ 2)
    (calm : hasLowLineModifier (s ++ '-' :: '-' :: m) = false) :
    checkAll (s ++ '-' :: '-' :: m) = [] := by
  have parts := modifierParts_modifier s noPair last right
  have nesting := (checkNesting_eq_nil_iff _).mpr nesting
  have element := checkElement_delimited (s ++ '-' :: '-' :: m)
    (.inr (by simp [ClassName.hasModifier, parts]))
  have many : 2 ≤ (s ++ '-' :: '-' :: m).count '-' := by
    simp only [List.count_append, List.count_cons_self]
    omega
  have modifier := checkModifier_silent _ (.inr many) calm
  have format := checkModifierFormat_eq_nil (s ++ '-' :: '-' :: m) fun first second rest e => by
    rw [parts] at e
    cases e
    exact ⟨nonempty, right.nonempty⟩
  rw [checkAll_eq, nesting, block, element, modifier, format]
  rfl

/-- A block with a modifier. -/
theorem checkAll_blockModifier (left : Kebab b) (right : Kebab m) :
    checkAll (b ++ '-' :: '-' :: m) = [] := by
  have absent := left.notMem isKebabChar_lowLine (by decide)
  have absent' := right.notMem isKebabChar_lowLine (by decide)
  have none : '_' ∉ b ++ '-' :: '-' :: m := by simp [absent, absent']
  refine checkAll_modifier b right left.noPair (left.getLast?_ne isKebabChar_hyphen)
    left.nonempty (checkBlock_delimited '-' m (.inr rfl) left) ?_
    (hasLowLineModifier_absent _ none)
  rw [elementParts_absent _ none]
  simp

/-- A block with an element and a modifier. -/
theorem checkAll_elementModifier (left : Kebab b) (middle : Kebab e) (right : Kebab m) :
    checkAll (b ++ '_' :: '_' :: (e ++ '-' :: '-' :: m)) = [] := by
  have absent := left.notMem isKebabChar_lowLine (by decide)
  have absent' := middle.notMem isKebabChar_lowLine (by decide)
  have absent'' := right.notMem isKebabChar_lowLine (by decide)
  have none : '_' ∉ e ++ '-' :: '-' :: m := by simp [absent', absent'']
  have last : (b ++ '_' :: '_' :: e).getLast? ≠ some '-' := by
    simpa using getLast?_append_kebab (b ++ ['_', '_']) middle isKebabChar_hyphen
  have whole := checkAll_modifier (b ++ '_' :: '_' :: e) right (noPair_element left middle) last
    (by simp)
  rw [List.append_assoc, List.cons_append, List.cons_append] at whole
  apply whole
  · exact checkBlock_delimited '_' (e ++ '-' :: '-' :: m) (.inl rfl) left
  · rw [elementParts_element b _ absent none]
    simp
  · exact hasLowLineModifier_element b _ absent none

end Delimited

/-! ## Bare blocks -/

section Bare

variable {b : Text}

theorem isTwoPartKebab_kebab (kebab : Kebab b) :
    isTwoPartKebab b = true ↔ b.count '-' = 1 := by
  rw [isTwoPartKebab_iff,
    ClassName.dropFinalFeed_eq b (kebab.getLast?_ne ClassName.isKebabChar_feed)]
  constructor
  · rintro ⟨left, right, rfl, isWord, isWord'⟩
    rw [List.count_append, List.count_cons_self, isWord.count_hyphen, isWord'.count_hyphen]
  · intro one
    cases kebab with
    | word isWord =>
      have none := isWord.count_hyphen
      omega
    | @join w rest isWord more =>
      rw [List.count_append, List.count_cons_self, isWord.count_hyphen] at one
      cases more with
      | word isWord' => exact ⟨w, rest, rfl, isWord, isWord'⟩
      | join isWord' more' =>
        rw [List.count_append, List.count_cons_self] at one
        omega

theorem checkBlock_kebab (kebab : Kebab b) : checkBlock b = [] := by
  have noPair := Text.noPair_of_notMem '_' b (kebab.notMem isKebabChar_lowLine (by decide))
  rw [checkBlock_eq_nil_iff, ClassName.block_single b noPair kebab.noPair,
    ClassName.dropFinalFeed_eq b (kebab.getLast?_ne ClassName.isKebabChar_feed)]
  exact kebab

/-- The findings about a bare block are those on its hyphens. -/
theorem checkAll_bare (kebab : Kebab b) :
    checkAll b = (if isHyphenChain b then [hyphenElement b] else []) ++
      (if b.count '-' = 1 then [hyphenModifier b] else []) := by
  have absent := kebab.notMem isKebabChar_lowLine (by decide)
  have parts := elementParts_absent b absent
  have single : ClassName.modifierParts b = [b] := Text.splitAtPair_single '-' b kebab.noPair
  have nesting := (checkNesting_eq_nil_iff b).mpr (by simp [parts])
  have format := checkModifierFormat_eq_nil b (by simp [single])
  have element : checkElement b = if isHyphenChain b then [hyphenElement b] else [] := by
    simp [checkElement, ClassName.hasElement, ClassName.hasModifier, parts, single, absent]
  have modifier : checkModifier b = if b.count '-' = 1 then [hyphenModifier b] else [] := by
    simp [checkModifier, hasLowLineModifier_absent b absent, isTwoPartKebab_kebab kebab]
  rw [checkAll_eq, nesting, checkBlock_kebab kebab, element, modifier, format]
  simp

/-- A block with a hyphen, cut at its first one. -/
theorem exists_cut (kebab : Kebab b) (some : 0 < b.count '-') :
    ∃ w rest, b = w ++ '-' :: rest ∧ KebabWord w ∧ Kebab rest := by
  cases kebab with
  | word isWord =>
    have none := isWord.count_hyphen
    omega
  | @join w rest isWord more => exact ⟨w, rest, rfl, isWord, more⟩

/-- The advice to mark an element is followed by no further advice. -/
theorem checkAll_hyphenElement (kebab : Kebab b) (some : 0 < b.count '-') :
    checkAll (hyphenElement b).suggestion = [] := by
  obtain ⟨w, rest, rfl, isWord, more⟩ := exists_cut kebab some
  have advice : (hyphenElement (w ++ '-' :: rest)).suggestion = w ++ '_' :: '_' :: rest :=
    Text.replaceFirst_append '-' ['_', '_'] w rest (isWord.notMem isKebabChar_hyphen)
  rw [advice]
  exact checkAll_element (.word isWord) more

/-- The advice to mark a modifier is followed by no further advice. -/
theorem checkAll_hyphenModifier (kebab : Kebab b) (some : 0 < b.count '-') :
    checkAll (hyphenModifier b).suggestion = [] := by
  obtain ⟨w, rest, rfl, isWord, more⟩ := exists_cut kebab some
  have advice : (hyphenModifier (w ++ '-' :: rest)).suggestion = w ++ '-' :: '-' :: rest :=
    Text.replaceFirst_append '-' ['-', '-'] w rest (isWord.notMem isKebabChar_hyphen)
  rw [advice]
  exact checkAll_blockModifier (.word isWord) more

end Bare

def BeginsWithLetter (name : Text) : Prop := ∃ c rest, name = c :: rest ∧ 'a' ≤ c ∧ c ≤ 'z'

def BeginsWithDigit (name : Text) : Prop := ∃ c rest, name = c :: rest ∧ '0' ≤ c ∧ c ≤ '9'

theorem isHyphenChain_letter (name : Text) (letter : BeginsWithLetter name) :
    isHyphenChain name = decide (2 ≤ name.count '-') := by
  obtain ⟨c, rest, rfl, low, high⟩ := letter
  simp [isHyphenChain, low, high]

theorem isHyphenChain_digit (name : Text) (digit : BeginsWithDigit name) :
    isHyphenChain name = false := by
  obtain ⟨c, rest, rfl, low, high⟩ := digit
  have small : ¬ 'a' ≤ c := by
    intro letter
    have := Char.le_trans letter high
    exact absurd this (by decide)
  simp [isHyphenChain, small]

/-- Names of kebab-case parts with delimiters have no finding. A bare block has none without a
hyphen, or with several after a digit at its front. With one hyphen it is advised to mark a modifier
and with several after a letter to mark an element, once, and a name that follows the advice has no
finding. -/
theorem conforming_names_settle (b e m : Text) (block : Kebab b) (element : Kebab e)
    (modifier : Kebab m) :
    checkAll (b ++ ['_', '_'] ++ e) = [] ∧
    checkAll (b ++ ['-', '-'] ++ m) = [] ∧
    checkAll (b ++ ['_', '_'] ++ e ++ ['-', '-'] ++ m) = [] ∧
    (b.count '-' = 0 → checkAll b = []) ∧
    (2 ≤ b.count '-' → BeginsWithDigit b → checkAll b = []) ∧
    (b.count '-' = 1 →
      ∃ v, checkAll b = [v] ∧ v.rule = .modifierDelimiter ∧ checkAll v.suggestion = []) ∧
    (2 ≤ b.count '-' → BeginsWithLetter b →
      ∃ v, checkAll b = [v] ∧ v.rule = .elementDelimiter ∧ checkAll v.suggestion = []) := by
  have bare := checkAll_bare block
  have few : b.count '-' < 2 → isHyphenChain b = false := by
    intro less
    simp only [isHyphenChain, Bool.and_eq_false_iff, decide_eq_false_iff_not]
    omega
  refine ⟨?_, ?_, ?_, fun none => ?_, fun many digit => ?_, fun one => ?_, fun many letter => ?_⟩
  · simpa using checkAll_element block element
  · simpa using checkAll_blockModifier block modifier
  · simpa using checkAll_elementModifier block element modifier
  · rw [bare, few (by omega), none]
    rfl
  · rw [bare, isHyphenChain_digit b digit, if_neg (show ¬ b.count '-' = 1 from by omega)]
    rfl
  · refine ⟨hyphenModifier b, ?_, rfl, checkAll_hyphenModifier block (by omega)⟩
    rw [bare, few (by omega), one]
    rfl
  · refine ⟨hyphenElement b, ?_, rfl, checkAll_hyphenElement block (by omega)⟩
    rw [bare, isHyphenChain_letter b letter, if_neg (show ¬ b.count '-' = 1 from by omega)]
    simp [many]

theorem conforming_names_settle_profileCard :
    Kebab "profile-card".toList ∧ Kebab "title".toList ∧ Kebab "large".toList ∧
    checkAll ("profile-card".toList ++ ['_', '_'] ++ "title".toList ++ ['-', '-'] ++
      "large".toList) = [] ∧
    ∃ v, checkAll "profile-card".toList = [v] ∧ v.rule = .modifierDelimiter ∧
      checkAll v.suggestion = [] := by
  have block : Kebab "profile-card".toList := (ClassName.isKebab_iff _).mp (by decide)
  have element : Kebab "title".toList := (ClassName.isKebab_iff _).mp (by decide)
  have modifier : Kebab "large".toList := (ClassName.isKebab_iff _).mp (by decide)
  obtain ⟨_, _, full, _, _, one, _⟩ := conforming_names_settle _ _ _ block element modifier
  exact ⟨block, element, modifier, full, one (by decide)⟩

end BemLint.Rule
