import BemLint.Proofs.ClassName.Gaps
import BemLint.Proofs.Rule.ModifierFormat
import BemLint.Proofs.Rule.Proposals

/-!
# Advice that settles its own rule

Taking the advice of a rule leaves nothing that the same rule would find. The rule about elements
puts a delimiter in, and it passes every name that has one. The rule about the format of modifiers
writes a delimiter with text on both sides; what it keeps in front of it does not end in a hyphen,
so the name is cut at that delimiter again. The advice of the rule about blocks is in kebab case if
the gaps between the words of the block are, and the rule has nothing against a name in kebab case.
-/
namespace BemLint.Rule
open ClassName (Kebab Hyphenable)
open Text (HasPair FirstPair)

/-! ## Elements -/

theorem lowLineElement_hasPair {name : Text} (some : '_' ∈ name) :
    HasPair '_' (lowLineElement name).suggestion := by
  obtain ⟨before, after, rfl⟩ := List.append_of_mem some
  refine ⟨Text.replaceChar '_' ['_', '_'] before, Text.replaceChar '_' ['_', '_'] after, ?_⟩
  simp [lowLineElement, Text.replaceChar]

theorem hyphenElement_hasPair {name : Text} (some : '-' ∈ name) :
    HasPair '_' (hyphenElement name).suggestion := by
  obtain ⟨before, after, rfl, absent⟩ := List.eq_append_cons_of_mem some
  exact ⟨before, after, hyphenElement_suggestion before after absent⟩

/-- Both kinds of advice put an element delimiter in. -/
theorem checkElement_hasPair {name : Text} {v : Violation} (found : v ∈ checkElement name) :
    HasPair '_' v.suggestion := by
  obtain ⟨-, -, ⟨chain, rfl⟩ | ⟨some, rfl⟩⟩ := (mem_checkElement_iff name v).mp found
  · exact hyphenElement_hasPair (hyphen_mem_of_chain chain)
  · exact lowLineElement_hasPair some

theorem checkElement_repairs {name : Text} {v : Violation} (found : v ∈ checkElement name) :
    v.suggestion ≠ name ∧ checkElement v.suggestion = [] := by
  have has := checkElement_hasPair found
  constructor
  · intro same
    exact ((mem_checkElement_iff name v).mp found).1 (same ▸ has)
  · exact checkElement_delimited v.suggestion (.inl ((hasElement_iff v.suggestion).mpr has))

/-! ## Modifiers -/

/-- Text in front of a delimiter that a modifier is put behind. -/
theorem firstPair_modifier {name left right : Text} (first : FirstPair '-' name left right) :
    FirstPair '-' (left ++ "--modifier".toList) left "modifier".toList :=
  ⟨rfl, first.noPair, first.last⟩

theorem checkModifierFormat_modifier {left : Text}
    (first : FirstPair '-' (left ++ "--modifier".toList) left "modifier".toList)
    (filled : left ≠ []) : checkModifierFormat (left ++ "--modifier".toList) = [] := by
  rw [checkModifierFormat_firstPair first]
  refine ⟨filled, by decide, ?_⟩
  rintro ⟨rest, begins⟩
  exact absurd (List.cons.inj begins).1 (by decide)

theorem checkModifierFormat_repairs {name : Text} {v : Violation}
    (found : v ∈ checkModifierFormat name) :
    v.suggestion ≠ name ∧ checkModifierFormat v.suggestion = [] := by
  have settled : checkModifierFormat v.suggestion = [] := by
    obtain ⟨left, right, first⟩ := firstPair_of_mem_checkModifierFormat found
    rcases suggestion_of_mem_checkModifierFormat first found with ⟨filled, advice⟩ | ⟨-, advice⟩
    · rw [advice]
      exact checkModifierFormat_modifier (firstPair_modifier first) filled
    · rw [advice]
      decide
  refine ⟨?_, settled⟩
  intro same
  rw [same] at settled
  simp [settled] at found

theorem checkModifierFormat_keeps {name left right : Text} (first : FirstPair '-' name left right)
    (filled : left ≠ []) (lacks : LacksSide left right) :
    ∃ v, checkModifierFormat name = [v] ∧ v.suggestion = left ++ "--modifier".toList ∧
      FirstPair '-' v.suggestion left "modifier".toList := by
  obtain ⟨v, one⟩ := (checkModifierFormat_cases name).resolve_left ((speaks_iff first).mpr lacks)
  have found : v ∈ checkModifierFormat name := by simp [one]
  obtain ⟨-, advice⟩ := (suggestion_of_mem_checkModifierFormat first found).resolve_right
    fun empty => filled empty.1
  exact ⟨v, one, advice, advice ▸ firstPair_modifier first⟩

/-- The advice of the rules about elements and about the format of modifiers is another name, which
the same rule has nothing against. Where only the side behind the first modifier delimiter is empty,
up to the next delimiter or the end, the advice keeps what stands before it. -/
theorem own_advice_settles (name : Text) :
    (∀ v ∈ checkElement name, v.suggestion ≠ name ∧ checkElement v.suggestion = []) ∧
    (∀ v ∈ checkModifierFormat name,
      v.suggestion ≠ name ∧ checkModifierFormat v.suggestion = []) ∧
    ∀ left right, FirstPair '-' name left right → left ≠ [] →
      (right = [] ∨ ∃ rest, right = '-' :: '-' :: rest) →
      ∃ v, checkModifierFormat name = [v] ∧ v.suggestion = left ++ "--modifier".toList ∧
        FirstPair '-' v.suggestion left "modifier".toList :=
  ⟨fun _ found => checkElement_repairs found, fun _ found => checkModifierFormat_repairs found,
    fun _ _ first filled empty => checkModifierFormat_keeps first filled (.inr empty)⟩

example : (checkModifierFormat "card_-----x".toList).map (·.suggestion) =
    ["card_--modifier".toList] := by decide

/-! ## Blocks -/

theorem checkBlock_repairs {name : Text} (ascii : ∀ c ∈ name, c.toNat < 128)
    (fit : Hyphenable (ClassName.block name)) {v : Violation} (found : v ∈ checkBlock name) :
    checkBlock v.suggestion = [] := by
  have front : ∀ c ∈ ClassName.block name, c.toNat < 128 := by
    intro c member
    obtain ⟨rest, whole⟩ := block_prefix name
    apply ascii
    rw [whole]
    exact List.mem_append_left rest member
  rw [suggestion_of_mem_checkBlock found]
  exact checkBlock_kebab ((ClassName.kebab_toKebab_iff front).mpr fit)

/-- A text of ASCII characters is rewritten to kebab case just when it begins and ends with a letter
or digit and each longest stretch between its words is a single hyphen, or low lines and white space
only. Where the block of a name is such a text the rule about blocks accepts its own advice. -/
theorem block_advice_settles (name : Text) (ascii : ∀ c ∈ name, c.toNat < 128) :
    (Kebab (ClassName.toKebab name) ↔ Hyphenable name) ∧
    (Hyphenable (ClassName.block name) → ∀ v ∈ checkBlock name, checkBlock v.suggestion = []) :=
  ⟨ClassName.kebab_toKebab_iff ascii, fun fit _ found => checkBlock_repairs ascii fit found⟩

theorem block_advice_settles_mixedCase :
    (∀ c ∈ "mainNav_2Bar-Item".toList, c.toNat < 128) ∧
    Hyphenable "mainNav_2Bar-Item".toList ∧
    (∃ v ∈ checkBlock "mainNav_2Bar-Item".toList,
      v.suggestion = "main-nav-2-bar-item".toList ∧ checkBlock v.suggestion = []) ∧
    ¬ Hyphenable "main-_Nav".toList := by
  have ascii : ∀ c ∈ "mainNav_2Bar-Item".toList, c.toNat < 128 := by
    have all : "mainNav_2Bar-Item".toList.all (·.toNat < 128) = true := by decide
    simpa only [List.all_eq_true, decide_eq_true_eq] using all
  have ascii' : ∀ c ∈ "main-_Nav".toList, c.toNat < 128 := by
    have all : "main-_Nav".toList.all (·.toNat < 128) = true := by decide
    simpa only [List.all_eq_true, decide_eq_true_eq] using all
  have whole : ClassName.block "mainNav_2Bar-Item".toList = "mainNav_2Bar-Item".toList := by decide
  have form : ClassName.toKebab "mainNav_2Bar-Item".toList = "main-nav-2-bar-item".toList := by
    decide +kernel
  have kebab : Kebab (ClassName.toKebab "mainNav_2Bar-Item".toList) := by
    rw [form, ← ClassName.isKebab_iff]
    decide
  have other : ¬ Kebab (ClassName.toKebab "main-_Nav".toList) := by
    rw [← ClassName.isKebab_iff]
    decide +kernel
  have fit := (block_advice_settles _ ascii).1.mp kebab
  have some : checkBlock "mainNav_2Bar-Item".toList ≠ [] := by decide +kernel
  obtain ⟨v, found⟩ := List.exists_mem_of_ne_nil _ some
  refine ⟨ascii, fit, ⟨v, found, ?_, ?_⟩, fun fit' => ?_⟩
  · rw [suggestion_of_mem_checkBlock found, whole, form]
  · exact (block_advice_settles _ ascii).2 (whole.symm ▸ fit) v found
  · exact other ((block_advice_settles _ ascii').1.mpr fit')

end BemLint.Rule
