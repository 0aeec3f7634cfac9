import BemLint.Proofs.ClassName.Kebab
import BemLint.Proofs.Text.Case

/-!
# Names rewritten towards kebab case

What the rewriting leaves and what it does not. Each of its three steps takes one kind of character
away, separators, borders inside words and upper case, and brings in nothing that an earlier step
has taken away. A name that holds none of these is left as it is by every step, so a rewritten name
is rewritten to itself.
-/
namespace BemLint.ClassName

/-! ## Kinds of characters -/

def IsSeparator (c : Char) : Prop := c = '_' ∨ Text.isBlank c = true

theorem isCapital_iff (c : Char) : isCapital c = true ↔ 65 ≤ c.toNat ∧ c.toNat ≤ 90 := by
  simp [isCapital, Char.le_def, UInt32.le_iff_toNat_le]

theorem isAlphanum_iff (c : Char) :
    c.isAlphanum = true ↔ isKebabChar c = true ∨ isCapital c = true := by
  have kinds : c.isAlphanum = ((c.isUpper || c.isLower) || c.isDigit) := rfl
  have capital : c.isUpper = decide ('A' ≤ c ∧ c ≤ 'Z') := rfl
  have small : c.isLower = (decide ('a' ≤ c) && decide (c ≤ 'z')) := rfl
  have digit : c.isDigit = (decide ('0' ≤ c) && decide (c ≤ '9')) := rfl
  rw [kinds, capital, small, digit, Bool.or_assoc, Bool.or_comm]
  simp [isKebabChar, isCapital]

theorem toNat_toLower (c : Char) :
    c.toLower.toNat = if isCapital c then c.toNat + 32 else c.toNat := by
  unfold Char.toLower
  split
  next upper =>
    have range : 65 ≤ c.val.toNat ∧ c.val.toNat ≤ 90 := by
      simpa [UInt32.le_iff_toNat_le] using upper
    rw [if_pos ((isCapital_iff c).mpr range)]
    show (c.val + 32).toNat = c.val.toNat + 32
    rw [UInt32.toNat_add]
    show (c.val.toNat + 32) % 2 ^ 32 = c.val.toNat + 32
    omega
  next other =>
    have small : ¬ isCapital c = true := by
      rw [isCapital_iff]
      simpa [UInt32.le_iff_toNat_le] using other
    rw [if_neg small]

theorem isKebabChar_toLower (c : Char) : isKebabChar c.toLower = c.isAlphanum := by
  rw [Bool.eq_iff_iff, isAlphanum_iff, isKebabChar_iff, isKebabChar_iff, isCapital_iff,
    toNat_toLower]
  split
  next capital =>
    rw [isCapital_iff] at capital
    omega
  next other =>
    rw [isCapital_iff] at other
    omega

theorem isKebabChar_notSeparator {c : Char} (kebab : isKebabChar c = true) : ¬ IsSeparator c := by
  rintro (rfl | blank)
  · simp [isKebabChar_lowLine] at kebab
  · simp [isBlank_kebabChar kebab] at blank

theorem isAlphanum_notSeparator {c : Char} (letter : c.isAlphanum = true) : ¬ IsSeparator c := by
  rcases (isAlphanum_iff c).mp letter with kebab | capital
  · exact isKebabChar_notSeparator kebab
  · rw [isCapital_iff] at capital
    rintro (rfl | blank)
    · exact absurd capital (by decide)
    · simp [Text.isBlank] at blank
      omega

/-- Only capitals are changed, and they are letters. -/
theorem toLower_foreign {c : Char} (foreign : c.isAlphanum = false) : c.toLower = c := by
  have small : ¬ isCapital c = true := by
    intro capital
    simp [(isAlphanum_iff c).mpr (.inr capital)] at foreign
  rw [← Char.toNat_inj, toNat_toLower, if_neg small]

theorem hyphen_notSeparator : ¬ IsSeparator '-' := by
  rintro (same | blank)
  · exact absurd same (by decide)
  · exact absurd blank (by decide)

/-- A capital has another lower-case form. -/
theorem isCapital_lower {c : Char} (lower : Text.lowerChar c = c) : isCapital c = false := by
  rw [Bool.eq_false_iff]
  intro capital
  have range := (isCapital_iff c).mp capital
  have form := toNat_toLower c
  rw [if_pos capital, ← Text.lowerChar_ascii (by omega), lower] at form
  omega

/-! ## Separators -/

theorem mem_hyphenateRuns {inRun : Bool} {c : Char} {s : Text}
    (member : c ∈ hyphenateRuns inRun s) : c = '-' ∨ c ∈ s ∧ ¬ IsSeparator c := by
  have later {d : Char} {rest : Text} : c = '-' ∨ c ∈ rest ∧ ¬ IsSeparator c →
      c = '-' ∨ c ∈ d :: rest ∧ ¬ IsSeparator c :=
    Or.imp_right fun inside => ⟨List.mem_cons_of_mem d inside.1, inside.2⟩
  fun_induction hyphenateRuns inRun s with
  | case1 => contradiction
  | case2 d rest gap ih => exact later (ih member)
  | case3 inRun d rest gap more ih =>
    rcases List.mem_cons.mp member with same | behind
    · exact .inl same
    · exact later (ih behind)
  | case4 inRun d rest solid ih =>
    rcases List.mem_cons.mp member with rfl | behind
    · exact .inr ⟨List.mem_cons_self .., by simpa [IsSeparator] using solid⟩
    · exact later (ih behind)

theorem hyphenateRuns_separator {c : Char} (separator : IsSeparator c) (s : Text) (inRun : Bool) :
    hyphenateRuns inRun (c :: s) =
      if inRun then hyphenateRuns true s else '-' :: hyphenateRuns true s := by
  rw [hyphenateRuns, if_pos (by simpa [IsSeparator] using separator)]

theorem hyphenateRuns_other {c : Char} (other : ¬ IsSeparator c) (s : Text) (inRun : Bool) :
    hyphenateRuns inRun (c :: s) = c :: hyphenateRuns false s := by
  rw [hyphenateRuns, if_neg (by simpa [IsSeparator] using other)]

theorem hyphenateRuns_cons_ne_nil (c : Char) (s : Text) : hyphenateRuns false (c :: s) ≠ [] := by
  by_cases separator : IsSeparator c
  · simp [hyphenateRuns_separator separator]
  · simp [hyphenateRuns_other separator]

theorem hyphenateRuns_front {w : Text} (free : ∀ c ∈ w, ¬ IsSeparator c) (s : Text) :
    hyphenateRuns false (w ++ s) = w ++ hyphenateRuns false s := by
  induction w with
  | nil => rfl
  | cons c w ih =>
    obtain ⟨head, rest⟩ := List.forall_mem_cons.mp free
    rw [List.cons_append, hyphenateRuns_other head, ih rest]
    rfl

theorem hyphenateRuns_eq_self {s : Text} (free : ∀ c ∈ s, ¬ IsSeparator c) :
    hyphenateRuns false s = s := by
  simpa [hyphenateRuns] using hyphenateRuns_front free []

/-- Where what follows does not begin with a separator, no run goes on into it. -/
theorem hyphenateRuns_append (inRun : Bool) (s t : Text) (opens : ∀ c ∈ t.head?, ¬ IsSeparator c) :
    hyphenateRuns inRun (s ++ t) = hyphenateRuns inRun s ++ hyphenateRuns false t := by
  induction s generalizing inRun with
  | nil =>
    cases t with
    | nil => rfl
    | cons c t =>
      rw [List.nil_append, hyphenateRuns_other (opens c rfl), hyphenateRuns_other (opens c rfl)]
      rfl
  | cons c s ih =>
    by_cases separator : IsSeparator c
    · rw [List.cons_append, hyphenateRuns_separator separator, hyphenateRuns_separator separator, ih]
      split <;> rfl
    · rw [List.cons_append, hyphenateRuns_other separator, hyphenateRuns_other separator, ih]
      rfl

/-- All that comes out of a run after its hyphen. -/
theorem hyphenateRuns_eq_nil_iff (s : Text) :
    hyphenateRuns true s = [] ↔ ∀ c ∈ s, IsSeparator c := by
  induction s with
  | nil => simp [hyphenateRuns]
  | cons c s ih =>
    by_cases separator : IsSeparator c
    · rw [hyphenateRuns_separator separator, if_pos rfl, ih, List.forall_mem_cons,
        and_iff_right separator]
    · rw [hyphenateRuns_other separator]
      simp [separator]

/-! ## Borders inside words -/

theorem mem_partCamel {c : Char} {s : Text} (member : c ∈ partCamel s) :
    c ∈ s ∨ c = '-' ∨ isKebabChar c = true := by
  fun_induction partCamel s with
  | case1 => contradiction
  | case2 d => exact .inl member
  | case3 a b rest border ih =>
    simp only [List.mem_cons] at member
    rcases member with rfl | rfl | rfl | behind
    · exact .inl (List.mem_cons_self ..)
    · exact .inr (.inl rfl)
    · rw [isKebabChar_toLower, isAlphanum_iff]
      exact .inr (.inr (.inr (Bool.and_eq_true_iff.mp border).2))
    · exact (ih behind).imp_left fun inside => List.mem_cons_of_mem a (List.mem_cons_of_mem b inside)
  | case4 a b rest plain ih =>
    rcases List.mem_cons.mp member with rfl | behind
    · exact .inl (List.mem_cons_self ..)
    · exact (ih behind).imp_left (List.mem_cons_of_mem a)

theorem partCamel_eq_self {s : Text} (free : ∀ c ∈ s, isCapital c = false) : partCamel s = s := by
  fun_induction partCamel s with
  | case1 => rfl
  | case2 d => rfl
  | case3 a b rest border ih =>
    have capital := (Bool.and_eq_true_iff.mp border).2
    simp [free b (by simp)] at capital
  | case4 a b rest plain ih =>
    rw [ih (List.forall_mem_cons.mp free).2]

/-! ## Rewritten names -/

/-- No separators, and every character its own lower-case form. -/
structure Settled (s : Text) : Prop where
  free : ∀ c ∈ s, ¬ IsSeparator c
  lower : ∀ c ∈ s, Text.lowerChar c = c

theorem Settled.small {s : Text} (settled : Settled s) : ∀ c ∈ s, isCapital c = false :=
  fun c member => isCapital_lower (settled.lower c member)

theorem toKebab_settled (s : Text) : Settled (toKebab s) := by
  refine ⟨fun c member => ?_, fun c => Text.lowerChar_of_mem_toLower⟩
  rcases Text.mem_toLower member with parted | ⟨large, solid⟩
  · rcases mem_partCamel parted with joined | rfl | kebab
    · rcases mem_hyphenateRuns joined with rfl | ⟨-, other⟩
      · exact hyphen_notSeparator
      · exact other
    · exact hyphen_notSeparator
    · exact isKebabChar_notSeparator kebab
  · rintro (rfl | blank)
    · exact absurd large (by decide)
    · simp [solid] at blank

/-- Such a name gives no step anything to do. -/
theorem Settled.toKebab {s : Text} (settled : Settled s) : toKebab s = s := by
  rw [ClassName.toKebab, hyphenateRuns_eq_self settled.free, partCamel_eq_self settled.small,
    Text.toLower_eq_self settled.lower]

theorem lowLine_notMem_toKebab (s : Text) : '_' ∉ toKebab s := fun member =>
  (toKebab_settled s).free '_' member (.inl rfl)

/-- A rewritten name holds no low line, no white space and no capital of ASCII, and rewriting it
again leaves it as it is. -/
theorem toKebab_normalises (s : Text) :
    (∀ c ∈ toKebab s, c ≠ '_' ∧ Text.isBlank c = false ∧ isCapital c = false) ∧
    toKebab (toKebab s) = toKebab s := by
  have settled := toKebab_settled s
  refine ⟨fun c member => ?_, settled.toKebab⟩
  obtain ⟨lowLine, solid⟩ := not_or.mp (settled.free c member)
  exact ⟨lowLine, Bool.eq_false_iff.mpr solid, settled.small c member⟩

end BemLint.ClassName
