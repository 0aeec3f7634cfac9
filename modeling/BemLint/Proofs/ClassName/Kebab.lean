import BemLint.ClassName
import BemLint.Proofs.Text.Pair
import BemLint.Proofs.Text.Pieces

/-!
# Kebab case

`Kebab` is the grammar of strict kebab case: words of small letters and digits, with one hyphen
between each two. `isKebab` decides it. A name of that kind holds no low line and no two hyphens in
a row, and neither begins nor ends with a hyphen, so a delimiter after it is cut off exactly there.
-/
namespace BemLint.ClassName
open Text (NoPair)

structure KebabWord (w : Text) : Prop where
  nonempty : w ≠ []
  chars : ∀ c ∈ w, isKebabChar c = true

/-- Words with single hyphens between them. -/
inductive Kebab : Text → Prop
  | word {w : Text} (isWord : KebabWord w) : Kebab w
  | join {w rest : Text} (isWord : KebabWord w) (more : Kebab rest) : Kebab (w ++ '-' :: rest)

theorem isKebabChar_hyphen : isKebabChar '-' = false := by decide

theorem isKebabChar_lowLine : isKebabChar '_' = false := by decide

theorem isKebabChar_feed : isKebabChar '\n' = false := by decide

theorem isKebabChar_iff (c : Char) :
    isKebabChar c = true ↔ 97 ≤ c.toNat ∧ c.toNat ≤ 122 ∨ 48 ≤ c.toNat ∧ c.toNat ≤ 57 := by
  simp [isKebabChar, Char.le_def, UInt32.le_iff_toNat_le]

theorem isBlank_kebabChar {c : Char} (kebab : isKebabChar c = true) : Text.isBlank c = false := by
  have range := (isKebabChar_iff c).mp kebab
  simp only [Text.isBlank, Bool.or_eq_false_iff, Bool.and_eq_false_iff, decide_eq_false_iff_not,
    beq_eq_false_iff_ne]
  omega

/-- A character of a word is none of those that are not. -/
theorem KebabWord.notMem {w : Text} (isWord : KebabWord w) {c : Char}
    (other : isKebabChar c = false) : c ∉ w := by
  intro member
  have := isWord.chars c member
  simp [other] at this

theorem KebabWord.count_hyphen {w : Text} (isWord : KebabWord w) : w.count '-' = 0 :=
  List.count_eq_zero.mpr (isWord.notMem isKebabChar_hyphen)

theorem kebabFrom_word (w rest : Text) (fresh : Bool) (isWord : KebabWord w) :
    kebabFrom fresh (w ++ rest) = kebabFrom false rest := by
  induction w generalizing fresh with
  | nil => exact absurd rfl isWord.nonempty
  | cons c w ih =>
    have head : isKebabChar c = true := isWord.chars c (by simp)
    have differ : c ≠ '-' := by
      rintro rfl
      simp [isKebabChar_hyphen] at head
    rw [List.cons_append, kebabFrom, if_neg differ, head, Bool.true_and]
    cases w with
    | nil => rfl
    | cons d w => exact ih false ⟨by simp, fun x member => isWord.chars x (by simp [member])⟩

/-- From inside a word, kebab case goes on with the rest of the word. From its beginning it is
kebab case. -/
theorem kebabFrom_sound (s : Text) :
    (kebabFrom true s = true → Kebab s) ∧
    (kebabFrom false s = true → ∀ w, KebabWord w → Kebab (w ++ s)) := by
  induction s with
  | nil =>
    refine ⟨by simp [kebabFrom], fun _ w isWord => ?_⟩
    rw [List.append_nil]
    exact .word isWord
  | cons c s ih =>
    by_cases hyphen : c = '-'
    · subst hyphen
      refine ⟨by simp [kebabFrom], fun accepted w isWord => ?_⟩
      have rest : kebabFrom true s = true := by simpa [kebabFrom] using accepted
      exact .join isWord (ih.1 rest)
    · have step : ∀ fresh, kebabFrom fresh (c :: s) = true →
          isKebabChar c = true ∧ kebabFrom false s = true := by
        intro fresh accepted
        simpa [kebabFrom, hyphen] using accepted
      refine ⟨fun accepted => ?_, fun accepted w isWord => ?_⟩
      · obtain ⟨head, rest⟩ := step true accepted
        have alone : KebabWord [c] := ⟨by simp, by simpa using head⟩
        exact ih.2 rest [c] alone
      · obtain ⟨head, rest⟩ := step false accepted
        have longer : KebabWord (w ++ [c]) := by
          refine ⟨by simp, fun x member => ?_⟩
          rcases List.mem_append.mp member with member | member
          · exact isWord.chars x member
          · rw [List.mem_singleton.mp member]
            exact head
        simpa using ih.2 rest (w ++ [c]) longer

theorem isKebab_iff (s : Text) : isKebab s = true ↔ Kebab s := by
  constructor
  · exact (kebabFrom_sound s).1
  · intro kebab
    induction kebab with
    | @word w isWord =>
      have whole := kebabFrom_word w [] true isWord
      rw [List.append_nil] at whole
      rw [isKebab, whole]
      rfl
    | @join w rest isWord more ih =>
      rw [isKebab, kebabFrom_word w _ true isWord]
      simpa [kebabFrom, isKebab] using ih

section Shape

variable {s : Text}

theorem Kebab.chars (kebab : Kebab s) : ∀ c ∈ s, isKebabChar c = true ∨ c = '-' := by
  induction kebab with
  | word isWord => exact fun c member => .inl (isWord.chars c member)
  | @join w rest isWord more ih =>
    intro c member
    rcases List.mem_append.mp member with member | member
    · exact .inl (isWord.chars c member)
    · rcases List.mem_cons.mp member with rfl | member
      · exact .inr rfl
      · exact ih c member

theorem Kebab.notMem (kebab : Kebab s) {c : Char} (other : isKebabChar c = false)
    (differ : c ≠ '-') : c ∉ s := by
  intro member
  rcases kebab.chars c member with is | is
  · simp [other] at is
  · exact differ is

theorem Kebab.exists_head (kebab : Kebab s) : ∃ c t, s = c :: t ∧ isKebabChar c = true := by
  cases kebab with
  | word isWord =>
    obtain ⟨c, t, rfl⟩ := List.exists_cons_of_ne_nil isWord.nonempty
    exact ⟨c, t, rfl, isWord.chars c (by simp)⟩
  | join isWord more =>
    obtain ⟨c, t, rfl⟩ := List.exists_cons_of_ne_nil isWord.nonempty
    exact ⟨c, _, rfl, isWord.chars c (by simp)⟩

theorem Kebab.exists_last (kebab : Kebab s) : ∃ t c, s = t ++ [c] ∧ isKebabChar c = true := by
  induction kebab with
  | @word w isWord =>
    obtain ⟨t, c, rfl⟩ := w.eq_nil_or_concat.resolve_left isWord.nonempty
    exact ⟨t, c, by simp, isWord.chars c (by simp)⟩
  | @join w rest isWord more ih =>
    obtain ⟨t, c, rfl, last⟩ := ih
    exact ⟨w ++ '-' :: t, c, by simp, last⟩

theorem Kebab.nonempty (kebab : Kebab s) : s ≠ [] := by
  obtain ⟨c, t, rfl, _⟩ := kebab.exists_head
  simp

theorem Kebab.head?_ne (kebab : Kebab s) {d : Char} (other : isKebabChar d = false) :
    s.head? ≠ some d := by
  obtain ⟨c, t, rfl, head⟩ := kebab.exists_head
  intro same
  obtain rfl : c = d := by simpa using same
  simp [head] at other

theorem Kebab.getLast?_ne (kebab : Kebab s) {d : Char} (other : isKebabChar d = false) :
    s.getLast? ≠ some d := by
  obtain ⟨t, c, rfl, last⟩ := kebab.exists_last
  intro same
  obtain rfl : c = d := by simpa using same
  simp [last] at other

theorem Kebab.noPair (kebab : Kebab s) : NoPair '-' s := by
  induction kebab with
  | word isWord => exact Text.noPair_of_notMem _ _ (isWord.notMem isKebabChar_hyphen)
  | @join w rest isWord more ih =>
    have front := Text.noPair_of_notMem _ _ (isWord.notMem isKebabChar_hyphen)
    have behind : NoPair '-' (['-'] ++ rest) :=
      Text.noPair_append _ _ _ (.singleton _) ih (.inr (more.head?_ne isKebabChar_hyphen))
    refine Text.noPair_append _ w _ front behind (.inl ?_)
    exact (Kebab.word isWord).getLast?_ne isKebabChar_hyphen

/-- Names in kebab case with hyphens between them. -/
theorem Kebab.append (left : Kebab s) {t : Text} (right : Kebab t) : Kebab (s ++ '-' :: t) := by
  induction left with
  | word isWord => exact .join isWord right
  | @join w rest isWord more ih =>
    rw [List.append_assoc, List.cons_append]
    exact .join isWord ih

theorem kebab_join (parts : List Text) (some : parts ≠ []) (kebab : ∀ part ∈ parts, Kebab part) :
    Kebab (Text.join ['-'] parts) := by
  induction parts with
  | nil => contradiction
  | cons part parts ih =>
    obtain ⟨first, rest⟩ := List.forall_mem_cons.mp kebab
    cases parts with
    | nil => exact first
    | cons next parts =>
      rw [Text.join_cons ['-'] part (by simp), List.singleton_append]
      exact first.append (ih (by simp) rest)

end Shape

/-- A name that does not end in a line feed is left as it is. -/
theorem dropFinalFeed_eq (s : Text) (last : s.getLast? ≠ some '\n') : dropFinalFeed s = s := by
  unfold dropFinalFeed
  split
  next rest e =>
    have : s = rest.reverse ++ ['\n'] := by simpa using congrArg List.reverse e
    simp [this] at last
  · rfl

theorem count_dropFinalFeed (c : Char) (s : Text) (other : c ≠ '\n') :
    (dropFinalFeed s).count c = s.count c := by
  unfold dropFinalFeed
  split
  next rest e =>
    have whole : s = rest.reverse ++ ['\n'] := by simpa using congrArg List.reverse e
    rw [whole, List.count_append, List.count_singleton, beq_eq_false_iff_ne.mpr other.symm]
    rfl
  · rfl

/-- The block of a name is what comes before its leftmost delimiter. -/
theorem block_pair (d : Char) (s t : Text) (delimiter : d = '_' ∨ d = '-')
    (lowLines : NoPair '_' s) (hyphens : NoPair '-' s) (last : s.getLast? ≠ some d) :
    block (s ++ d :: d :: t) = s := by
  induction s with
  | nil => simp [block, delimiter]
  | cons a s ih =>
    cases s with
    | nil =>
      have differ : a ≠ d := by simpa using last
      simp [block, differ, delimiter]
    | cons b s =>
      have lowLines := List.isChain_cons_cons.mp lowLines
      have hyphens := List.isChain_cons_cons.mp hyphens
      have differ : ¬ (a = b ∧ (a = '_' ∨ a = '-')) := by
        rintro ⟨rfl, rfl | rfl⟩
        · exact lowLines.1 ⟨rfl, rfl⟩
        · exact hyphens.1 ⟨rfl, rfl⟩
      have next := ih lowLines.2 hyphens.2 (by simpa using last)
      rw [List.cons_append] at next
      rw [List.cons_append, List.cons_append, block, if_neg differ, next]

/-- What stands behind a delimiter is of no matter to the block. -/
theorem block_behind (d : Char) (s t u : Text) (delimiter : d = '_' ∨ d = '-') :
    block (s ++ d :: d :: t) = block (s ++ d :: d :: u) := by
  induction s with
  | nil => simp [block, delimiter]
  | cons a s ih =>
    cases s with
    | nil => simp [block, delimiter]
    | cons b s =>
      simp only [List.cons_append] at ih ⊢
      rw [block, block, ih]

theorem block_single (s : Text) (lowLines : NoPair '_' s) (hyphens : NoPair '-' s) :
    block s = s := by
  fun_induction block s with
  | case1 => rfl
  | case2 c => rfl
  | case3 a b rest pair =>
    obtain ⟨rfl, rfl | rfl⟩ := pair
    · exact absurd ⟨rfl, rfl⟩ (List.isChain_cons_cons.mp lowLines).1
    · exact absurd ⟨rfl, rfl⟩ (List.isChain_cons_cons.mp hyphens).1
  | case4 a b rest single ih =>
    rw [ih (List.isChain_cons_cons.mp lowLines).2 (List.isChain_cons_cons.mp hyphens).2]

end BemLint.ClassName
