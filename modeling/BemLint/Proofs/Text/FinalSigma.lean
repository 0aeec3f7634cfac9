import BemLint.Proofs.Text.Case
import BemLint.Proofs.Text.Pieces

/-!
# Lower case on both sides of a dot

Lower case makes no dots and loses none, so the text behind the last dot becomes the text behind the
last dot. What it becomes can still hang on the text before the dot: a capital sigma looks back past
the dot for a letter with case, and cut off from that letter it becomes another sigma.
-/
namespace BemLint.Text
open Table

/-! ## Character by character -/

/-- Lower case of one character between others. -/
def lowerHere (before : Text) (c : Char) (after : Text) : Text :=
  if c.toNat = 0x3A3 then [lowerSigma before after]
  else if c.toNat = 0x130 then ['i', Char.ofNat 0x307]
  else [lowerChar c]

theorem lowerFrom_cons (before : Text) (c : Char) (s : Text) :
    lowerFrom before (c :: s) = lowerHere before c s ++ lowerFrom (c :: before) s := rfl

theorem lowerHere_ne_nil (before : Text) (c : Char) (after : Text) :
    lowerHere before c after ≠ [] := by
  unfold lowerHere
  split
  · exact List.cons_ne_nil _ _
  split <;> exact List.cons_ne_nil _ _

theorem lowerFrom_eq_nil_iff (before s : Text) : lowerFrom before s = [] ↔ s = [] := by
  cases s with
  | nil => exact iff_of_true rfl rfl
  | cons c s => simp [lowerFrom_cons, lowerHere_ne_nil]

theorem length_lowerHere (before before' : Text) (c : Char) (after : Text) :
    (lowerHere before c after).length = (lowerHere before' c after).length := by
  unfold lowerHere
  split <;> rfl

/-- Only a capital sigma hangs on what comes before it. -/
theorem lowerHere_eq_iff (before before' : Text) (c : Char) (after : Text) :
    lowerHere before c after = lowerHere before' c after ↔
      (c = 'Σ' → lowerSigma before after = lowerSigma before' after) := by
  have sigma : c = 'Σ' ↔ c.toNat = 0x3A3 := Char.toNat_inj.symm
  rw [sigma]
  unfold lowerHere
  by_cases code : c.toNat = 0x3A3
  · simp [code]
  · simp [code]

theorem lowerFrom_dot (before s : Text) :
    lowerFrom before ('.' :: s) = '.' :: lowerFrom ('.' :: before) s := by
  have own : lowerHere before '.' s = ['.'] := by
    have char : lowerChar '.' = '.' := by decide +kernel
    have code : '.'.toNat ≠ 0x3A3 ∧ '.'.toNat ≠ 0x130 := by decide
    rw [lowerHere, if_neg code.1, if_neg code.2, char]
  rw [lowerFrom_cons, own]
  rfl

/-- Lower case of a text ends in that of its end, after the characters before that. -/
theorem lowerFrom_append (before s t : Text) : ∃ front,
    lowerFrom before (s ++ t) = front ++ lowerFrom (s.reverse ++ before) t ∧
      (front = [] ↔ s = []) := by
  induction s generalizing before with
  | nil => exact ⟨[], rfl, Iff.rfl⟩
  | cons c s ih =>
    obtain ⟨front, rest, -⟩ := ih (c :: before)
    refine ⟨lowerHere before c (s ++ t) ++ front, ?_, by simp [lowerHere_ne_nil]⟩
    rw [List.cons_append, lowerFrom_cons, rest, List.append_assoc, List.reverse_cons,
      List.append_assoc]
    rfl

/-- Two texts before another make no difference to its lower case just if they make none to the
capital sigmas in it. -/
theorem lowerFrom_eq_iff (before before' s : Text) :
    lowerFrom before s = lowerFrom before' s ↔ ∀ front back, s = front ++ 'Σ' :: back →
      lowerSigma (front.reverse ++ before) back = lowerSigma (front.reverse ++ before') back := by
  induction s generalizing before before' with
  | nil => simp [lowerFrom]
  | cons c s ih =>
    have parts : lowerFrom before (c :: s) = lowerFrom before' (c :: s) ↔
        lowerHere before c s = lowerHere before' c s ∧
          lowerFrom (c :: before) s = lowerFrom (c :: before') s := by
      rw [lowerFrom_cons, lowerFrom_cons]
      refine ⟨fun same => List.append_inj same (length_lowerHere ..), fun both => ?_⟩
      rw [both.1, both.2]
    rw [parts, lowerHere_eq_iff, ih]
    constructor
    · rintro ⟨here, behind⟩ (_ | ⟨d, front⟩) back whole
      · obtain ⟨rfl, rfl⟩ := List.cons.inj whole
        exact here rfl
      · obtain ⟨rfl, rfl⟩ := List.cons.inj whole
        simpa using behind front back rfl
    · intro all
      refine ⟨?_, fun front back whole => ?_⟩
      · rintro rfl
        exact all [] s rfl
      · simpa using all (c :: front) back (by rw [whole]; rfl)

/-! ## The last dot -/

theorem last_unique {c : Char} {before after before' after' : Text} (absent : c ∉ after)
    (absent' : c ∉ after') (same : before ++ c :: after = before' ++ c :: after') :
    before = before' ∧ after = after' := by
  have front := takeWhile_last c before after absent
  rw [same, takeWhile_last c before' after' absent'] at front
  obtain rfl := List.reverse_inj.mp front
  exact ⟨List.append_cancel_right same, rfl⟩

theorem dot_notMem_lowerFrom {s : Text} (absent : '.' ∉ s) (before : Text) :
    '.' ∉ lowerFrom before s := by
  intro member
  rcases (mem_lowerFrom member).2 with inside | ⟨above, -⟩
  · exact absent inside
  · exact absurd above (by decide)

theorem toLower_lastDot (stem extension : Text) : ∃ front,
    toLower (stem ++ '.' :: extension) = front ++ '.' :: lowerFrom ('.' :: stem.reverse) extension ∧
      (front = [] ↔ stem = []) := by
  obtain ⟨front, whole, empty⟩ := lowerFrom_append [] stem ('.' :: extension)
  rw [List.append_nil, lowerFrom_dot] at whole
  exact ⟨front, whole, empty⟩

theorem dot_mem_toLower (s : Text) : '.' ∈ toLower s ↔ '.' ∈ s := by
  constructor
  · exact fun member => Decidable.not_imp_not.mp (fun absent => dot_notMem_lowerFrom absent []) member
  · intro member
    obtain ⟨stem, extension, rfl, -⟩ := exists_last '.' s member
    obtain ⟨front, whole, -⟩ := toLower_lastDot stem extension
    simp [whole]

/-! ## The final sigma -/

/-- A capital sigma behind the last dot ends a word that begins before the dot: nothing is between the
dot and the sigma but characters that the search for letters passes over, a letter with case comes
before the dot, and none after the sigma. -/
def SigmaBehindDot (s : Text) : Prop :=
  ∃ stem front back, s = stem ++ '.' :: (front ++ 'Σ' :: back) ∧ '.' ∉ front ++ 'Σ' :: back ∧
    (∀ c ∈ front, inside caseIgnorable c.toNat = true) ∧ meetsCased stem.reverse = true ∧
    meetsCased back = false

theorem meetsCased_passed {front : Text} (ignorable : ∀ c ∈ front, inside caseIgnorable c.toNat = true)
    (s : Text) : meetsCased (front ++ s) = meetsCased s := by
  unfold meetsCased
  rw [List.dropWhile_append_of_pos ignorable]

theorem meetsCased_stopped {front : Text}
    (stop : ¬∀ c ∈ front, inside caseIgnorable c.toNat = true) (s t : Text) :
    meetsCased (front ++ s) = meetsCased (front ++ t) := by
  have some : front.dropWhile (fun c => inside caseIgnorable c.toNat) ≠ [] := by
    intro none
    have whole := List.takeWhile_append_dropWhile (p := fun c => inside caseIgnorable c.toNat)
      (l := front)
    rw [none, List.append_nil] at whole
    exact stop fun c member => List.all_eq_true.mp List.all_takeWhile c (whole ▸ member)
  obtain ⟨c, rest, first⟩ := List.exists_cons_of_ne_nil some
  unfold meetsCased
  simp [List.dropWhile_append, first]

/-- The text before a dot makes a difference to a capital sigma behind the dot just if the sigma ends a
word because of it. -/
theorem lowerSigma_behindDot_iff (before front back : Text) :
    lowerSigma (front.reverse ++ '.' :: before) back = lowerSigma (front.reverse ++ ['.']) back ↔
      ¬((∀ c ∈ front, inside caseIgnorable c.toNat = true) ∧ meetsCased before = true ∧
        meetsCased back = false) := by
  have turned : (∀ c ∈ front.reverse, inside caseIgnorable c.toNat = true) ↔
      ∀ c ∈ front, inside caseIgnorable c.toNat = true := by simp
  rw [← turned]
  by_cases ignorable : ∀ c ∈ front.reverse, inside caseIgnorable c.toNat = true
  · have dot : ∀ c ∈ ['.'], inside caseIgnorable c.toNat = true := by
      rw [List.forall_mem_singleton]
      decide +kernel
    have past : meetsCased (front.reverse ++ '.' :: before) = meetsCased before := by
      rw [meetsCased_passed ignorable]
      exact meetsCased_passed dot before
    have nothing : meetsCased (front.reverse ++ ['.']) = false := by
      rw [meetsCased_passed ignorable]
      exact meetsCased_passed dot []
    rw [lowerSigma, lowerSigma, past, nothing]
    cases meetsCased before <;> cases meetsCased back <;> simp_all
  · have same := meetsCased_stopped ignorable ('.' :: before) ['.']
    rw [lowerSigma, same, ← lowerSigma]
    exact iff_of_true rfl fun both => ignorable both.1

/-- An extension has the same lower case alone as behind its stem, unless it begins with a capital
sigma that ends a word of the stem. -/
theorem lowerFrom_extension_iff {stem extension : Text} (last : '.' ∉ extension) :
    lowerFrom ('.' :: stem.reverse) extension = lowerFrom ['.'] extension ↔
      ¬SigmaBehindDot (stem ++ '.' :: extension) := by
  rw [lowerFrom_eq_iff]
  constructor
  · rintro alike ⟨stem', front, back, whole, last', ignorable, cased, uncased⟩
    obtain ⟨rfl, rfl⟩ := last_unique last last' whole
    exact (lowerSigma_behindDot_iff _ front back).mp (alike front back rfl)
      ⟨ignorable, cased, uncased⟩
  · rintro apart front back rfl
    refine (lowerSigma_behindDot_iff _ front back).mpr ?_
    rintro ⟨ignorable, cased, uncased⟩
    exact apart ⟨stem, front, back, rfl, last, ignorable, cased, uncased⟩

end BemLint.Text
