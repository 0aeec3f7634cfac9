import BemLint.Proofs.Text.Pieces
import BemLint.Text.Blank

/-!
# The words of a text

`SplitInto` tells the words of a text by how they lie in it, without a scan: white space, a run of
other characters that reaches to white space or to the end, and the words after it. A text has
exactly one such list, the one that `words` computes. A word that follows white space only is also
what a search for it meets first, since no earlier character can begin it.
-/
namespace BemLint.Text

def AllBlank (s : Text) : Prop := ∀ c ∈ s, isBlank c = true

def Solid (s : Text) : Prop := ∀ c ∈ s, isBlank c = false

theorem allBlank_takeWhile (s : Text) : AllBlank (s.takeWhile isBlank) := by
  intro c member
  exact List.all_eq_true.mp List.all_takeWhile c member

/-- A text is the white space it begins with and what trimming leaves. -/
theorem exists_gap (s : Text) : ∃ gap, AllBlank gap ∧ s = gap ++ trimStart s :=
  ⟨s.takeWhile isBlank, allBlank_takeWhile s, List.takeWhile_append_dropWhile.symm⟩

theorem trimStart_gap (gap s : Text) (blank : AllBlank gap) :
    trimStart (gap ++ s) = trimStart s := by
  induction gap with
  | nil => rfl
  | cons c gap ih =>
    have head : isBlank c = true := blank c (by simp)
    have rest : AllBlank gap := fun d member => blank d (by simp [member])
    simpa [trimStart, head] using ih rest

theorem trimStart_cons (c : Char) (s : Text) (solid : isBlank c = false) :
    trimStart (c :: s) = c :: s := by
  simp [trimStart, solid]

theorem trimEnd_concat (s : Text) {c : Char} (solid : isBlank c = false) :
    trimEnd (s ++ [c]) = s ++ [c] := by
  simp [trimEnd, solid]

theorem startsWith_iff (s sub : Text) : startsWith s sub = true ↔ ∃ rest, s = sub ++ rest := by
  induction s generalizing sub with
  | nil => cases sub <;> simp [startsWith]
  | cons c s ih =>
    cases sub with
    | nil => simp [startsWith]
    | cons d sub =>
      simp only [startsWith, Bool.and_eq_true, decide_eq_true_eq, ih, List.cons_append,
        List.cons.injEq]
      exact ⟨fun ⟨same, rest, e⟩ => ⟨rest, same, e⟩, fun ⟨rest, same, e⟩ => ⟨same, rest, e⟩⟩

/-- How the words of a text lie in it. -/
inductive SplitInto : Text → List Text → Prop
  | done {s : Text} (blank : AllBlank s) : SplitInto s []
  | word {gap w rest : Text} {later : List Text} (blank : AllBlank gap) (nonempty : w ≠ [])
      (solid : Solid w) (ends : endsWord rest = true) (more : SplitInto rest later) :
      SplitInto (gap ++ w ++ rest) (w :: later)

theorem SplitInto.members {s : Text} {ws : List Text} (split : SplitInto s ws) :
    ∀ w ∈ ws, w ≠ [] ∧ Solid w := by
  induction split with
  | done =>
    intro w member
    contradiction
  | word blank nonempty solid ends more ih =>
    intro w member
    rcases List.mem_cons.mp member with rfl | member
    · exact ⟨nonempty, solid⟩
    · exact ih w member

theorem words_blank (s : Text) (blank : AllBlank s) : words s = [] := by
  induction s with
  | nil => rfl
  | cons c s ih =>
    rw [words, if_pos (blank c (by simp))]
    exact ih fun d member => blank d (by simp [member])

theorem words_gap (gap s : Text) (blank : AllBlank gap) : words (gap ++ s) = words s := by
  induction gap with
  | nil => rfl
  | cons c gap ih =>
    rw [List.cons_append, words, if_pos (blank c (by simp))]
    exact ih fun d member => blank d (by simp [member])

theorem words_solid (w rest : Text) (nonempty : w ≠ []) (solid : Solid w)
    (ends : endsWord rest = true) : words (w ++ rest) = w :: words rest := by
  induction w with
  | nil => contradiction
  | cons c w ih =>
    have head : ¬ isBlank c = true := by simp [solid c (by simp)]
    rw [List.cons_append, words, if_neg head]
    cases w with
    | nil => rw [List.nil_append, if_pos ends]
    | cons d w =>
      have next : ¬ endsWord (d :: w ++ rest) = true := by simp [endsWord, solid d (by simp)]
      have tail : Solid (d :: w) := fun x member => solid x (by simp [member])
      rw [if_neg next, ih (by simp) tail]
      rfl

/-- A text that does not begin with white space begins with a word. -/
theorem exists_word (c : Char) (s : Text) (solid : isBlank c = false) :
    ∃ w rest, c :: s = w ++ rest ∧ w ≠ [] ∧ Solid w ∧ endsWord rest = true := by
  obtain ⟨w, rest, whole, inside, stops⟩ := exists_span (!isBlank ·) (c :: s)
  refine ⟨w, rest, whole, ?_, by simpa [Solid] using inside, ?_⟩
  · rintro rfl
    obtain rfl : c :: s = rest := whole
    simpa [solid] using stops c rfl
  · cases rest with
    | nil => rfl
    | cons d rest => simpa [endsWord] using stops d rfl

/-- A text has one list of words, the computed one. -/
theorem splitInto_iff (s : Text) (ws : List Text) : SplitInto s ws ↔ ws = words s := by
  constructor
  · intro split
    induction split with
    | done blank => exact (words_blank _ blank).symm
    | @word gap w rest later blank nonempty solid ends more ih =>
      rw [List.append_assoc, words_gap gap _ blank, words_solid w rest nonempty solid ends, ← ih]
  · rintro rfl
    -- On the length, because a step takes off white space and a whole word.
    induction h : s.length using Nat.strongRecOn generalizing s with
    | ind n ih =>
      obtain ⟨gap, blank, split⟩ := exists_gap s
      cases e : trimStart s with
      | nil =>
        rw [split, e, List.append_nil, words_blank gap blank]
        exact .done blank
      | cons c t =>
        have solid : isBlank c = false := by
          have := List.head?_dropWhile_not isBlank s
          rw [trimStart] at e
          simpa [e] using this
        obtain ⟨w, rest, front, nonempty, isSolid, ends⟩ := exists_word c t solid
        have shorter : rest.length < n := by
          have := List.length_pos_iff.mpr nonempty
          have := congrArg List.length split
          simp only [e, front, List.length_append] at this
          omega
        rw [split, e, front, words_gap gap _ blank, words_solid w rest nonempty isSolid ends,
          ← List.append_assoc]
        exact .word blank nonempty isSolid ends (ih _ shorter rest rfl)

/-- A search that starts in the white space before a word meets the word. -/
theorem indexOf?_gap (gap w rest : Text) (blank : AllBlank gap) (nonempty : w ≠ [])
    (solid : Solid w) : indexOf? w (gap ++ (w ++ rest)) = some gap.length := by
  obtain ⟨c, t, rfl⟩ := List.exists_cons_of_ne_nil nonempty
  induction gap with
  | nil =>
    have here : startsWith (c :: (t ++ rest)) (c :: t) = true :=
      (startsWith_iff _ _).mpr ⟨rest, rfl⟩
    simp [indexOf?, here]
  | cons g gap ih =>
    have differ : g ≠ c := by
      rintro rfl
      have := blank g (by simp)
      simp [solid g (by simp)] at this
    have later := ih fun d member => blank d (by simp [member])
    rw [List.cons_append, indexOf?, later]
    simp [startsWith, differ]

theorem indexFrom?_gap (before gap w rest : Text) (blank : AllBlank gap) (nonempty : w ≠ [])
    (solid : Solid w) : indexFrom? w (before ++ (gap ++ (w ++ rest))) before.length =
      some (before ++ gap).length := by
  rw [indexFrom?, List.drop_left, indexOf?_gap gap w rest blank nonempty solid]
  simp

end BemLint.Text
