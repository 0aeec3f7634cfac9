import BemLint.Text.Lines

/-!
# The order of positions

The position of an offset grows with the offset: the line first, and the column within a line. So a
position determines the offset that it was computed from. Offsets that count from the end of the
text have no positive column and are not mistaken for others. When one text comes after another, its
positions move in one way, which depends on the other text and on the position alone.
-/
namespace BemLint.Text

/-- The order of positions in a text. -/
def Position.Before (p q : Position) : Prop :=
  p.line < q.line ∨ (p.line = q.line ∧ p.column < q.column)

theorem Position.Before.ne {p q : Position} (before : p.Before q) : p ≠ q := by
  rintro rfl
  rcases before with line | ⟨_, column⟩ <;> omega

theorem Position.Before.asymm {p q : Position} (before : p.Before q) : ¬ q.Before p := by
  intro behind
  unfold Position.Before at before behind
  omega

def lastLineStart (s : Text) : Nat := (lineStart? s).getD 0

theorem reverse_feedless (s : Text) (feedless : '\n' ∉ s) :
    ∀ c ∈ s.reverse, (c != '\n') = true := by
  intro c member
  rw [bne_iff_ne]
  rintro rfl
  exact feedless (List.mem_reverse.mp member)

theorem lastLineStart_eq (s : Text) :
    lastLineStart s = s.length - (s.reverse.takeWhile (· != '\n')).length := by
  unfold lastLineStart lineStart?
  split
  next feedless =>
    have all : s.reverse.takeWhile (· != '\n') = s.reverse := by
      have passes := reverse_feedless s (List.count_eq_zero.mp feedless)
      have whole : (s.reverse ++ []).takeWhile (· != '\n') =
          s.reverse ++ [].takeWhile (· != '\n') :=
        List.takeWhile_append_of_pos passes
      simpa using whole
    simp [all]
  · rfl

theorem lastLineStart_le (s : Text) : lastLineStart s ≤ s.length := by
  rw [lastLineStart_eq]
  omega

/-- What holds no line feed goes on with the last line. -/
theorem lastLineStart_append (s t : Text) (feedless : '\n' ∉ t) :
    lastLineStart (s ++ t) = lastLineStart s := by
  rw [lastLineStart_eq, lastLineStart_eq, List.reverse_append,
    List.takeWhile_append_of_pos (reverse_feedless t feedless)]
  simp only [List.length_append, List.length_reverse]
  omega

theorem lastLineStart_feedless (s : Text) (feedless : '\n' ∉ s) : lastLineStart s = 0 := by
  have same := lastLineStart_append [] s feedless
  rwa [List.nil_append] at same

/-- Both ways to compute a position, as one. -/
theorem positionAt_eq (s : Text) (offset : Int) :
    positionAt s offset = ⟨(s.take (covered s offset)).count '\n' + 1,
      offset + 1 - lastLineStart (s.take (covered s offset))⟩ := by
  unfold positionAt lastLineStart
  cases e : lineStart? (s.take (covered s offset)) with
  | some start => simp [e]
  | none =>
    have feedless : (s.take (covered s offset)).count '\n' = 0 := by
      unfold lineStart? at e
      split at e
      next h => exact h
      · contradiction
    simp [e, feedless]

theorem take_covered (s : Text) (n : Nat) : s.take (covered s n) = s.take n := by
  have same : covered s (n : Int) = min s.length n := by
    rw [covered, if_neg (by omega)]
    simp
  rw [same, Nat.min_comm, ← List.take_eq_take_min]

/-- A later offset has a later position. -/
theorem positionAt_before (s : Text) (m n : Nat) (less : m < n) :
    (positionAt s m).Before (positionAt s n) := by
  obtain ⟨between, extend⟩ : ∃ between, s.take n = s.take m ++ between :=
    ⟨(s.drop m).take (n - m), by rw [← List.take_add, show m + (n - m) = n from by omega]⟩
  rw [positionAt_eq, positionAt_eq, take_covered, take_covered, extend]
  by_cases feed : '\n' ∈ between
  · have := List.count_pos_iff.mpr feed
    left
    simp only [List.count_append]
    omega
  · right
    rw [lastLineStart_append _ _ feed, List.count_append, List.count_eq_zero.mpr feed]
    exact ⟨rfl, by simp only; omega⟩

/-- The order of positions is that of offsets. -/
theorem positionAt_before_iff (s : Text) (m n : Nat) :
    (positionAt s m).Before (positionAt s n) ↔ m < n := by
  constructor
  · intro before
    rcases Nat.lt_trichotomy m n with less | same | greater
    · exact less
    · exact absurd (by rw [same]) before.ne
    · exact absurd (positionAt_before s n m greater) before.asymm
  · exact positionAt_before s m n

theorem column_pos (s : Text) (n : Nat) : 1 ≤ (positionAt s n).column := by
  have bound := lastLineStart_le (s.take n)
  have := List.length_take_le n s
  rw [positionAt_eq, take_covered]
  simp only
  omega

theorem column_nonpos (s : Text) (offset : Int) (negative : offset < 0) :
    (positionAt s offset).column ≤ 0 := by
  rw [positionAt_eq]
  simp only
  omega

/-- Of all offsets, also of those that count from the end, only one has the position of `n`. -/
theorem positionAt_injective (s : Text) (n : Nat) (offset : Int)
    (same : positionAt s offset = positionAt s n) : offset = n := by
  have positive := column_pos s n
  rcases Int.lt_or_le offset 0 with negative | nonnegative
  · have := column_nonpos s offset negative
    rw [same] at this
    omega
  · obtain ⟨m, rfl⟩ := Int.eq_ofNat_of_zero_le nonnegative
    rcases Nat.lt_trichotomy m n with less | rfl | greater
    · exact absurd same (positionAt_before s m n less).ne
    · rfl
    · exact absurd same.symm (positionAt_before s n m greater).ne

/-! ## Two texts, one after the other -/

def lastLineLength (s : Text) : Nat := (s.reverse.takeWhile (· != '\n')).length

/-- Where a place of a text lies when another text comes before: the lines of that one are counted
too, and its last line goes on as the first one. -/
def Position.after (front : Text) (p : Position) : Position :=
  ⟨front.count '\n' + p.line, if p.line = 1 then lastLineLength front + p.column else p.column⟩

theorem lastLineStart_add (s : Text) : lastLineStart s + lastLineLength s = s.length := by
  have bound := (s.reverse.takeWhile_sublist (· != '\n')).length_le
  rw [List.length_reverse] at bound
  rw [lastLineStart_eq, lastLineLength]
  omega

/-- What holds a line feed has the last line of the whole. -/
theorem lastLineStart_append_feed (s t : Text) (feed : '\n' ∈ t) :
    lastLineStart (s ++ t) = s.length + lastLineStart t := by
  have stops : (t.reverse.takeWhile (· != '\n')).length ≠ t.reverse.length := by
    intro whole
    have all := (List.takeWhile_prefix (· != '\n')).eq_of_length whole
    have passes := List.all_eq_true.mp List.all_takeWhile '\n'
      (all.symm ▸ List.mem_reverse.mpr feed)
    contradiction
  have same : lastLineLength (s ++ t) = lastLineLength t := by
    unfold lastLineLength
    rw [List.reverse_append, List.takeWhile_append, if_neg stops]
  have front := lastLineStart_add (s ++ t)
  have back := lastLineStart_add t
  rw [List.length_append] at front
  omega

/-- What comes after a text does not move the places in it. -/
theorem positionAt_append (s t : Text) (n : Nat) (inside : n ≤ s.length) :
    positionAt (s ++ t) n = positionAt s n := by
  rw [positionAt_eq, positionAt_eq, take_covered, take_covered,
    List.take_append_of_le_length inside]

/-- What comes before a text moves the places in it in one way. -/
theorem positionAt_after (s t : Text) (n : Nat) :
    positionAt (s ++ t) ((s.length + n : Nat) : Int) = (positionAt t n).after s := by
  rw [positionAt_eq, positionAt_eq, take_covered, take_covered, List.take_length_add_append,
    List.count_append]
  simp only [Position.after]
  have front := lastLineStart_add s
  by_cases feed : '\n' ∈ t.take n
  · have later : ((t.take n).count '\n' : Int) + 1 ≠ 1 := by
      have := List.count_pos_iff.mpr feed
      omega
    rw [lastLineStart_append_feed s _ feed, if_neg later]
    congr 1
    omega
  · have first : ((t.take n).count '\n' : Int) + 1 = 1 := by
      rw [List.count_eq_zero.mpr feed]
      rfl
    rw [lastLineStart_append s _ feed, lastLineStart_feedless _ feed, if_pos first]
    congr 1
    omega

/-- The place where a text ends is told by its line feeds and its last line. -/
theorem positionAt_end (s t : Text) :
    positionAt (s ++ t) s.length = ⟨s.count '\n' + 1, lastLineLength s + 1⟩ := by
  have first : positionAt t ((0 : Nat) : Int) = ⟨1, 1⟩ := by
    rw [positionAt_eq, take_covered, List.take_zero]
    rfl
  have behind := positionAt_after s t 0
  rw [first] at behind
  exact behind

end BemLint.Text
