import BemLint.Proofs.Text.Lines

/-!
# Offsets and positions

A text is its lines with a line feed between one and the next, so a line begins behind the lines
before it, each with its line feed. A position tells an offset when its line is one of the text and
its column lies in that line or just behind it. The position of an offset tells that offset, and no
other position does; the positions of a text come in the order of its offsets.
-/
namespace BemLint.Text

/-! ## Lines with their line feeds -/

/-- Lines hold no line feed, so as many of them as there are lines come from their ends. -/
theorem count_lines (lines : List Text) (free : ∀ line ∈ lines, '\n' ∉ line) :
    (lines.flatMap (· ++ ['\n'])).count '\n' = lines.length := by
  induction lines with
  | nil => rfl
  | cons line lines ih =>
    have front := List.count_eq_zero.mpr (free line (by simp))
    have behind := ih fun next member => free next (by simp [member])
    rw [List.flatMap_cons, List.count_append, List.count_append, front, behind,
      List.count_singleton_self, List.length_cons]
    omega

/-- Behind lines with their line feeds a new line begins. -/
theorem lastLineStart_lines (lines : List Text) :
    lastLineStart (lines.flatMap (· ++ ['\n'])) = (lines.flatMap (· ++ ['\n'])).length := by
  rcases List.eq_nil_or_concat lines with rfl | ⟨front, line, rfl⟩
  · rfl
  · have last := lastLineStart_feed (front.flatMap (· ++ ['\n']) ++ line) [] (by simp)
    rw [List.concat_eq_append, List.flatMap_append, List.flatMap_singleton, ← List.append_assoc,
      last]
    simp only [List.length_append, List.length_singleton]

/-! ## Where lines begin -/

/-- What a text has before a line of it, lines being counted from zero: the lines before that one,
each with its line feed. -/
def beforeLine (s : Text) (k : Nat) : Text := ((feedLines s).take k).flatMap (· ++ ['\n'])

def lineOffset (s : Text) (k : Nat) : Nat := (beforeLine s k).length

theorem beforeLine_split {s : Text} {k : Nat} {line : Text}
    (there : (feedLines s)[k]? = some line) : ∃ back, s = beforeLine s k ++ (line ++ back) := by
  obtain ⟨inside, same⟩ := List.getElem?_eq_some_iff.mp there
  have cut : feedLines s = (feedLines s).take k ++ line :: (feedLines s).drop (k + 1) := by
    rw [← same, ← List.drop_eq_getElem_cons inside, List.take_append_drop]
  have whole : join ['\n'] (feedLines s) = s := join_splitAt '\n' s
  rw [cut, join_behind _ _ (by simp), join_flatMap] at whole
  exact ⟨_, whole.symm⟩

theorem count_beforeLine {s : Text} {k : Nat} (inside : k ≤ (feedLines s).length) :
    (beforeLine s k).count '\n' = k := by
  have free : ∀ line ∈ (feedLines s).take k, '\n' ∉ line := by
    intro line member
    exact splitAt_notMem '\n' s line (List.mem_of_mem_take member)
  rw [beforeLine, count_lines _ free, List.length_take_of_le inside]

/-- The position behind some characters of a line. -/
theorem positionAt_line {s : Text} {k : Nat} {line : Text}
    (there : (feedLines s)[k]? = some line) (n : Nat) (inside : n ≤ line.length) :
    positionAt s ((lineOffset s k + n : Nat) : Int) = ⟨k + 1, n + 1⟩ := by
  obtain ⟨back, whole⟩ := beforeLine_split there
  obtain ⟨few, -⟩ := List.getElem?_eq_some_iff.mp there
  have front : s.take (lineOffset s k + n) = beforeLine s k ++ line.take n := by
    have cut : (beforeLine s k ++ (line ++ back)).take (lineOffset s k + n) =
        beforeLine s k ++ (line ++ back).take n := List.take_length_add_append n
    rwa [← whole, List.take_append_of_le_length inside] at cut
  have free : '\n' ∉ line.take n := by
    intro feed
    exact splitAt_notMem '\n' s line (List.mem_of_getElem? there) (List.mem_of_mem_take feed)
  have start : lastLineStart (beforeLine s k ++ line.take n) = lineOffset s k := by
    rw [lastLineStart_append _ _ free]
    exact lastLineStart_lines _
  rw [positionAt_eq, take_covered, front, start, List.count_append,
    count_beforeLine (Nat.le_of_lt few), List.count_eq_zero.mpr free]
  congr 1
  omega

/-- Every offset lies in a line, or just behind it. -/
theorem exists_line (s : Text) (n : Nat) (inside : n ≤ s.length) :
    ∃ k line column, (feedLines s)[k]? = some line ∧ column ≤ line.length ∧
      n = lineOffset s k + column := by
  -- the line around the empty word at the offset, its number being the line feeds before; where it
  -- begins follows from the position, which `n` shares with the offset computed from that line
  obtain ⟨left, right, there, start⟩ := feedLines_word (s.take n) [] (s.drop n) (by simp)
  rw [List.nil_append, List.nil_append, List.take_append_drop] at there
  rw [List.length_take_of_le inside] at start
  have reaches : left.length ≤ (left ++ right).length := by simp
  have place : positionAt s n = ⟨(s.take n).count '\n' + 1, left.length + 1⟩ := by
    rw [positionAt_eq, take_covered]
    congr 1
    omega
  have again := positionAt_line there left.length reaches
  refine ⟨(s.take n).count '\n', left ++ right, left.length, there, reaches, ?_⟩
  exact Int.ofNat_inj.mp (positionAt_injective s _ n (place.trans again.symm))

/-! ## Positions that tell offsets -/

/-- A position tells an offset of a text. Its line, counted from one, is a line of the text that
stands there behind the lines before it; it begins as many characters before the offset as the
column, counted from one, says, and has all of these characters. -/
structure Position.Tells (p : Position) (s : Text) (offset : Int) : Prop where
  line_pos : 1 ≤ p.line
  column_pos : 1 ≤ p.column
  start : (lineOffset s (p.line - 1).toNat : Int) = offset - (p.column - 1)
  inLine : ∃ line back, (feedLines s)[(p.line - 1).toNat]? = some line ∧
    s = beforeLine s (p.line - 1).toNat ++ (line ++ back) ∧ p.column - 1 ≤ line.length

/-- The offset that a position tells, computed from its line and its column. -/
def Position.offset (p : Position) (s : Text) : Int :=
  lineOffset s (p.line - 1).toNat + (p.column - 1)

theorem Position.Tells.offset_eq {p : Position} {s : Text} {offset : Int}
    (tells : p.Tells s offset) : p.offset s = offset := by
  have start := tells.start
  unfold Position.offset
  omega

/-- The position of an offset tells it. -/
theorem tells_positionAt (s : Text) (n : Nat) (inside : n ≤ s.length) :
    (positionAt s n).Tells s n := by
  obtain ⟨k, line, column, there, reaches, rfl⟩ := exists_line s n inside
  obtain ⟨back, whole⟩ := beforeLine_split there
  have index : ((k : Int) + 1 - 1).toNat = k := by omega
  rw [positionAt_line there column reaches]
  exact {
    line_pos := by simp only; omega
    column_pos := by simp only; omega
    start := by simp only [index]; omega
    inLine := ⟨line, back, by rw [index, there], by rw [index]; exact whole, by simp only; omega⟩ }

/-- What a position tells is an offset of the text, and it is the position of that offset. -/
theorem Position.Tells.positionAt_eq {p : Position} {s : Text} {offset : Int}
    (tells : p.Tells s offset) : 0 ≤ offset ∧ offset ≤ s.length ∧ positionAt s offset = p := by
  obtain ⟨line, back, there, whole, reaches⟩ := tells.inLine
  have line_pos := tells.line_pos
  have column_pos := tells.column_pos
  have start := tells.start
  have size := congrArg List.length whole
  rw [List.length_append, List.length_append, ← lineOffset] at size
  have place := positionAt_line there (p.column - 1).toNat (by omega)
  have same : offset = ((lineOffset s (p.line - 1).toNat + (p.column - 1).toNat : Nat) : Int) := by
    omega
  refine ⟨by omega, by omega, ?_⟩
  rw [same, place, Int.toNat_of_nonneg (by omega), Int.toNat_of_nonneg (by omega),
    Int.sub_add_cancel, Int.sub_add_cancel]

/-- The positions of a text are its offsets in another form. The position of an offset has a line
and a column, both from one on; that line of the text begins as many characters before the offset as
the column says, and has all of them, so the offset is computed from the position. Whatever line of
the text and column of it are taken, they are the position of the offset computed from them. And
positions come in the order of their offsets, line first and then column. -/
theorem positions_embed_offsets (s : Text) :
    (∀ n : Nat, n ≤ s.length →
      (positionAt s n).Tells s n ∧ (positionAt s n).offset s = n) ∧
    (∀ (p : Position) (offset : Int), p.Tells s offset →
      0 ≤ offset ∧ offset ≤ s.length ∧ positionAt s offset = p) ∧
    ∀ m n : Nat, (positionAt s m).Before (positionAt s n) ↔ m < n := by
  refine ⟨?_, ?_, positionAt_before_iff s⟩
  · intro n inside
    have tells := tells_positionAt s n inside
    exact ⟨tells, tells.offset_eq⟩
  · intro p offset tells
    exact tells.positionAt_eq

/-- An offset just after one line feed and just before another is the first column of an empty line;
the offset behind the text is one column past its last line. -/
theorem positions_embed_offsets_emptyLine :
    6 ≤ "ab\ncd\n\nef".toList.length ∧ 9 ≤ "ab\ncd\n\nef".toList.length ∧
      Position.Tells ⟨3, 1⟩ "ab\ncd\n\nef".toList 6 ∧
      Position.offset ⟨3, 1⟩ "ab\ncd\n\nef".toList = 6 ∧
      positionAt "ab\ncd\n\nef".toList 6 = ⟨3, 1⟩ ∧
      Position.Tells ⟨4, 3⟩ "ab\ncd\n\nef".toList 9 ∧
      Position.Before ⟨3, 1⟩ ⟨4, 3⟩ := by
  have inside : 6 ≤ "ab\ncd\n\nef".toList.length := by decide
  have atEnd : 9 ≤ "ab\ncd\n\nef".toList.length := by decide
  have embed := positions_embed_offsets "ab\ncd\n\nef".toList
  have first : positionAt "ab\ncd\n\nef".toList (6 : Nat) = ⟨3, 1⟩ := by decide
  have last : positionAt "ab\ncd\n\nef".toList (9 : Nat) = ⟨4, 3⟩ := by decide
  have tells := embed.1 6 inside
  have tellsEnd := embed.1 9 atEnd
  have order := (embed.2.2 6 9).mpr (by decide)
  rw [first] at tells order
  rw [last] at tellsEnd order
  exact ⟨inside, atEnd, tells.1, tells.2, (embed.2.1 _ _ tells.1).2.2, tellsEnd.1, order⟩

end BemLint.Text
