import BemLint.Proofs.Text.Pieces
import BemLint.Proofs.Text.Position

/-!
# Two notions of a line

Positions count line feeds only; a page is cut at every line boundary. A line of the first kind with
a word in it has a counterpart of the second kind with the same number. As long as no other boundary
comes before it, the two are the same line exactly when it holds no other boundary itself: the lines
of a page hold none, and a line without one is cut from the text by both rules alike.
-/
namespace BemLint.Text

def OneLine (s : Text) : Prop := ∀ c ∈ s, isLineBreak c = false

theorem isLineBreak_feed : isLineBreak '\n' = true := by decide

theorem isLineBreak_return : isLineBreak '\r' = true := by decide

/-! ## Lines between line feeds -/

theorem feedLines_feed (s : Text) : feedLines ('\n' :: s) = [] :: feedLines s := rfl

theorem feedLines_cons (c : Char) (s : Text) (other : c ≠ '\n') :
    feedLines (c :: s) = consHead c (feedLines s) := by
  rw [feedLines, splitAt, if_neg other]
  rfl

/-- A text ends with its only line, or goes on after the first one. -/
theorem feedLines_cases (s : Text) :
    feedLines s = [s] ∨
      ∃ line rest, s = line ++ '\n' :: rest ∧ feedLines s = line :: feedLines rest := by
  by_cases feed : '\n' ∈ s
  · right
    obtain ⟨line, rest, whole, free⟩ := List.eq_append_cons_of_mem feed
    exact ⟨line, rest, whole, by rw [whole, feedLines, splitAt_append _ _ _ free, feedLines]⟩
  · exact .inl (splitAt_absent _ _ feed)

/-- A text is its last line only, or has a line feed before its last line. -/
theorem lastLine_cases (s : Text) :
    '\n' ∉ s ∨ ∃ front last, s = front ++ '\n' :: last ∧ '\n' ∉ last := by
  by_cases feed : '\n' ∈ s
  · exact .inr (exists_last '\n' s feed)
  · exact .inl feed

theorem lastLineStart_feed (front last : Text) (feedless : '\n' ∉ last) :
    lastLineStart (front ++ '\n' :: last) = front.length + 1 := by
  have same := lastLineStart_append (front ++ ['\n']) last feedless
  rw [List.append_assoc, List.singleton_append] at same
  rw [same, lastLineStart_eq]
  simp

/-- The line in which a word stands, with what is before the word and after it in that line. -/
theorem feedLines_word (before word after : Text) (feedless : '\n' ∉ word) :
    ∃ left right, (feedLines (before ++ (word ++ after)))[before.count '\n']? =
        some (left ++ (word ++ right)) ∧
      lastLineStart before + left.length = before.length := by
  obtain ⟨right, lines, -, behind⟩ := splitAt_front '\n' word after feedless
  rcases lastLine_cases before with free | ⟨front, left, rfl, free⟩
  · obtain ⟨piece, more, e, whole⟩ := splitAt_front '\n' before (word ++ after) free
    obtain ⟨rfl, rfl⟩ := List.cons.inj (behind.symm.trans e)
    refine ⟨before, right, ?_, by rw [lastLineStart_feedless _ free, Nat.zero_add]⟩
    rw [feedLines, whole, List.count_eq_zero.mpr free]
    rfl
  · obtain ⟨piece, more, e, whole⟩ := splitAt_front '\n' left (word ++ after) free
    obtain ⟨rfl, rfl⟩ := List.cons.inj (behind.symm.trans e)
    refine ⟨left, right, ?_, ?_⟩
    · have number : (front ++ '\n' :: left).count '\n' = (splitAt '\n' front).length := by
        rw [length_splitAt, List.count_append, List.count_cons_self, List.count_eq_zero.mpr free]
      rw [feedLines, List.append_assoc, List.cons_append, splitAt_sep, whole, number,
        List.getElem?_append_right (Nat.le_refl _), Nat.sub_self]
      rfl
    · rw [lastLineStart_feed front left free, List.length_append, List.length_cons]
      omega

/-- Without a carriage return the ends of lines are line feeds already. -/
theorem unifyNewlines_noReturn (s : Text) (noReturn : '\r' ∉ s) : unifyNewlines s = s := by
  fun_induction unifyNewlines s with
  | case1 => rfl
  | case2 | case3 => simp at noReturn
  | case4 c rest _ _ ih => rw [ih fun member => noReturn (by simp [member])]

/-! ## Lines of a page -/

theorem pageLines_oneLine (s : Text) : ∀ line ∈ pageLines s, OneLine line := by
  fun_induction pageLines s with
  | case1 => simp
  | case2 rest ih =>
    intro line member
    rcases List.mem_cons.mp member with rfl | member
    · intro c inside
      contradiction
    · exact ih line member
  | case3 c rest _ ends ih =>
    intro line member
    rcases List.mem_cons.mp member with rfl | member
    · intro c inside
      contradiction
    · exact ih line member
  | case4 c rest _ goesOn ih =>
    have front : isLineBreak c = false := by simpa using goesOn
    intro line member
    cases e : pageLines rest with
    | nil =>
      rw [e] at member
      obtain rfl := List.mem_singleton.mp member
      simpa [OneLine] using front
    | cons piece pieces =>
      rw [e] at member ih
      rcases List.mem_cons.mp member with rfl | member
      · have rest := ih piece (by simp)
        simpa [OneLine, front] using rest
      · exact ih line (by simp [member])

theorem pageLines_cons (c : Char) (s : Text) (plain : isLineBreak c = false) :
    pageLines (c :: s) = consHead c (pageLines s) := by
  have notReturn : c ≠ '\r' := by
    rintro rfl
    simp [isLineBreak_return] at plain
  rw [pageLines.eq_3 _ _ fun _ same => absurd same notReturn, plain]
  rfl

/-- A line with no boundary but the line feed after it is the first line of a page. -/
theorem pageLines_feed (line rest : Text) (oneLine : OneLine line) :
    pageLines (line ++ '\n' :: rest) = line :: pageLines rest := by
  induction line with
  | nil => rw [List.nil_append, pageLines.eq_3 _ _ (by simp), if_pos isLineBreak_feed]
  | cons c line ih =>
    rw [List.cons_append, pageLines_cons _ _ (oneLine c (by simp)),
      ih fun d member => oneLine d (by simp [member])]
    rfl

theorem pageLines_single (line : Text) (oneLine : OneLine line) (filled : line ≠ []) :
    pageLines line = [line] := by
  induction line with
  | nil => contradiction
  | cons c line ih =>
    rw [pageLines_cons _ _ (oneLine c (by simp))]
    cases line with
    | nil => rfl
    | cons d line =>
      rw [ih (fun x member => oneLine x (by simp [member])) (by simp)]
      rfl

/-- With something in a line between line feeds, a page has at least as many lines as it takes to
reach that line: every line feed is a boundary of the page. -/
theorem lt_length_pageLines (s : Text) (k : Nat) (line : Text)
    (feed : (feedLines s)[k]? = some line) (filled : line ≠ []) : k < (pageLines s).length := by
  fun_induction pageLines s generalizing k line with
  | case1 =>
    cases k with
    | zero => cases feed; contradiction
    | succ k => simp [feedLines, splitAt] at feed
  | case2 rest ih =>
    rw [feedLines_cons _ _ (by decide), feedLines_feed] at feed
    cases k with
    | zero => simp
    | succ k => simpa using ih k line feed filled
  | case3 c rest _ _ ih =>
    cases k with
    | zero => simp
    | succ k =>
      have later : (feedLines rest)[k + 1]? = some line ∨ (feedLines rest)[k]? = some line := by
        by_cases isFeed : c = '\n'
        · rw [isFeed, feedLines_feed] at feed
          exact .inr feed
        · rw [feedLines_cons _ _ isFeed] at feed
          exact .inl (consHead_getElem?_succ _ _ _ ▸ feed)
      rcases later with later | later
      · have below := ih (k + 1) line later filled
        rw [List.length_cons]
        omega
      · simpa using ih k line later filled
  | case4 c rest _ goesOn ih =>
    have notFeed : c ≠ '\n' := by
      rintro rfl
      exact goesOn isLineBreak_feed
    rw [feedLines_cons _ _ notFeed] at feed
    cases k with
    | zero =>
      rw [length_consHead]
      omega
    | succ k =>
      have later := ih (k + 1) line (consHead_getElem?_succ _ _ _ ▸ feed) filled
      rw [length_consHead]
      omega

/-- Up to the first other boundary lines have the same numbers by both rules. -/
theorem pageLines_getElem? (s : Text) (k : Nat) (line : Text)
    (feed : (feedLines s)[k]? = some line) (filled : line ≠ []) (oneLine : OneLine line)
    (earlier : ∀ l ∈ (feedLines s).take k, OneLine l) : (pageLines s)[k]? = some line := by
  induction k generalizing s with
  | zero =>
    rcases feedLines_cases s with e | ⟨front, rest, whole, e⟩
    · rw [e] at feed
      cases feed
      rw [pageLines_single line oneLine filled]
      rfl
    · rw [e] at feed
      cases feed
      rw [whole, pageLines_feed line rest oneLine]
      rfl
  | succ k ih =>
    rcases feedLines_cases s with e | ⟨front, rest, whole, e⟩
    · simp [e] at feed
    · rw [e] at feed earlier
      have first := earlier front (by simp)
      rw [whole, pageLines_feed front rest first]
      exact ih rest feed fun l member => earlier l (by simp [member])

end BemLint.Text
