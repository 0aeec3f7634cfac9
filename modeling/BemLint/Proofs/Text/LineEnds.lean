import BemLint.Proofs.Text.Lines
import BemLint.Proofs.Text.Words

/-!
# Line ends made alike

Offsets move when line ends become line feeds. What stays is how a text falls into parts: the parts
can be converted one by one as long as no cut goes between a carriage return and its line feed, and
a character that is no part of a line end stands in the result for one in the text. White space stays
white space and words are untouched. When every carriage return has its line feed, the last line
before such a cut has the same number and length as well.
-/
namespace BemLint.Text

theorem unify_cons (c : Char) (s : Text) (plain : c ≠ '\r') :
    unifyNewlines (c :: s) = c :: unifyNewlines s :=
  unifyNewlines.eq_4 c s (fun _ same => absurd same plain) plain

theorem unify_return (s : Text) (single : s.head? ≠ some '\n') :
    unifyNewlines ('\r' :: s) = '\n' :: unifyNewlines s := by
  apply unifyNewlines.eq_3
  intro rest feed
  rw [feed] at single
  exact single rfl

theorem head?_ne_feed (s : Text) (single : ∀ rest, s = '\n' :: rest → False) :
    s.head? ≠ some '\n' := by
  intro feed
  obtain ⟨rest, split⟩ := List.head?_eq_some_iff.mp feed
  exact single rest split

/-- Parts of a text can be converted one by one, unless they are cut inside one line end. -/
theorem unify_append (s t : Text) (apart : s.getLast? = some '\r' → t.head? ≠ some '\n') :
    unifyNewlines (s ++ t) = unifyNewlines s ++ unifyNewlines t := by
  fun_induction unifyNewlines s with
  | case1 => rfl
  | case2 rest ih =>
    have later := ih fun last => apart (by simp [List.getLast?_cons, last])
    rw [List.cons_append, List.cons_append, unifyNewlines, later, List.cons_append]
  | case3 rest single ih =>
    have later := ih fun last => apart (by simp [List.getLast?_cons, last])
    have stillSingle : (rest ++ t).head? ≠ some '\n' := by
      cases rest with
      | nil => exact apart rfl
      | cons d rest => exact head?_ne_feed (d :: rest) single
    rw [List.cons_append, unify_return _ stillSingle, later, List.cons_append]
  | case4 c rest _ plain ih =>
    have later := ih fun last => apart (by simp [List.getLast?_cons, last])
    rw [List.cons_append, unify_cons c _ plain, later, List.cons_append]

theorem unify_split (s t : Text) (c : Char) (plain : c ≠ '\n') (other : c ≠ '\r') :
    unifyNewlines (s ++ c :: t) = unifyNewlines s ++ c :: unifyNewlines t := by
  rw [unify_append s (c :: t) fun _ => by simpa using plain, unify_cons c t other]

/-- What follows a text adds to what the text was converted to and takes nothing back. -/
theorem unify_begins (s t : Text) : unifyNewlines s <+: unifyNewlines (s ++ t) := by
  by_cases apart : s.getLast? = some '\r' → t.head? ≠ some '\n'
  · rw [unify_append s t apart]
    exact List.prefix_append _ _
  · obtain ⟨ret, feed⟩ := Classical.not_imp.mp apart
    obtain ⟨front, rfl⟩ := List.getLast?_eq_some_iff.mp ret
    obtain ⟨back, rfl⟩ := List.head?_eq_some_iff.mp (Classical.not_not.mp feed)
    rw [List.append_assoc, unify_append front _ (by simp), unify_append front _ (by simp)]
    exact ⟨unifyNewlines back, by simp [unifyNewlines]⟩

theorem unify_eq_nil (s : Text) (empty : unifyNewlines s = []) : s = [] := by
  revert empty
  fun_cases unifyNewlines s <;> simp

/-- A character that is no part of a line end stands for one in the text. -/
theorem exists_unified (s before after : Text) (c : Char) (plain : c ≠ '\n')
    (split : unifyNewlines s = before ++ c :: after) :
    ∃ front back, s = front ++ c :: back ∧ unifyNewlines front = before ∧
      unifyNewlines back = after := by
  fun_induction unifyNewlines s generalizing before with
  | case1 => simp at split
  | case2 rest ih =>
    cases before with
    | nil => exact absurd (List.cons.inj split).1.symm plain
    | cons d before =>
      obtain ⟨rfl, more⟩ := List.cons.inj split
      obtain ⟨front, back, rfl, first, second⟩ := ih before more
      exact ⟨'\r' :: '\n' :: front, back, rfl, by rw [unifyNewlines, first], second⟩
  | case3 rest single ih =>
    cases before with
    | nil => exact absurd (List.cons.inj split).1.symm plain
    | cons d before =>
      obtain ⟨rfl, more⟩ := List.cons.inj split
      obtain ⟨front, back, rfl, first, second⟩ := ih before more
      have stillSingle : front.head? ≠ some '\n' := by
        cases front with
        | nil => simp
        | cons e front => exact head?_ne_feed (e :: front ++ c :: back) single
      exact ⟨'\r' :: front, back, rfl, by rw [unify_return front stillSingle, first], second⟩
  | case4 c rest _ other ih =>
    cases before with
    | nil =>
      obtain ⟨rfl, more⟩ := List.cons.inj split
      exact ⟨[], rest, rfl, rfl, more⟩
    | cons d before =>
      obtain ⟨rfl, more⟩ := List.cons.inj split
      obtain ⟨front, back, rfl, first, second⟩ := ih before more
      exact ⟨c :: front, back, rfl, by rw [unify_cons c _ other, first], second⟩

/-- So does a word at the front. -/
theorem exists_unified_word (s word after : Text) (solid : Solid word)
    (split : unifyNewlines s = word ++ after) :
    ∃ back, s = word ++ back ∧ unifyNewlines back = after := by
  induction word generalizing s with
  | nil => exact ⟨s, rfl, split⟩
  | cons c word ih =>
    have plain : c ≠ '\n' := by
      intro feed
      rw [feed] at solid
      exact absurd (solid '\n' (by simp)) (by decide)
    obtain ⟨front, back, rfl, none, more⟩ := exists_unified s [] (word ++ after) c plain split
    obtain ⟨rest, rfl, last⟩ := ih back (fun d member => solid d (by simp [member])) more
    rw [unify_eq_nil front none]
    exact ⟨rest, rfl, last⟩

/-- The characters that make no line end are those of the text. -/
theorem mem_unify (s : Text) (c : Char) (plain : c ≠ '\n') (other : c ≠ '\r') :
    c ∈ unifyNewlines s ↔ c ∈ s := by
  fun_induction unifyNewlines s with
  | case1 => rfl
  | case2 rest ih | case3 rest _ ih => simp [plain, other, ih]
  | case4 d rest _ _ ih => simp [ih]

theorem unify_solid (s : Text) (solid : Solid s) : unifyNewlines s = s := by
  apply unifyNewlines_noReturn
  intro member
  exact absurd (solid '\r' member) (by decide)

theorem solid_edges (word : Text) (solid : Solid word) :
    word.head? ≠ some '\n' ∧ word.getLast? ≠ some '\r' := by
  constructor
  · intro feed
    exact absurd (solid '\n' (List.mem_of_head? feed)) (by decide)
  · intro ret
    exact absurd (solid '\r' (List.mem_of_getLast? ret)) (by decide)

theorem getLast?_ne {s t : Text} {c : Char} (nonempty : t ≠ []) (last : t.getLast? ≠ some c) :
    (s ++ t).getLast? ≠ some c := by
  rw [List.getLast?_eq_some_getLast nonempty] at last
  rwa [List.getLast?_append, List.getLast?_eq_some_getLast nonempty]

/-- A word between two texts stays as it is. -/
theorem unify_word (s word t : Text) (nonempty : word ≠ []) (solid : Solid word) :
    unifyNewlines (s ++ (word ++ t)) = unifyNewlines s ++ (word ++ unifyNewlines t) := by
  obtain ⟨plain, other⟩ := solid_edges word solid
  have front : (word ++ t).head? ≠ some '\n' := by
    cases word with
    | nil => contradiction
    | cons c word => exact plain
  rw [unify_append s _ fun _ => front, unify_append word t fun ret => absurd ret other,
    unify_solid word solid]

theorem allBlank_unify (s : Text) : AllBlank (unifyNewlines s) ↔ AllBlank s := by
  have feed : isBlank '\n' = true := by decide
  have ret : isBlank '\r' = true := by decide
  unfold AllBlank
  fun_induction unifyNewlines s with
  | case1 => rfl
  | case2 rest ih | case3 rest _ ih => simp [feed, ret, ih]
  | case4 d rest _ _ ih => simp [ih]

theorem endsWord_unify (s : Text) : endsWord (unifyNewlines s) = endsWord s := by
  fun_cases unifyNewlines s <;> rfl

/-- Line ends are white space in either form, so the words are the same. -/
theorem words_unify (s : Text) : words (unifyNewlines s) = words s := by
  have feed : isBlank '\n' = true := by decide
  have ret : isBlank '\r' = true := by decide
  fun_induction unifyNewlines s with
  | case1 => rfl
  | case2 rest ih | case3 rest _ ih => simp [words, feed, ret, ih]
  | case4 c rest _ _ ih => rw [words, words, endsWord_unify, ih]

/-! ## Where offsets come to lie -/

/-- Where an offset of a text comes to lie when line ends are made alike. -/
def unifiedOffset (s : Text) (n : Nat) : Nat := (unifyNewlines (s.take n)).length

theorem unifiedOffset_append (s t : Text) : unifiedOffset (s ++ t) s.length =
    (unifyNewlines s).length := by
  rw [unifiedOffset, List.take_left]

theorem unifiedOffset_of_split {source : Text} {n : Nat} (front back : Text)
    (split : source = front ++ back) (place : n = front.length) :
    unifiedOffset source n = (unifyNewlines front).length := by
  rw [split, place, unifiedOffset_append]

/-- Behind a text that does not end inside a line end, offsets come to lie as they do alone. -/
theorem unifiedOffset_add (s t : Text) (n : Nat) (last : s.getLast? ≠ some '\r') :
    unifiedOffset (s ++ t) (s.length + n) =
      unifiedOffset (s ++ t) s.length + unifiedOffset t n := by
  rw [unifiedOffset_append, unifiedOffset, List.take_length_add_append,
    unify_append s _ fun ret => absurd ret last, List.length_append]
  rfl

theorem unifiedOffset_mono (s : Text) (m n : Nat) (le : m ≤ n) :
    unifiedOffset s m ≤ unifiedOffset s n := by
  have extend : s.take n = s.take m ++ (s.drop m).take (n - m) := by
    rw [← List.take_add, Nat.add_sub_of_le le]
  unfold unifiedOffset
  rw [extend]
  exact (unify_begins _ _).length_le

/-- Past a character that makes no line end, offsets come to lie further on. -/
theorem unifiedOffset_lt (s t : Text) (c : Char) (n : Nat) (plain : c ≠ '\n') (other : c ≠ '\r')
    (past : s.length < n) :
    unifiedOffset (s ++ c :: t) s.length < unifiedOffset (s ++ c :: t) n := by
  have next := unifiedOffset_mono (s ++ c :: t) (s.length + 1) n past
  have one : (s ++ c :: t).take (s.length + 1) = s ++ [c] := by
    simp [List.take_length_add_append]
  rw [unifiedOffset_append]
  rw [unifiedOffset, one, unify_split s [] c plain other, List.length_append,
    List.length_cons] at next
  omega

/-! ## Carriage returns that have their line feed -/

/-- Every carriage return of a text is followed by a line feed. -/
def PairedReturns (s : Text) : Prop := ∀ i : Nat, s[i]? = some '\r' → s[i + 1]? = some '\n'

instance (s : Text) : Decidable (PairedReturns s) :=
  decidable_of_iff (∀ i < s.length, s[i]? = some '\r' → s[i + 1]? = some '\n')
    ⟨fun paired i ret => paired i (List.getElem?_eq_some_iff.mp ret).1 ret,
      fun paired i _ ret => paired i ret⟩

theorem PairedReturns.tail {c : Char} {s : Text} (paired : PairedReturns (c :: s)) :
    PairedReturns s := by
  intro i ret
  exact paired (i + 1) ret

/-- A cut before a character that is no line feed leaves no carriage return alone. -/
theorem PairedReturns.front {s t : Text} {c : Char} (plain : c ≠ '\n')
    (paired : PairedReturns (s ++ c :: t)) : PairedReturns s := by
  intro i ret
  have inside : i < s.length := (List.getElem?_eq_some_iff.mp ret).1
  have feed := paired i (by rw [List.getElem?_append_left inside, ret])
  rcases Nat.lt_or_eq_of_le (Nat.succ_le_of_lt inside) with before | last
  · rwa [List.getElem?_append_left before] at feed
  · have same : s.length = i + 1 := last.symm
    rw [← same, List.getElem?_append_right (Nat.le_refl _), Nat.sub_self] at feed
    exact absurd (Option.some.inj feed) plain

theorem PairedReturns.not_single {s : Text} (paired : PairedReturns ('\r' :: s)) :
    ∃ t, s = '\n' :: t := by
  apply List.head?_eq_some_iff.mp
  rw [List.head?_eq_getElem?]
  exact paired 0 rfl

/-- With its line feed a carriage return is one line end in either form. -/
theorem count_unify (s : Text) (paired : PairedReturns s) :
    (unifyNewlines s).count '\n' = s.count '\n' := by
  fun_induction unifyNewlines s with
  | case1 => rfl
  | case2 rest ih => simp [ih paired.tail.tail]
  | case3 rest single ih =>
    obtain ⟨t, rfl⟩ := paired.not_single
    exact absurd rfl (single t)
  | case4 c rest _ _ ih => simp [List.count_cons, ih paired.tail]

theorem lastLineLength_feed (s : Text) : lastLineLength ('\n' :: s) = lastLineLength s := by
  have whole := lastLineStart_add ('\n' :: s)
  have alone := lastLineStart_add s
  rw [List.length_cons] at whole
  by_cases feed : '\n' ∈ s
  · have later := lastLineStart_append_feed ['\n'] s feed
    rw [List.singleton_append, List.length_singleton] at later
    omega
  · have first := lastLineStart_feed [] s feed
    rw [List.nil_append, List.length_nil] at first
    rw [lastLineStart_feedless s feed] at alone
    omega

theorem lastLineLength_cons (c : Char) (s : Text) (plain : c ≠ '\n') :
    lastLineLength (c :: s) = lastLineLength s + if '\n' ∈ s then 0 else 1 := by
  have whole := lastLineStart_add (c :: s)
  have alone := lastLineStart_add s
  rw [List.length_cons] at whole
  split
  next feed =>
    have later := lastLineStart_append_feed [c] s feed
    rw [List.singleton_append, List.length_singleton] at later
    omega
  next free =>
    rw [lastLineStart_feedless s free] at alone
    rw [lastLineStart_feedless (c :: s) (by simp [Ne.symm plain, free])] at whole
    omega

/-- The last line is as long in either form. -/
theorem lastLineLength_unify (s : Text) (paired : PairedReturns s) :
    lastLineLength (unifyNewlines s) = lastLineLength s := by
  fun_induction unifyNewlines s with
  | case1 => rfl
  | case2 rest ih =>
    rw [lastLineLength_cons '\r' _ (by decide), lastLineLength_feed, lastLineLength_feed,
      ih paired.tail.tail]
    simp
  | case3 rest single ih =>
    obtain ⟨t, rfl⟩ := paired.not_single
    exact absurd rfl (single t)
  | case4 c rest _ _ ih =>
    have same := ih paired.tail
    by_cases feed : c = '\n'
    · rw [feed, lastLineLength_feed, lastLineLength_feed, same]
    · have lines : '\n' ∈ unifyNewlines rest ↔ '\n' ∈ rest := by
        rw [← List.count_pos_iff, count_unify rest paired.tail, List.count_pos_iff]
      rw [lastLineLength_cons c _ feed, lastLineLength_cons c _ feed, same]
      simp only [lines]

/-- A place before a character that is no line feed is the same place in either form. -/
theorem positionAt_unify (front back : Text) (c : Char) (plain : c ≠ '\n')
    (paired : PairedReturns (front ++ c :: back)) :
    positionAt (unifyNewlines (front ++ c :: back))
        (unifiedOffset (front ++ c :: back) front.length) =
      positionAt (front ++ c :: back) front.length := by
  have returns := paired.front plain
  rw [unifiedOffset_append, unify_append front (c :: back) fun _ => by simpa using plain,
    positionAt_end, positionAt_end, count_unify front returns, lastLineLength_unify front returns]

end BemLint.Text
