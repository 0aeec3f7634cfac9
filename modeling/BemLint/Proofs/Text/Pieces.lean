import BemLint.Text.Basic

/-!
# Pieces of a text

What comes of joining texts and of cutting a text at every occurrence of one character. The pieces
hold no such character; joining them gives the text back, and pieces that were joined come apart
again, each of them cut as it would be alone. A text is also cut, in one way only, behind the longest
beginning whose characters are all of one kind.
-/
namespace BemLint.Text

/-! ## Joining -/

theorem join_cons (sep piece : Text) {pieces : List Text} (some : pieces ≠ []) :
    join sep (piece :: pieces) = piece ++ (sep ++ join sep pieces) := by
  rw [join.eq_3 _ _ _ some, List.append_assoc]

theorem join_consHead (c : Char) (sep : Text) (pieces : List Text) :
    join sep (consHead c pieces) = c :: join sep pieces := by
  match pieces with
  | [] | [_] | _ :: _ :: _ => rfl

theorem join_flatMap (sep piece : Text) (pieces : List Text) :
    join sep (piece :: pieces) = piece ++ pieces.flatMap (sep ++ ·) := by
  induction pieces generalizing piece with
  | nil => simp [join]
  | cons next pieces ih =>
    rw [join_cons sep piece (by simp), ih, List.flatMap_cons, List.append_assoc]

theorem join_append (sep : Text) {first second : List Text} (some : first ≠ [])
    (more : second ≠ []) :
    join sep (first ++ second) = join sep first ++ sep ++ join sep second := by
  induction first with
  | nil => contradiction
  | cons part first ih =>
    cases first with
    | nil => simp [join_cons sep part more, join]
    | cons next first =>
      rw [List.cons_append, join_cons sep part (by simp), join_cons sep part (by simp),
        ih (by simp)]
      simp

/-- Pieces that others follow have the separator behind each of them. -/
theorem join_behind (sep : Text) (first : List Text) {second : List Text} (more : second ≠ []) :
    join sep (first ++ second) = first.flatMap (· ++ sep) ++ join sep second := by
  induction first with
  | nil => rfl
  | cons part first ih =>
    rw [List.cons_append, join_cons sep part (by simp [more]), ih, List.flatMap_cons,
      List.append_assoc, List.append_assoc]

theorem mem_join (c : Char) (sep : Text) (parts : List Text) (absent : c ∉ sep) :
    c ∈ join sep parts ↔ ∃ part ∈ parts, c ∈ part := by
  cases parts with
  | nil => simp [join]
  | cons part parts => simp [join_flatMap, absent]

/-! ## Cutting -/

/-- The pieces between single characters, written with the character between them again. -/
theorem join_splitAt (sep : Char) (s : Text) : join [sep] (splitAt sep s) = s := by
  induction s with
  | nil => rfl
  | cons c s ih =>
    rw [splitAt]
    split
    next same =>
      rw [join_cons [sep] [] (splitAt_ne_nil sep s), ih, same]
      rfl
    · rw [join_consHead, ih]

theorem splitAt_absent (sep : Char) (s : Text) (absent : sep ∉ s) : splitAt sep s = [s] := by
  induction s with
  | nil => rfl
  | cons c s ih =>
    simp only [List.mem_cons, not_or] at absent
    rw [splitAt, if_neg (Ne.symm absent.1), ih absent.2]
    rfl

theorem consHead_append (c : Char) (pieces more : List Text) (some : pieces ≠ []) :
    consHead c pieces ++ more = consHead c (pieces ++ more) := by
  cases pieces with
  | nil => contradiction
  | cons piece pieces => rfl

theorem length_consHead (c : Char) (pieces : List Text) :
    (consHead c pieces).length = max 1 pieces.length := by
  cases pieces with
  | nil => rfl
  | cons piece pieces =>
    rw [consHead, List.length_cons, List.length_cons]
    omega

theorem consHead_getElem?_succ (c : Char) (pieces : List Text) (k : Nat) :
    (consHead c pieces)[k + 1]? = pieces[k + 1]? := by
  cases pieces <;> rfl

/-- What is on the two sides of a separator is cut apart independently. -/
theorem splitAt_sep (sep : Char) (s t : Text) :
    splitAt sep (s ++ sep :: t) = splitAt sep s ++ splitAt sep t := by
  induction s with
  | nil => simp [splitAt]
  | cons c s ih =>
    rw [List.cons_append, splitAt, splitAt, ih]
    split
    · rfl
    · rw [consHead_append _ _ _ (splitAt_ne_nil sep s)]

theorem splitAt_append (sep : Char) (s t : Text) (absent : sep ∉ s) :
    splitAt sep (s ++ sep :: t) = s :: splitAt sep t := by
  rw [splitAt_sep, splitAt_absent sep s absent]
  rfl

theorem splitAt_notMem (sep : Char) (s : Text) : ∀ piece ∈ splitAt sep s, sep ∉ piece := by
  induction s with
  | nil => simp [splitAt]
  | cons c s ih =>
    rw [splitAt]
    split
    next => simpa using ih
    next differ =>
      obtain ⟨front, pieces, e⟩ := List.exists_cons_of_ne_nil (splitAt_ne_nil sep s)
      rw [e] at ih ⊢
      simp only [consHead, List.mem_cons, forall_eq_or_imp, not_or] at ih ⊢
      exact ⟨⟨Ne.symm differ, ih.1⟩, ih.2⟩

theorem length_splitAt (sep : Char) (s : Text) : (splitAt sep s).length = s.count sep + 1 := by
  induction s with
  | nil => rfl
  | cons c s ih =>
    rw [splitAt]
    split
    next same => rw [same, List.length_cons, ih, List.count_cons_self]
    next differ =>
      obtain ⟨piece, pieces, e⟩ := List.exists_cons_of_ne_nil (splitAt_ne_nil sep s)
      rw [e] at ih ⊢
      rw [consHead, List.count_cons_of_ne differ, ← ih]
      rfl

/-- What holds no separator is added to the first piece. -/
theorem splitAt_front (sep : Char) (s t : Text) (absent : sep ∉ s) :
    ∃ piece pieces, splitAt sep t = piece :: pieces ∧
      splitAt sep (s ++ t) = (s ++ piece) :: pieces := by
  obtain ⟨piece, pieces, e⟩ := List.exists_cons_of_ne_nil (splitAt_ne_nil sep t)
  refine ⟨piece, pieces, e, ?_⟩
  induction s with
  | nil => exact e
  | cons c s ih =>
    simp only [List.mem_cons, not_or] at absent
    rw [List.cons_append, splitAt, if_neg (Ne.symm absent.1), ih absent.2]
    rfl

theorem splitAt_join (sep : Char) (parts : List Text) (some : parts ≠ []) :
    splitAt sep (join [sep] parts) = parts.flatMap (splitAt sep) := by
  induction parts with
  | nil => contradiction
  | cons part parts ih =>
    cases parts with
    | nil => simp [join]
    | cons next parts =>
      rw [join_cons [sep] part (by simp), List.singleton_append, splitAt_sep, ih (by simp)]
      rfl

/-- Texts without separators are pieces of their own. -/
theorem pieces_of_notMem (sep : Char) (parts : List Text) (free : ∀ part ∈ parts, sep ∉ part) :
    parts.flatMap (splitAt sep) = parts := by
  induction parts with
  | nil => rfl
  | cons part parts ih =>
    rw [List.flatMap_cons, splitAt_absent sep part (free part (by simp)),
      ih fun next member => free next (by simp [member])]
    rfl

theorem length_le_pieces (sep : Char) (parts : List Text) :
    parts.length ≤ (parts.flatMap (splitAt sep)).length := by
  induction parts with
  | nil => simp
  | cons part parts ih =>
    have := List.length_pos_iff.mpr (splitAt_ne_nil sep part)
    simp only [List.flatMap_cons, List.length_append, List.length_cons]
    omega

/-- Texts that fall into no more pieces than they are hold no separator. -/
theorem notMem_of_length_pieces (sep : Char) (parts : List Text)
    (few : (parts.flatMap (splitAt sep)).length ≤ parts.length) : ∀ part ∈ parts, sep ∉ part := by
  induction parts with
  | nil => simp
  | cons part parts ih =>
    have behind := length_le_pieces sep parts
    have front := List.length_pos_iff.mpr (splitAt_ne_nil sep part)
    simp only [List.flatMap_cons, List.length_append, List.length_cons] at few
    intro p member
    rcases List.mem_cons.mp member with rfl | member
    · obtain ⟨piece, e⟩ := List.length_eq_one_iff.mp (show (splitAt sep p).length = 1 by omega)
      have whole := join_splitAt sep p
      rw [e, join] at whole
      exact whole ▸ splitAt_notMem sep p piece (by simp [e])
    · exact ih (by omega) p member

theorem after?_iff (s sub rest : Text) : after? s sub = some rest ↔ s = sub ++ rest := by
  induction s generalizing sub with
  | nil => cases sub <;> simp [after?, eq_comm]
  | cons c s ih =>
    cases sub with
    | nil => simp [after?]
    | cons d sub =>
      by_cases same : c = d
      · simp [after?, same, ih]
      · simp [after?, same]

theorem replaceFirst_append (old : Char) (new s t : Text) (absent : old ∉ s) :
    replaceFirst old new (s ++ old :: t) = s ++ (new ++ t) := by
  induction s with
  | nil => simp [replaceFirst]
  | cons c s ih =>
    simp only [List.mem_cons, not_or] at absent
    rw [List.cons_append, replaceFirst, if_neg (Ne.symm absent.1), ih absent.2]
    rfl

/-! ## The longest beginning of one kind -/

/-- A text is cut where characters of one kind stop. -/
theorem exists_span (p : Char → Bool) (s : Text) :
    ∃ front rest, s = front ++ rest ∧ (∀ c ∈ front, p c = true) ∧ ∀ c ∈ rest.head?, p c = false := by
  refine ⟨s.takeWhile p, s.dropWhile p, List.takeWhile_append_dropWhile.symm,
    fun c => List.all_eq_true.mp List.all_takeWhile c, fun c head => ?_⟩
  have stops := List.head?_dropWhile_not p s
  rw [head] at stops
  simpa using stops

/-- There is one such place. -/
theorem span_unique {p : Char → Bool} {front rest front' rest' : Text}
    (whole : front ++ rest = front' ++ rest') (all : ∀ c ∈ front, p c = true)
    (all' : ∀ c ∈ front', p c = true) (stops : ∀ c ∈ rest.head?, p c = false)
    (stops' : ∀ c ∈ rest'.head?, p c = false) : front = front' ∧ rest = rest' := by
  have takeWhile {front rest : Text} (all : ∀ c ∈ front, p c = true)
      (stops : ∀ c ∈ rest.head?, p c = false) : (front ++ rest).takeWhile p = front := by
    rw [List.takeWhile_append_of_pos all]
    cases rest with
    | nil => simp
    | cons c rest => simp [stops c rfl]
  have same : front = front' := by
    rw [← takeWhile all stops, whole, takeWhile all' stops']
  exact ⟨same, List.append_cancel_left (same ▸ whole)⟩

/-! ## The last occurrence -/

/-- A text that holds a character is cut at the last of its occurrences. -/
theorem exists_last (c : Char) (s : Text) (member : c ∈ s) :
    ∃ before after, s = before ++ c :: after ∧ c ∉ after := by
  obtain ⟨after, before, turned, absent⟩ :=
    List.eq_append_cons_of_mem (List.mem_reverse.mpr member)
  refine ⟨before.reverse, after.reverse, ?_, by simpa using absent⟩
  simpa using congrArg List.reverse turned

theorem reverse_absent {c : Char} {s : Text} (absent : c ∉ s) :
    ∀ d ∈ s.reverse, decide (d ≠ c) = true := by
  intro d member
  rw [decide_eq_true_eq]
  rintro rfl
  exact absent (List.mem_reverse.mp member)

theorem takeWhile_last (c : Char) (before after : Text) (absent : c ∉ after) :
    (before ++ c :: after).reverse.takeWhile (· ≠ c) = after.reverse := by
  have turned : (before ++ c :: after).reverse = after.reverse ++ c :: before.reverse := by simp
  rw [turned, List.takeWhile_append_of_pos (reverse_absent absent)]
  simp

theorem dropWhile_last (c : Char) (before after : Text) (absent : c ∉ after) :
    (before ++ c :: after).reverse.dropWhile (· ≠ c) = c :: before.reverse := by
  have turned : (before ++ c :: after).reverse = after.reverse ++ c :: before.reverse := by simp
  rw [turned, List.dropWhile_append_of_pos (reverse_absent absent)]
  simp

end BemLint.Text
