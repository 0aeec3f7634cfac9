import BemLint.Proofs.ClassAttr.LeftToRight
import BemLint.Proofs.Text.LineEnds

/-!
# Class attributes and line ends

The parts of an attribute meet at characters that make no line end: its name, the sign, a quote or a
brace. So an attribute that is written in a text is still written when line ends are made alike,
with every part converted by itself, and none is written there that was not written before. The scan
takes the images of the attributes that it took.
-/
namespace BemLint.ClassAttr
open Text (AllBlank unifyNewlines unifiedOffset)

/-- An attribute of a text when line ends are made alike. -/
def unify (source : Text) (a : ClassAttr) : ClassAttr :=
  ⟨unifiedOffset source a.first, unifiedOffset source a.start, unifyNewlines a.value,
    unifiedOffset source a.stop⟩

theorem quote_plain (quote : Char)
    (isQuote : quote = graveAccent ∨ quote = '"' ∨ quote = '\'') :
    quote ≠ '\n' ∧ quote ≠ '\r' := by
  rcases isQuote with rfl | rfl | rfl <;> decide

section Parts

variable {lead value tail opening : Text} {quote : Char}

theorem enclosure_plain (enclosed : Enclosure opening quote tail) :
    quote ≠ '\n' ∧ quote ≠ '\r' := by
  cases enclosed with
  | bare isQuote => exact quote_plain quote (.inr isQuote)
  | braced isQuote => exact quote_plain quote isQuote

theorem enclosure_unify (enclosed : Enclosure opening quote tail) :
    Enclosure (unifyNewlines opening) quote (unifyNewlines tail) ∧
      opening.head? ≠ some '\n' ∧ opening.getLast? = some quote ∧
      tail.head? = some quote ∧ tail.getLast? ≠ some '\r' := by
  obtain ⟨plain, other⟩ := enclosure_plain enclosed
  cases enclosed with
  | bare isQuote =>
    rw [Text.unify_cons quote [] other]
    exact ⟨.bare isQuote, by simpa using plain, rfl, rfl, by simpa using other⟩
  | @braced _ gap gap' isQuote blank blank' =>
    rw [Text.unify_cons '{' _ (by decide), Text.unify_split gap [] quote plain other,
      Text.unify_cons quote _ other, Text.unify_split gap' [] '}' (by decide) (by decide)]
    refine ⟨.braced isQuote ((Text.allBlank_unify gap).mpr blank)
      ((Text.allBlank_unify gap').mpr blank'), by simp, ?_, by simp, ?_⟩
    · simp [List.getLast?_cons]
    · simp [List.getLast?_cons]

theorem unify_lead (name gap gap' : Text) (isName : IsName name)
    (opens : opening.head? ≠ some '\n') :
    unifyNewlines (name ++ (gap ++ '=' :: (gap' ++ opening))) =
      name ++ (unifyNewlines gap ++ '=' :: (unifyNewlines gap' ++ unifyNewlines opening)) := by
  have word : unifyNewlines name = name ∧ name.getLast? ≠ some '\r' := by
    rcases isName with rfl | rfl <;> decide
  rw [Text.unify_append name _ fun ret => absurd ret word.2, word.1,
    Text.unify_split gap _ '=' (by decide) (by decide),
    Text.unify_append gap' opening fun _ => opens]

/-- A written attribute is written in the other form, and its parts meet where they can be
converted apart. -/
theorem written_unify (written : Written lead value tail) :
    Written (unifyNewlines lead) (unifyNewlines value) (unifyNewlines tail) ∧
      lead.head? = some 'c' ∧ lead.getLast? ≠ some '\r' ∧
      (∃ quote, tail.head? = some quote ∧ quote ≠ '\n') ∧ tail.getLast? ≠ some '\r' := by
  cases written with
  | @intro name gap gap' opening _ _ quote isName blank blank' enclosed nonempty free =>
    obtain ⟨plain, other⟩ := enclosure_plain enclosed
    obtain ⟨enclosed', opens, quoted, closes, final⟩ := enclosure_unify enclosed
    have front : name.head? = some 'c' := by
      rcases isName with rfl | rfl <;> rfl
    rw [unify_lead name gap gap' isName opens]
    refine ⟨.intro isName ((Text.allBlank_unify gap).mpr blank)
      ((Text.allBlank_unify gap').mpr blank') enclosed' (mt (Text.unify_eq_nil value) nonempty)
      (fun member => free ((Text.mem_unify value quote plain other).mp member)), ?_, ?_,
      ⟨quote, closes, plain⟩, final⟩
    · simp [front]
    · simp [List.getLast?_append, List.getLast?_cons, quoted, other]

/-- The text of an attribute, and what is around it, can be converted part by part. -/
theorem unify_parts (before after : Text) (written : Written lead value tail) :
    unifyNewlines (before ++ (lead ++ (value ++ (tail ++ after)))) =
      unifyNewlines before ++ (unifyNewlines lead ++
        (unifyNewlines value ++ (unifyNewlines tail ++ unifyNewlines after))) := by
  obtain ⟨-, front, last, ⟨quote, closes, plain⟩, final⟩ := written_unify written
  rw [Text.unify_append before _ fun _ => by simp [front],
    Text.unify_append lead _ fun ret => absurd ret last,
    Text.unify_append value _ fun _ => by simp [closes, plain],
    Text.unify_append tail after fun ret => absurd ret final]

/-- The offsets of an attribute come to lie at the ends of its converted parts. -/
theorem unify_spanOf (before after : Text) (written : Written lead value tail) :
    (spanOf before lead value tail).unify (before ++ (lead ++ (value ++ (tail ++ after)))) =
      spanOf (unifyNewlines before) (unifyNewlines lead) (unifyNewlines value)
        (unifyNewlines tail) := by
  obtain ⟨-, front, -⟩ := written_unify written
  have upToValue : unifyNewlines (before ++ lead) = unifyNewlines before ++ unifyNewlines lead :=
    Text.unify_append before lead fun _ => by simp [front]
  have upToEnd := unify_parts before [] written
  simp only [unify, spanOf]
  rw [Text.unifiedOffset_append,
    Text.unifiedOffset_of_split (before ++ lead) (value ++ (tail ++ after)) (by simp) (by simp),
    Text.unifiedOffset_of_split (before ++ (lead ++ (value ++ (tail ++ [])))) after (by simp)
      (by simp [Nat.add_assoc]), upToValue, upToEnd]
  simp [Nat.add_assoc, unifyNewlines]

/-- What is written around a value when line ends are made alike is written so before. -/
theorem exists_enclosed (s gap after : Text) (enclosed : Enclosure opening quote tail)
    (whole : unifyNewlines s = gap ++ (opening ++ (value ++ (tail ++ after)))) :
    ∃ gap' opening' value' tail' after', Enclosure opening' quote tail' ∧
      s = gap' ++ (opening' ++ (value' ++ (tail' ++ after'))) ∧ unifyNewlines gap' = gap ∧
      unifyNewlines opening' = opening ∧ unifyNewlines value' = value ∧
      unifyNewlines tail' = tail := by
  obtain ⟨plain, other⟩ := enclosure_plain enclosed
  -- Brace and quotes stand for characters of the text, and what is between them was converted.
  cases enclosed with
  | bare isQuote =>
    obtain ⟨gap', fromValue, rfl, rfl, inside⟩ := Text.exists_unified s _ _ quote plain whole
    obtain ⟨value', after', rfl, rfl, -⟩ :=
      Text.exists_unified fromValue _ _ quote plain inside
    have single := Text.unify_cons quote [] other
    exact ⟨gap', [quote], value', [quote], after', .bare isQuote, rfl, rfl, single, rfl, single⟩
  | @braced _ inner outer isQuote blank blank' =>
    simp only [List.cons_append, List.append_assoc, List.nil_append] at whole
    obtain ⟨gap', fromBrace, rfl, rfl, opened⟩ :=
      Text.exists_unified s _ _ '{' (by decide) whole
    obtain ⟨inner', fromValue, rfl, rfl, inside⟩ :=
      Text.exists_unified fromBrace _ _ quote plain opened
    obtain ⟨value', behind, rfl, rfl, closing⟩ :=
      Text.exists_unified fromValue _ _ quote plain inside
    obtain ⟨outer', after', rfl, rfl, -⟩ :=
      Text.exists_unified behind _ _ '}' (by decide) closing
    refine ⟨gap', '{' :: (inner' ++ [quote]), value', quote :: (outer' ++ ['}']), after',
      .braced isQuote ((Text.allBlank_unify _).mp blank) ((Text.allBlank_unify _).mp blank'),
      by simp, rfl, ?_, rfl, ?_⟩
    · rw [Text.unify_cons '{' _ (by decide), Text.unify_split _ _ quote plain other]
      rfl
    · rw [Text.unify_cons quote _ other, Text.unify_split _ _ '}' (by decide) (by decide)]
      rfl

/-- What is written as an attribute when line ends are made alike is written as one before. -/
theorem exists_written (s after : Text) (written : Written lead value tail)
    (whole : unifyNewlines s = lead ++ (value ++ (tail ++ after))) :
    ∃ lead' value' tail' after', Written lead' value' tail' ∧
      s = lead' ++ (value' ++ (tail' ++ after')) ∧ unifyNewlines lead' = lead ∧
      unifyNewlines value' = value ∧ unifyNewlines tail' = tail := by
  cases written with
  | @intro name gap gap' opening _ _ quote isName blank blank' enclosed nonempty free =>
    obtain ⟨plain, other⟩ := enclosure_plain enclosed
    have solid : Text.Solid name := by
      have passes : name.all (!Text.isBlank ·) = true := by
        rcases isName with rfl | rfl <;> decide
      intro c member
      simpa using List.all_eq_true.mp passes c member
    simp only [List.cons_append, List.append_assoc] at whole
    obtain ⟨named, rfl, signed⟩ := Text.exists_unified_word s name _ solid whole
    obtain ⟨before, fromSign, rfl, rfl, behind⟩ :=
      Text.exists_unified named _ _ '=' (by decide) signed
    obtain ⟨before', opening', value', tail', after', enclosed', rfl, rfl, rfl, rfl, rfl⟩ :=
      exists_enclosed fromSign _ after enclosed behind
    have opens := (enclosure_unify enclosed').2.1
    have filled : value' ≠ [] := by
      intro empty
      rw [empty] at nonempty
      exact nonempty rfl
    have unquoted : quote ∉ value' := fun member =>
      free ((Text.mem_unify value' quote plain other).mpr member)
    exact ⟨_, value', tail', after', .intro isName ((Text.allBlank_unify _).mp blank)
      ((Text.allBlank_unify _).mp blank') enclosed' filled unquoted, by simp,
      unify_lead name before before' isName opens, rfl, rfl⟩

end Parts

theorem occurs_unify (source : Text) (a : ClassAttr) (occurs : Occurs source a) :
    Occurs (unifyNewlines source) (a.unify source) := by
  obtain ⟨before, lead, tail, after, written, rfl, span⟩ := occurs
  have moved : a.unify (before ++ (lead ++ (a.value ++ (tail ++ after)))) = _ :=
    (congrArg _ span).trans (unify_spanOf before after written)
  exact ⟨unifyNewlines before, unifyNewlines lead, unifyNewlines tail, unifyNewlines after,
    (written_unify written).1, unify_parts before after written, moved⟩

/-- Every attribute of the text with line ends made alike is the image of one. -/
theorem exists_occurs (source : Text) (b : ClassAttr)
    (occurs : Occurs (unifyNewlines source) b) : ∃ a, Occurs source a ∧ b = a.unify source := by
  obtain ⟨before, lead, tail, after, written, whole, span⟩ := occurs
  obtain ⟨name, rfl⟩ := List.head?_eq_some_iff.mp (written_unify written).2.1
  obtain ⟨before', behind, rfl, rfl, named⟩ :=
    Text.exists_unified source before _ 'c' (by decide) whole
  have front : unifyNewlines ('c' :: behind) = 'c' :: name ++ (b.value ++ (tail ++ after)) := by
    rw [Text.unify_cons 'c' behind (by decide), named]
    rfl
  obtain ⟨lead', value', tail', after', written', split, leads, value, rfl⟩ :=
    exists_written _ after written front
  refine ⟨spanOf before' lead' value' tail',
    ⟨before', lead', tail', after', written', by rw [split]; rfl, rfl⟩, ?_⟩
  rw [split, unify_spanOf before' after' written', leads, value]
  exact span

/-- What lies past the place where an attribute begins comes to lie past it. -/
theorem unifiedOffset_first (source : Text) (a : ClassAttr) (occurs : Occurs source a) (n : Nat) :
    unifiedOffset source n ≤ unifiedOffset source a.first ↔ n ≤ a.first := by
  obtain ⟨before, lead, tail, after, written, rfl, span⟩ := occurs
  obtain ⟨name, rfl⟩ := List.head?_eq_some_iff.mp (written_unify written).2.1
  have first : a.first = before.length := congrArg ClassAttr.first span
  rw [first]
  constructor
  · intro le
    apply Nat.le_of_not_lt
    intro past
    exact Nat.not_lt_of_le le
      (Text.unifiedOffset_lt before _ 'c' n (by decide) (by decide) past)
  · exact Text.unifiedOffset_mono _ n before.length

/-- The rule from left to right chooses the images of what it chose. -/
theorem LeftToRight.unify {source : Text} {start : Nat} {attrs : List ClassAttr}
    (chosen : LeftToRight source start attrs) :
    LeftToRight (unifyNewlines source) (unifiedOffset source start)
      (attrs.map (ClassAttr.unify source)) := by
  induction chosen with
  | @done start nothing =>
    refine .done fun b image => ?_
    obtain ⟨a, occurs, rfl⟩ := exists_occurs source b image
    have order := unifiedOffset_first source a occurs start
    have before := nothing a occurs
    exact Nat.lt_of_not_le fun le => Nat.not_le_of_lt before (order.mp le)
  | @take start a later occurs outside least more ih =>
    refine .take (occurs_unify source a occurs)
      ((unifiedOffset_first source a occurs start).mpr outside) (fun b image bound => ?_) ih
    obtain ⟨c, occurs', rfl⟩ := exists_occurs source b image
    have past := (unifiedOffset_first source c occurs' start).mp bound
    exact Text.unifiedOffset_mono source a.first c.first (least c occurs' past)

/-- The scan of a text with line ends made alike takes the images of its attributes. -/
theorem scan_unify (source : Text) :
    scan (unifyNewlines source) = (scan source).map (ClassAttr.unify source) := by
  have chosen := (scan_leftToRight source).unify
  exact (scan_leftToRight (unifyNewlines source)).unique chosen

end BemLint.ClassAttr
