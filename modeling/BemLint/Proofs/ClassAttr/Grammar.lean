import BemLint.ClassAttr
import BemLint.Proofs.Text.Pieces
import BemLint.Proofs.Text.Words

/-!
# The grammar of class attributes

`Written` is the grammar, stated without a reader: what is written before the value, the value, and
what is written after it. `atFront?` reads an attribute exactly when the text begins with one of
that grammar, and then it is the only one there. No alternative of the grammar begins as another
does, so the reader never has to come back to a choice.
-/
namespace BemLint.ClassAttr
open Text (AllBlank after?_iff)

/-- What may stand around a value with its quote: two quotes, or two quotes inside braces. -/
inductive Enclosure : Text → Char → Text → Prop
  | bare {quote : Char} (isQuote : quote = '"' ∨ quote = '\'') :
      Enclosure [quote] quote [quote]
  | braced {quote : Char} {gap gap' : Text}
      (isQuote : quote = graveAccent ∨ quote = '"' ∨ quote = '\'')
      (blank : AllBlank gap) (blank' : AllBlank gap') :
      Enclosure ('{' :: (gap ++ [quote])) quote (quote :: (gap' ++ ['}']))

/-- The two names of the attribute. -/
def IsName (name : Text) : Prop := name = "class".toList ∨ name = "className".toList

/-- A class attribute as it is written: a lead up to its value, the value, and a tail. -/
inductive Written : Text → Text → Text → Prop
  | intro {name gap gap' opening value tail : Text} {quote : Char} (isName : IsName name)
      (blank : AllBlank gap) (blank' : AllBlank gap') (enclosed : Enclosure opening quote tail)
      (nonempty : value ≠ []) (unquoted : quote ∉ value) :
      Written (name ++ (gap ++ '=' :: (gap' ++ opening))) value tail

/-- The attribute that is written so after `before`. -/
def spanOf (before lead value tail : Text) : ClassAttr :=
  ⟨before.length, before.length + lead.length, value,
    before.length + lead.length + value.length + tail.length⟩

/-- A class attribute stands in a text at its offsets. -/
def Occurs (source : Text) (a : ClassAttr) : Prop :=
  ∃ before lead tail after, Written lead a.value tail ∧
    source = before ++ (lead ++ (a.value ++ (tail ++ after))) ∧
    a = spanOf before lead a.value tail

/-- The longer name cannot be what a text begins with after the shorter one when a gap or the sign
comes next. -/
theorem afterName?_name (name rest : Text) (isName : IsName name) (short : rest.head? ≠ some 'N') :
    afterName? (name ++ rest) = some rest := by
  have none : Text.after? rest ['N', 'a', 'm', 'e'] = none := by
    cases e : Text.after? rest ['N', 'a', 'm', 'e'] with
    | none => rfl
    | some later =>
      rw [after?_iff] at e
      simp [e] at short
  rcases isName with rfl | rfl
  · simp [afterName?, Text.after?, none]
  · simp [afterName?, Text.after?]

theorem exists_name (s rest : Text) (read : afterName? s = some rest) :
    ∃ name, IsName name ∧ s = name ++ rest := by
  obtain ⟨later, front, read⟩ := Option.map_eq_some_iff.mp read
  rw [after?_iff] at front
  cases e : Text.after? later "Name".toList with
  | none =>
    refine ⟨"class".toList, .inl rfl, ?_⟩
    rw [front, ← read, e, Option.getD_none]
  | some found =>
    refine ⟨"className".toList, .inr rfl, ?_⟩
    have back := (after?_iff _ _ _).mp e
    rw [e, Option.getD_some] at read
    rw [front, back, read]
    rfl

/-- White space and one character of another kind, in front of a rest. -/
theorem afterSign?_iff (sign : Char) (s rest : Text) (solid : Text.isBlank sign = false) :
    afterSign? sign s = some rest ↔ ∃ gap, AllBlank gap ∧ s = gap ++ sign :: rest := by
  constructor
  · intro read
    obtain ⟨gap, blank, split⟩ := Text.exists_gap s
    refine ⟨gap, blank, ?_⟩
    unfold afterSign? at read
    split at read
    · contradiction
    next c t front =>
      split at read
      next same =>
        cases read
        rw [split, front, same]
      · contradiction
  · rintro ⟨gap, blank, rfl⟩
    simp [afterSign?, Text.trimStart_gap gap _ blank, Text.trimStart_cons sign rest solid]

theorem upToQuote?_iff (quote : Char) (s value after : Text) :
    upToQuote? quote s = some (value, after) ↔
      value ≠ [] ∧ quote ∉ value ∧ s = value ++ quote :: after := by
  constructor
  · intro read
    have split := List.takeWhile_append_dropWhile (p := (· ≠ quote)) (l := s)
    have free : quote ∉ s.takeWhile (· ≠ quote) := by
      intro member
      have := List.all_eq_true.mp List.all_takeWhile quote member
      simp at this
    unfold upToQuote? at read
    split at read
    · contradiction
    · contradiction
    next c v d rest taken dropped =>
      cases read
      have stop := List.head?_dropWhile_not (· ≠ quote) s
      rw [dropped] at stop
      have closing : d = quote := by simpa using stop
      rw [taken] at free split
      rw [dropped, closing] at split
      exact ⟨by simp, free, split.symm⟩
  · rintro ⟨nonempty, free, rfl⟩
    have passes : ∀ c ∈ value, (decide (c ≠ quote)) = true := by
      intro c member
      rw [decide_eq_true_eq]
      rintro rfl
      exact free member
    have taken : (value ++ quote :: after).takeWhile (· ≠ quote) = value := by
      rw [List.takeWhile_append_of_pos passes]
      simp
    have dropped : (value ++ quote :: after).dropWhile (· ≠ quote) = quote :: after := by
      rw [List.dropWhile_append_of_pos passes]
      simp
    obtain ⟨c, v, rfl⟩ := List.exists_cons_of_ne_nil nonempty
    simp only [upToQuote?, taken, dropped]

/-- What is read as a value stands in its quotes at the front of the text. -/
theorem valueAt?_sound (s value fromValue after : Text)
    (read : valueAt? s = some (value, fromValue, after)) :
    ∃ opening quote tail, Enclosure opening quote tail ∧ value ≠ [] ∧ quote ∉ value ∧
      fromValue = value ++ (tail ++ after) ∧ s = opening ++ fromValue := by
  unfold valueAt? at read
  split at read
  · contradiction
  next c rest =>
    split at read
    next isQuote =>
      obtain ⟨⟨v, later⟩, found, result⟩ := Option.bind_eq_some_iff.mp read
      cases result
      obtain ⟨nonempty, free, split⟩ := (upToQuote?_iff c _ _ _).mp found
      exact ⟨[c], c, [c], .bare isQuote, nonempty, free, by simpa using split, rfl⟩
    · split at read
      next brace =>
        subst brace
        obtain ⟨gap, blank, front⟩ := Text.exists_gap rest
        split at read
        · contradiction
        next q inner trimmed =>
          split at read
          next isQuote =>
            obtain ⟨⟨v, closing⟩, found, read⟩ := Option.bind_eq_some_iff.mp read
            obtain ⟨later, closed, result⟩ := Option.bind_eq_some_iff.mp read
            cases result
            obtain ⟨nonempty, free, split⟩ := (upToQuote?_iff q _ _ _).mp found
            obtain ⟨gap', blank', closes⟩ := (afterSign?_iff '}' closing _ (by decide)).mp closed
            refine ⟨'{' :: (gap ++ [q]), q, q :: (gap' ++ ['}']), .braced isQuote blank blank',
              nonempty, free, ?_, ?_⟩
            · rw [split, closes]
              simp
            · rw [front, trimmed]
              simp
          · contradiction
      · contradiction

/-- A value in its quotes is read, whatever follows. -/
theorem valueAt?_complete (opening value tail after : Text) (quote : Char)
    (enclosed : Enclosure opening quote tail) (nonempty : value ≠ []) (free : quote ∉ value) :
    valueAt? (opening ++ (value ++ (tail ++ after))) =
      some (value, value ++ (tail ++ after), after) := by
  cases enclosed with
  | bare isQuote =>
    have found := (upToQuote?_iff quote (value ++ quote :: after) value after).mpr
      ⟨nonempty, free, rfl⟩
    simp [valueAt?, isQuote, found]
  | @braced _ gap gap' isQuote blank blank' =>
    have found := (upToQuote?_iff quote (value ++ quote :: (gap' ++ '}' :: after)) value _).mpr
      ⟨nonempty, free, rfl⟩
    have closed := (afterSign?_iff '}' (gap' ++ '}' :: after) after (by decide)).mpr
      ⟨gap', blank', rfl⟩
    have solid : Text.isBlank quote = false := by
      rcases isQuote with rfl | rfl | rfl <;> decide
    have trimmed : Text.trimStart (gap ++ quote :: (value ++ quote :: (gap' ++ '}' :: after))) =
        quote :: (value ++ quote :: (gap' ++ '}' :: after)) := by
      rw [Text.trimStart_gap gap _ blank, Text.trimStart_cons quote _ solid]
    simp [valueAt?, trimmed, isQuote, found, closed]

theorem atFront?_sound (s : Text) (a : ClassAttr) (read : atFront? s = some a) :
    ∃ lead tail after, Written lead a.value tail ∧
      s = lead ++ (a.value ++ (tail ++ after)) ∧ a = spanOf [] lead a.value tail := by
  obtain ⟨named, name?, read⟩ := Option.bind_eq_some_iff.mp read
  obtain ⟨signed, sign?, read⟩ := Option.bind_eq_some_iff.mp read
  obtain ⟨⟨value, fromValue, after⟩, value?, result⟩ := Option.bind_eq_some_iff.mp read
  obtain ⟨name, isName, front⟩ := exists_name s named name?
  obtain ⟨gap, blank, between⟩ := (afterSign?_iff '=' named signed (by decide)).mp sign?
  obtain ⟨gap', blank', behind⟩ := Text.exists_gap signed
  obtain ⟨opening, quote, tail, enclosed, nonempty, free, inside, at_⟩ :=
    valueAt?_sound _ _ _ _ value?
  have whole : s = (name ++ (gap ++ '=' :: (gap' ++ opening))) ++ (value ++ (tail ++ after)) := by
    rw [front, between, behind, at_, inside]
    simp
  cases result
  refine ⟨_, tail, after, .intro isName blank blank' enclosed nonempty free, whole, ?_⟩
  have total := congrArg List.length whole
  have rest := congrArg List.length inside
  simp only [spanOf, ClassAttr.mk.injEq, List.length_append, List.length_cons, List.length_nil,
    true_and] at total rest ⊢
  omega

/-- Neither white space nor the sign begins as what makes the shorter name the longer one. -/
theorem gap_head? (gap rest : Text) (blank : AllBlank gap) :
    (gap ++ '=' :: rest).head? ≠ some 'N' := by
  intro head
  cases gap with
  | nil => simp at head
  | cons c gap =>
    have same : c = 'N' := by simpa using head
    have space := blank c (by simp)
    rw [same] at space
    exact absurd space (by decide)

theorem trimStart_opening (gap opening rest tail : Text) (quote : Char) (blank : AllBlank gap)
    (enclosed : Enclosure opening quote tail) :
    Text.trimStart (gap ++ (opening ++ rest)) = opening ++ rest := by
  rw [Text.trimStart_gap gap _ blank]
  cases enclosed with
  | bare isQuote => rcases isQuote with rfl | rfl <;> exact Text.trimStart_cons _ _ (by decide)
  | braced => exact Text.trimStart_cons _ _ (by decide)

theorem atFront?_complete (lead value tail after : Text) (written : Written lead value tail) :
    atFront? (lead ++ (value ++ (tail ++ after))) = some (spanOf [] lead value tail) := by
  cases written with
  | @intro name gap gap' opening _ _ quote isName blank blank' enclosed nonempty free =>
    have named := afterName?_name name _ isName
      (gap_head? gap (gap' ++ (opening ++ (value ++ (tail ++ after)))) blank)
    have signed := (afterSign?_iff '=' _ (gap' ++ (opening ++ (value ++ (tail ++ after))))
      (by decide)).mpr ⟨gap, blank, rfl⟩
    have trimmed := trimStart_opening gap' opening (value ++ (tail ++ after)) tail quote blank'
      enclosed
    have found := valueAt?_complete opening value tail after quote enclosed nonempty free
    simp [atFront?, named, signed, trimmed, found, spanOf]
    omega

/-- The reader takes exactly the attributes of the grammar. -/
theorem atFront?_iff (s : Text) (a : ClassAttr) :
    atFront? s = some a ↔ ∃ lead tail after, Written lead a.value tail ∧
      s = lead ++ (a.value ++ (tail ++ after)) ∧ a = spanOf [] lead a.value tail := by
  constructor
  · exact atFront?_sound s a
  · rintro ⟨lead, tail, after, written, rfl, span⟩
    rw [atFront?_complete lead a.value tail after written, ← span]

end BemLint.ClassAttr
