import BemLint.ClassToken
import BemLint.Proofs.ClassAttr.LeftToRight
import BemLint.Proofs.Text.Position

/-!
# Where class names stand

A class name is looked for from the end of the one before it. The cursor of that search is always
at an end of a word, so the search finds the word that was cut from the value there, and not an
occurrence inside another word. Offsets are then exact, grow by more than the length of a name, and
can be told from line and column.
-/
namespace BemLint.ClassToken
open Text (AllBlank Solid SplitInto endsWord)

/-- Every search for a word, each from the end of what the one before it found, finds something. -/
def EverySearchHits (value : Text) : (cursor : Nat) → List Text → Prop
  | _, [] => True
  | cursor, word :: later =>
    ∃ index, Text.indexFrom? word value cursor = some index ∧
      EverySearchHits value (index + word.length) later

/-- A part of a value that is one of its words: white space or an end of the value on both sides. -/
def StandsAlone (value name : Text) (index : Nat) : Prop :=
  ∃ left right, value = left ++ (name ++ right) ∧ index = left.length ∧
    endsWord left.reverse = true ∧ endsWord right = true

theorem not_endsWord (w rest : Text) (nonempty : w ≠ []) (solid : Solid w) :
    endsWord (w ++ rest) = false := by
  obtain ⟨c, t, rfl⟩ := List.exists_cons_of_ne_nil nonempty
  exact solid c (by simp)

/-- The boundary before a word, when the gap in front of it is empty or not. -/
theorem endsWord_gap (before gap w rest : Text) (blank : AllBlank gap) (nonempty : w ≠ [])
    (solid : Solid w)
    (boundary : endsWord before.reverse = true ∨ endsWord (gap ++ (w ++ rest)) = true) :
    endsWord (before ++ gap).reverse = true := by
  rw [List.reverse_append]
  cases e : gap.reverse with
  | nil =>
    have empty : gap = [] := by simpa using e
    rw [empty, List.nil_append, not_endsWord w rest nonempty solid] at boundary
    simpa using boundary
  | cons c t => exact blank c (by simpa [e] using List.mem_reverse.mp (by simp [e]))

section Value

variable {a : ClassAttr} {rest : Text} {ws : List Text}

theorem locateFrom_word (a : ClassAttr) (before gap w rest : Text) (later : List Text)
    (whole : a.value = before ++ (gap ++ (w ++ rest))) (blank : AllBlank gap)
    (nonempty : w ≠ []) (solid : Solid w) :
    locateFrom a before.length (w :: later) =
      ⟨w, a.start + (before ++ gap).length⟩ ::
        locateFrom a (before ++ (gap ++ w)).length later := by
  have hit := Text.indexFrom?_gap before gap w rest blank nonempty solid
  rw [locateFrom, whole, hit, Option.getD_some]
  simp [Nat.add_assoc]

theorem everySearchHits (value : Text) (split : SplitInto rest ws) (before : Text)
    (whole : value = before ++ rest) : EverySearchHits value before.length ws := by
  induction split generalizing before with
  | done => trivial
  | @word gap w rest later blank nonempty solid ends more ih =>
    rw [List.append_assoc] at whole
    refine ⟨(before ++ gap).length, ?_, ?_⟩
    · rw [whole]
      exact Text.indexFrom?_gap before gap w rest blank nonempty solid
    · have next := ih (before ++ gap ++ w) (by simp [whole])
      simpa [Nat.add_assoc] using next

theorem locateFrom_names (split : SplitInto rest ws) (before : Text)
    (whole : a.value = before ++ rest) :
    (locateFrom a before.length ws).map (·.name) = ws := by
  induction split generalizing before with
  | done => rfl
  | @word gap w rest later blank nonempty solid ends more ih =>
    rw [List.append_assoc] at whole
    rw [locateFrom_word a before gap w rest later whole blank nonempty solid, List.map_cons,
      ih _ (by simp [whole])]

theorem locateFrom_alone (split : SplitInto rest ws) (before : Text)
    (whole : a.value = before ++ rest)
    (boundary : endsWord before.reverse = true ∨ endsWord rest = true) :
    ∀ t ∈ locateFrom a before.length ws,
      ∃ index, t.offset = a.start + index ∧ StandsAlone a.value t.name index := by
  induction split generalizing before with
  | done =>
    intro t member
    contradiction
  | @word gap w rest later blank nonempty solid ends more ih =>
    rw [List.append_assoc] at whole boundary
    rw [locateFrom_word a before gap w rest later whole blank nonempty solid]
    intro t member
    rcases List.mem_cons.mp member with rfl | member
    · refine ⟨(before ++ gap).length, rfl, before ++ gap, rest, by simp [whole], rfl, ?_, ends⟩
      exact endsWord_gap before gap w rest blank nonempty solid boundary
    · exact ih _ (by simp [whole]) (.inr ends) t member

/-- What is located lies behind the cursor, with a character between them when the cursor is at the
end of a word. -/
theorem locateFrom_behind (split : SplitInto rest ws) (before : Text)
    (whole : a.value = before ++ rest) :
    ∀ t ∈ locateFrom a before.length ws, a.start + before.length ≤ t.offset ∧
      (endsWord rest = true → a.start + before.length < t.offset) := by
  induction split generalizing before with
  | done =>
    intro t member
    contradiction
  | @word gap w rest later blank nonempty solid ends more ih =>
    rw [List.append_assoc] at whole
    rw [locateFrom_word a before gap w rest later whole blank nonempty solid]
    intro t member
    have positive := List.length_pos_iff.mpr nonempty
    rcases List.mem_cons.mp member with rfl | member
    · refine ⟨by simp, fun boundary => ?_⟩
      cases gap with
      | nil =>
        rw [List.nil_append, not_endsWord w rest nonempty solid] at boundary
        contradiction
      | cons c gap => simp
    · have next := (ih _ (by simp [whole]) t member).1
      simp only [List.length_append] at next
      exact ⟨by omega, fun _ => by omega⟩

theorem locateFrom_apart (split : SplitInto rest ws) (before : Text)
    (whole : a.value = before ++ rest) :
    (locateFrom a before.length ws).Pairwise fun t u => t.offset + t.name.length < u.offset := by
  induction split generalizing before with
  | done => exact .nil
  | @word gap w rest later blank nonempty solid ends more ih =>
    rw [List.append_assoc] at whole
    have extended : a.value = (before ++ (gap ++ w)) ++ rest := by simp [whole]
    rw [locateFrom_word a before gap w rest later whole blank nonempty solid]
    refine .cons (fun u member => ?_) (ih _ extended)
    have behind := (locateFrom_behind more _ extended u member).2 ends
    simp only [List.length_append] at behind ⊢
    omega

end Value

/-- The value of an attribute stands in the text between two quotes of one kind, its delimiters, and
does not hold that quote. -/
structure Delimited (source : Text) (a : ClassAttr) (quote : Char) : Prop where
  isQuote : quote = ClassAttr.graveAccent ∨ quote = '"' ∨ quote = '\''
  unquoted : quote ∉ a.value
  here : (source.drop a.start).take a.value.length = a.value
  opening : 0 < a.start ∧ source[a.start - 1]? = some quote
  closing : source[a.start + a.value.length]? = some quote

/-- A name stands at an offset of a text as a whole word of a value: what is next to it on each side
is white space, or the delimiter where the value begins or ends. -/
structure WordAt (source : Text) (a : ClassAttr) (name : Text) (offset : Nat) : Prop where
  nonempty : name ≠ []
  solid : Solid name
  inside : a.start ≤ offset ∧ offset + name.length ≤ a.start + a.value.length
  here : (source.drop offset).take name.length = name
  before : offset = a.start ∨ ∃ c, source[offset - 1]? = some c ∧ Text.isBlank c = true
  after : offset + name.length = a.start + a.value.length ∨
    ∃ c, source[offset + name.length]? = some c ∧ Text.isBlank c = true

theorem getElem?_of_split {source : Text} (before rest : Text) {c : Char} {offset : Nat}
    (split : source = before ++ c :: rest) (place : offset = before.length) :
    source[offset]? = some c := by
  rw [split, place]
  simp

theorem take_of_split {source s : Text} (before rest : Text) {offset : Nat}
    (split : source = before ++ (s ++ rest)) (place : offset = before.length) :
    (source.drop offset).take s.length = s := by
  rw [split, place]
  simp

theorem wordAt_of_standsAlone (opening closing name : Text) (a : ClassAttr) (index : Nat)
    (start : a.start = opening.length) (nonempty : name ≠ []) (solid : Solid name)
    (alone : StandsAlone a.value name index) :
    WordAt (opening ++ (a.value ++ closing)) a name (a.start + index) := by
  obtain ⟨left, right, value, rfl, ends, ends'⟩ := alone
  have size := congrArg List.length value
  simp only [List.length_append] at size
  rw [value]
  refine ⟨nonempty, solid, by omega, ?_, ?_, ?_⟩
  · exact take_of_split (opening ++ left) (right ++ closing) (by simp)
      (by simp [start])
  · cases e : left.reverse with
    | nil =>
      have empty : left = [] := by simpa using e
      left
      simp [empty]
    | cons c t =>
      right
      have last : left = t.reverse ++ [c] := by simpa using congrArg List.reverse e
      rw [e] at ends
      refine ⟨c, getElem?_of_split (opening ++ t.reverse)
        (name ++ (right ++ closing)) (by simp [last]) (by simp [start, last]), ends⟩
  · cases right with
    | nil =>
      left
      simp only [List.length_nil] at size
      omega
    | cons c t =>
      right
      exact ⟨c, getElem?_of_split (opening ++ (left ++ name)) (t ++ closing)
        (by simp) (by simp [start, Nat.add_assoc]), ends'⟩

theorem written_delimiters (lead value tail : Text) (written : ClassAttr.Written lead value tail) :
    ∃ quote before after, lead = before ++ [quote] ∧ tail = quote :: after ∧ quote ∉ value ∧
      (quote = ClassAttr.graveAccent ∨ quote = '"' ∨ quote = '\'') := by
  cases written with
  | @intro name gap gap' opening _ _ quote isName blank blank' enclosed nonempty free =>
    cases enclosed with
    | bare isQuote =>
      exact ⟨quote, name ++ (gap ++ '=' :: gap'), [], by simp, rfl, free, .inr isQuote⟩
    | @braced _ inner outer isQuote =>
      exact ⟨quote, name ++ (gap ++ '=' :: (gap' ++ '\x7b' :: inner)), outer ++ ['\x7d'], by simp,
        rfl, free, isQuote⟩

theorem delimited_of_occurs (source : Text) (a : ClassAttr)
    (occurs : ClassAttr.Occurs source a) : ∃ quote, Delimited source a quote := by
  obtain ⟨before, lead, tail, after, written, rfl, span⟩ := occurs
  obtain ⟨quote, front, back, rfl, rfl, free, isQuote⟩ := written_delimiters _ _ _ written
  have start : a.start = (before ++ (front ++ [quote])).length := by
    rw [span]
    simp [ClassAttr.spanOf]
  refine ⟨quote, isQuote, free, ?_, ⟨?_, ?_⟩, ?_⟩
  · exact take_of_split (before ++ (front ++ [quote])) (quote :: back ++ after)
      (by simp) start
  · rw [start, List.length_append, List.length_append, List.length_singleton]
    omega
  · exact getElem?_of_split (before ++ front)
      (a.value ++ (quote :: back ++ after)) (by simp) (by simp [start])
  · exact getElem?_of_split (before ++ (front ++ [quote]) ++ a.value)
      (back ++ after) (by simp) (by rw [start]; simp; omega)

/-- What `ofAttr` makes of the value of one attribute. -/
theorem ofAttr_words (a : ClassAttr) :
    SplitInto a.value ((ofAttr a).map (·.name)) ∧
      EverySearchHits a.value 0 ((ofAttr a).map (·.name)) ∧
      (ofAttr a).Pairwise fun t u => t.offset + t.name.length < u.offset := by
  have split := (Text.splitInto_iff a.value _).mpr rfl
  have names := locateFrom_names split [] rfl
  rw [List.length_nil, ← ofAttr] at names
  rw [names]
  exact ⟨split, everySearchHits a.value split [] rfl, locateFrom_apart split [] rfl⟩

theorem ofAttr_wordAt (source : Text) (a : ClassAttr) (occurs : ClassAttr.Occurs source a)
    (t : ClassToken) (member : t ∈ ofAttr a) : WordAt source a t.name t.offset := by
  have split := (ofAttr_words a).1
  have shape := split.members t.name (List.mem_map_of_mem member)
  obtain ⟨index, offset, alone⟩ := locateFrom_alone ((Text.splitInto_iff a.value _).mpr rfl) []
    rfl (.inl rfl) t member
  obtain ⟨before, lead, tail, after, written, whole, span⟩ := occurs
  have start : a.start = (before ++ lead).length := by
    rw [span]
    simp [ClassAttr.spanOf]
  rw [offset, whole, ← List.append_assoc]
  exact wordAt_of_standsAlone _ _ _ a index start shape.1 shape.2 alone

/-- The class names of a text with their places, as a reader is shown them. -/
def placed (source : Text) : List (Text × Text.Position) :=
  (scan source).map fun t => (t.name, t.position source)

/-- The names of a text come in its order, with a character between one and the next. -/
theorem scan_apart (source : Text) :
    (scan source).Pairwise fun t u => t.offset + t.name.length < u.offset := by
  have chosen := ClassAttr.scan_leftToRight source
  rw [scan, List.pairwise_flatMap]
  refine ⟨fun a _ => (ofAttr_words a).2.2, chosen.apart.imp_of_mem fun {a b} left right apart => ?_⟩
  intro t first u second
  have occurs := (chosen.occurs a left).1
  have inside := (ofAttr_wordAt source a occurs t first).inside
  have inside' := (ofAttr_wordAt source b (chosen.occurs b right).1 u second).inside
  have span := ClassAttr.occurs_bounds source a occurs
  have span' := ClassAttr.occurs_bounds source b (chosen.occurs b right).1
  omega

/-- The class names of a text are the words of the values of its attributes, in order, and each
stands where its offset says, as a whole word of its own value. The search for a word never fails,
offsets grow by more than the length of a name, and line and column grow with them; from line and
column the offset can be told. -/
theorem scan_places_exact (source : Text) :
    scan source = (ClassAttr.scan source).flatMap ofAttr ∧
    (∀ a ∈ ClassAttr.scan source,
      SplitInto a.value ((ofAttr a).map (·.name)) ∧
      EverySearchHits a.value 0 ((ofAttr a).map (·.name)) ∧
      (∃ quote, Delimited source a quote) ∧
      ∀ t ∈ ofAttr a, WordAt source a t.name t.offset) ∧
    (∀ t ∈ scan source, ∀ offset : Int,
      Text.positionAt source offset = t.position source ↔ offset = t.offset) ∧
    ((scan source).Pairwise fun t u => t.offset + t.name.length < u.offset) ∧
    ((scan source).map (position source)).Pairwise Text.Position.Before := by
  have apart := scan_apart source
  refine ⟨rfl, fun a member => ?_, fun t _ offset => ?_, apart, ?_⟩
  · have occurs := ((ClassAttr.scan_leftToRight source).occurs a member).1
    have words := ofAttr_words a
    exact ⟨words.1, words.2.1, delimited_of_occurs source a occurs,
      ofAttr_wordAt source a occurs⟩
  · exact ⟨Text.positionAt_injective source t.offset offset, fun same => by rw [same]; rfl⟩
  · rw [List.pairwise_map]
    refine apart.imp fun {t u} less => ?_
    exact Text.positionAt_before source t.offset u.offset (by omega)

/-- Words that repeat, or that begin as an earlier one does, have places of their own. -/
example : (scan "<p class=\"ab a\n a\">".toList).map (·.offset) = [10, 13, 16] := by decide

end BemLint.ClassToken
