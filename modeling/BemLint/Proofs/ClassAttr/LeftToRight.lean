import BemLint.ClassToken
import BemLint.Proofs.ClassAttr.Grammar

/-!
# Which class attributes of a text are taken

Attributes of the grammar can overlap: a value may hold the text of another attribute. `LeftToRight`
is the rule that chooses among them: the attribute with the least start that is not inside the one
taken before it, and so on. The rule has one outcome for a text, and it is what the scan returns.
-/
namespace BemLint.ClassAttr

theorem occurs_shift (before s : Text) (b : ClassAttr) (front : atFront? s = some b) :
    Occurs (before ++ s) (b.shift before.length) := by
  obtain ⟨lead, tail, after, written, rfl, span⟩ := (atFront?_iff s b).mp front
  refine ⟨before, lead, tail, after, written, rfl, ?_⟩
  rw [span]
  simp only [shift, spanOf, List.length_nil, ClassAttr.mk.injEq, true_and]
  omega

/-- An attribute in a text is one at the front of what begins at its name. -/
theorem exists_front (source : Text) (a : ClassAttr) (occurs : Occurs source a) :
    ∃ before s b, source = before ++ s ∧ before.length = a.first ∧ atFront? s = some b ∧
      a = b.shift before.length := by
  obtain ⟨before, lead, tail, after, written, rfl, span⟩ := occurs
  refine ⟨before, lead ++ (a.value ++ (tail ++ after)), spanOf [] lead a.value tail, rfl, ?_,
    (atFront?_iff _ _).mpr ⟨lead, tail, after, written, rfl, rfl⟩, ?_⟩
  · rw [span]
    rfl
  · rw [span]
    simp only [shift, spanOf, List.length_nil, ClassAttr.mk.injEq, true_and]
    omega

/-- At most one attribute begins at a place. -/
theorem occurs_unique (source : Text) (a b : ClassAttr) (occursA : Occurs source a)
    (occursB : Occurs source b) (same : a.first = b.first) : a = b := by
  obtain ⟨before, s, c, split, start, front, rfl⟩ := exists_front source a occursA
  obtain ⟨before', s', c', split', start', front', rfl⟩ := exists_front source b occursB
  have aligned : before = before' ∧ s = s' :=
    List.append_inj (split.symm.trans split') (by omega)
  rw [aligned.2] at front
  rw [aligned.1, Option.some.inj (front.symm.trans front')]

theorem written_quoted (lead value tail : Text) (written : Written lead value tail) :
    0 < lead.length ∧ 0 < value.length ∧ 0 < tail.length := by
  cases written with
  | @intro name gap gap' opening _ _ quote isName blank blank' enclosed nonempty free =>
    refine ⟨List.length_pos_iff.mpr (by simp), List.length_pos_iff.mpr nonempty, ?_⟩
    cases enclosed <;> simp

/-- An attribute has its value inside it, and lies inside the text. -/
theorem occurs_bounds (source : Text) (a : ClassAttr) (occurs : Occurs source a) :
    a.first < a.start ∧ a.start + a.value.length < a.stop ∧ a.stop ≤ source.length := by
  obtain ⟨before, lead, tail, after, written, rfl, span⟩ := occurs
  have sizes := written_quoted lead a.value tail written
  rw [span]
  simp only [spanOf, List.length_append]
  omega

/-- The choice of attributes from a place on: always the one that begins first, and none inside the
one taken before it. -/
inductive LeftToRight (source : Text) : Nat → List ClassAttr → Prop
  | done {start : Nat} (nothing : ∀ a, Occurs source a → a.first < start) :
      LeftToRight source start []
  | take {start : Nat} {a : ClassAttr} {later : List ClassAttr} (occurs : Occurs source a)
      (outside : start ≤ a.first)
      (least : ∀ b, Occurs source b → start ≤ b.first → a.first ≤ b.first)
      (more : LeftToRight source a.stop later) : LeftToRight source start (a :: later)

/-- A place where no attribute begins can be passed over. -/
theorem LeftToRight.pass {source : Text} {start : Nat} {attrs : List ClassAttr}
    (nothing : ∀ a, Occurs source a → a.first ≠ start)
    (chosen : LeftToRight source (start + 1) attrs) : LeftToRight source start attrs := by
  cases chosen with
  | done none =>
    refine .done fun a occurs => ?_
    have := none a occurs
    have := nothing a occurs
    omega
  | take occurs outside least more =>
    refine .take occurs (by omega) (fun b occursB bound => ?_) more
    have := nothing b occursB
    exact least b occursB (by omega)

theorem scanFrom_leftToRight (rest before : Text) (skip : Nat) (bound : skip ≤ rest.length) :
    LeftToRight (before ++ rest) (before.length + skip) (scanFrom before.length skip rest) := by
  induction rest generalizing before skip with
  | nil =>
    refine .done fun a occurs => ?_
    have := occurs_bounds _ a occurs
    simp only [List.append_nil] at this
    omega
  | cons c rest ih =>
    -- The scan of `rest` is the scan of the same text with one more character behind it.
    have next : ∀ skip, skip ≤ rest.length → LeftToRight (before ++ c :: rest)
        (before.length + 1 + skip) (scanFrom (before.length + 1) skip rest) := by
      intro skip bound
      simpa using ih (before ++ [c]) skip bound
    cases skip with
    | succ skip =>
      rw [scanFrom, show before.length + (skip + 1) = before.length + 1 + skip from by omega]
      exact next skip (by simpa using bound)
    | zero =>
      rw [scanFrom]
      cases front : atFront? (c :: rest) with
      | none =>
        refine (next 0 (by omega)).pass fun a occurs start => ?_
        obtain ⟨before', s, b, split, start', front', rfl⟩ := exists_front _ a occurs
        have aligned := List.append_inj split (by omega)
        rw [← aligned.2, front] at front'
        contradiction
      | some b =>
        have occurs := occurs_shift before (c :: rest) b front
        obtain ⟨lead, tail, after, written, whole, span⟩ := (atFront?_iff _ b).mp front
        have first : (b.shift before.length).first = before.length := by
          rw [span]
          simp [shift, spanOf]
        have bounds := occurs_bounds _ _ occurs
        have stop : (b.shift before.length).stop = before.length + b.stop := rfl
        simp only [List.length_append, List.length_cons] at bounds
        refine .take occurs (by omega) (fun a _ outside => by omega) ?_
        have more := next (b.stop - 1) (by omega)
        rwa [show before.length + 1 + (b.stop - 1) = before.length + b.stop from by omega] at more

/-- The rule leaves no choice. -/
theorem LeftToRight.unique {source : Text} {start : Nat} {attrs others : List ClassAttr}
    (chosen : LeftToRight source start attrs) (other : LeftToRight source start others) :
    attrs = others := by
  induction chosen generalizing others with
  | done nothing =>
    cases other with
    | done => rfl
    | take occurs outside =>
      have := nothing _ occurs
      omega
  | @take start a later occurs outside least more ih =>
    cases other with
    | done nothing =>
      have := nothing _ occurs
      omega
    | @take _ b others occurs' outside' least' more' =>
      have first : a.first = b.first :=
        Nat.le_antisymm (least b occurs' outside') (least' a occurs outside)
      obtain rfl := occurs_unique source a b occurs occurs' first
      rw [ih more']

theorem scan_leftToRight (source : Text) : LeftToRight source 0 (scan source) :=
  scanFrom_leftToRight source [] 0 (Nat.zero_le _)

theorem LeftToRight.occurs {source : Text} {start : Nat} {attrs : List ClassAttr}
    (chosen : LeftToRight source start attrs) (a : ClassAttr) (member : a ∈ attrs) :
    Occurs source a ∧ start ≤ a.first := by
  induction chosen with
  | done => contradiction
  | @take start b later occurs outside least more ih =>
    rcases List.mem_cons.mp member with rfl | member
    · exact ⟨occurs, outside⟩
    · have tail := ih member
      have := occurs_bounds source b occurs
      exact ⟨tail.1, by omega⟩

/-- The attributes that are taken lie apart, in the order of the text. -/
theorem LeftToRight.apart {source : Text} {start : Nat} {attrs : List ClassAttr}
    (chosen : LeftToRight source start attrs) : attrs.Pairwise fun a b => a.stop ≤ b.first := by
  induction chosen with
  | done => exact .nil
  | take occurs outside least more ih =>
    exact .cons (fun b member => (more.occurs b member).2) ih

/-- An attribute is taken unless it begins inside one that is taken. -/
theorem LeftToRight.mem_iff {source : Text} {start : Nat} {attrs : List ClassAttr}
    (chosen : LeftToRight source start attrs) (a : ClassAttr) :
    a ∈ attrs ↔ Occurs source a ∧ start ≤ a.first ∧
      ∀ b ∈ attrs, b.first < a.first → b.stop ≤ a.first := by
  constructor
  · intro member
    have here := chosen.occurs a member
    refine ⟨here.1, here.2, fun b other before => ?_⟩
    have ahead : attrs.Pairwise fun a b => b.first < a.first → b.stop ≤ a.first := by
      refine chosen.apart.imp_of_mem fun {x y} memberX _ apart before => ?_
      have := occurs_bounds source x (chosen.occurs x memberX).1
      omega
    have behind : attrs.Pairwise fun a b => a.first < b.first → a.stop ≤ b.first := by
      refine chosen.apart.imp fun {x y} apart => ?_
      exact fun _ => apart
    exact List.Pairwise.forall_of_forall_of_flip (fun x _ => by omega) ahead behind member other
      before
  · rintro ⟨occurs, bound, free⟩
    induction chosen with
    | done nothing =>
      have := nothing a occurs
      omega
    | @take start b later occurs' outside least more ih =>
      have first := least a occurs bound
      by_cases same : b.first = a.first
      · rw [occurs_unique source b a occurs' occurs same]
        exact List.mem_cons_self
      · have clear := free b List.mem_cons_self (by omega)
        have member := ih clear fun d inside => free d (List.mem_cons_of_mem b inside)
        exact List.mem_cons_of_mem b member

/-- The scan takes the attributes that the rule from left to right chooses among those of the
grammar, of which at most one begins at each place. So an attribute counts unless it begins inside
an earlier one that counts, and the class names of a text are those of such attributes. -/
theorem scan_chooses_leftmost (source : Text) :
    (∀ a b, Occurs source a → Occurs source b → a.first = b.first → a = b) ∧
    (∀ attrs, LeftToRight source 0 attrs ↔ attrs = scan source) ∧
    (∀ a, a ∈ scan source ↔
      Occurs source a ∧ ∀ b ∈ scan source, b.first < a.first → b.stop ≤ a.first) ∧
    (∀ t, t ∈ ClassToken.scan source ↔
      ∃ a, Occurs source a ∧ (∀ b ∈ scan source, b.first < a.first → b.stop ≤ a.first) ∧
        t ∈ ClassToken.ofAttr a) := by
  have chosen := scan_leftToRight source
  have taken : ∀ a, a ∈ scan source ↔
      Occurs source a ∧ ∀ b ∈ scan source, b.first < a.first → b.stop ≤ a.first := by
    intro a
    rw [chosen.mem_iff a]
    simp
  refine ⟨occurs_unique source, fun attrs => ⟨fun other => other.unique chosen, ?_⟩, taken, ?_⟩
  · rintro rfl
    exact chosen
  · intro t
    rw [ClassToken.scan, List.mem_flatMap]
    constructor
    · rintro ⟨a, member, inside⟩
      exact ⟨a, ((taken a).mp member).1, ((taken a).mp member).2, inside⟩
    · rintro ⟨a, occurs, free, inside⟩
      exact ⟨a, (taken a).mpr ⟨occurs, free⟩, inside⟩

/-- A start that fails is given up for the next character, and a value can hold an attribute. -/
example : (scan "class=\x7b'a\" class=\"b class='c'\"".toList).map (·.value) =
    ["b class='c'".toList] := by decide

end BemLint.ClassAttr
