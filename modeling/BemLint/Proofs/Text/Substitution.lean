import BemLint.Proofs.Text.Words
import Mathlib.Data.List.Lattice

/-!
# Substitution in one pass

`Substituted table s t` goes along a text once: a mark of the table gives way to its value, and every
other character is copied. Replacing the marks one after another rewrites what was inserted before as
well, so the two need not agree. They do for a `Separable` table, whose values share no character with
its marks: then an inserted value is no part of a mark, and what stands on its two sides does not
become one. It follows that the order of the replacements does not matter and that no mark is left.
-/
namespace BemLint.Text

/-! ## Replacing one mark -/

theorem replaceFrom_skip (old new front s : Text) :
    replaceFrom old new front.length (front ++ s) = replace old new s := by
  induction front with
  | nil => rfl
  | cons c front ih => exact ih

theorem replace_mark (old new s : Text) (filled : old ≠ []) :
    replace old new (old ++ s) = new ++ replace old new s := by
  cases old with
  | nil => contradiction
  | cons c old =>
    have here : startsWith (c :: (old ++ s)) (c :: old) = true :=
      (startsWith_iff _ _).mpr ⟨s, rfl⟩
    rw [List.cons_append, replace, replaceFrom, if_pos here]
    exact congrArg (new ++ ·) (replaceFrom_skip (c :: old) new old s)

theorem replace_copy (old new s : Text) (c : Char) (absent : ¬ old <+: c :: s) :
    replace old new (c :: s) = c :: replace old new s := by
  have other : ¬ startsWith (c :: s) old = true := by
    rw [startsWith_iff]
    rintro ⟨rest, whole⟩
    exact absent ⟨rest, whole.symm⟩
  rw [replace, replaceFrom, if_neg other]
  rfl

/-- A text in which no occurrence begins is passed over. -/
theorem replace_front (old new front s : Text) (c : Char) (inner : Text) (opened : old = c :: inner)
    (absent : c ∉ front) : replace old new (front ++ s) = front ++ replace old new s := by
  induction front with
  | nil => rfl
  | cons d front ih =>
    simp only [List.mem_cons, not_or] at absent
    have other : ¬ old <+: d :: (front ++ s) := by
      intro begins
      rw [opened, List.cons_prefix_cons] at begins
      exact absent.1 begins.1
    rw [List.cons_append, replace_copy old new _ d other, ih absent.2]
    rfl

/-- Replacing a single character goes character by character. -/
theorem replace_singleton (c : Char) (new s : Text) : replace [c] new s = replaceChar c new s := by
  induction s with
  | nil => rfl
  | cons d s ih =>
    rw [replaceChar, List.flatMap_cons, ← replaceChar, ← ih]
    by_cases same : d = c
    · rw [if_pos same, same]
      exact replace_mark [c] new s (by simp)
    · have absent : ¬ [c] <+: d :: s := by
        rw [List.cons_prefix_cons]
        exact fun begins => same begins.1.symm
      rw [if_neg same, replace_copy [c] new s d absent]
      rfl

theorem replaceChar_flatMap (c : Char) (new : Text) (write : Char → Text) (s : Text) :
    replaceChar c new (s.flatMap write) = s.flatMap fun d => replaceChar c new (write d) :=
  List.flatMap_assoc

/-! ## Values for marks -/

/-- Values in place of marks, from left to right: where a mark stands its value is written, and a
character at which no mark begins is copied. -/
inductive Substituted (table : List (Text × Text)) : Text → Text → Prop where
  | done : Substituted table [] []
  | mark {mark value s t : Text} (listed : (mark, value) ∈ table) (rest : Substituted table s t) :
      Substituted table (mark ++ s) (value ++ t)
  | copy {c : Char} {s t : Text} (absent : ∀ entry ∈ table, ¬ entry.1 <+: c :: s)
      (rest : Substituted table s t) : Substituted table (c :: s) (c :: t)

/-- A table whose marks can be replaced in any order. -/
structure Separable (table : List (Text × Text)) : Prop where
  /-- No mark begins inside another. -/
  opened : ∀ entry ∈ table, ∃ c inner, entry.1 = c :: inner ∧
    ∀ other ∈ table, ∃ rest, other.1 = c :: rest ∧ c ∉ rest
  /-- At one place no two marks begin. -/
  apart : ∀ entry ∈ table, ∀ other ∈ table, entry.1 <+: other.1 → entry = other
  filled : ∀ entry ∈ table, entry.2 ≠ []
  /-- A value holds no character of a mark. -/
  foreign : ∀ entry ∈ table, ∀ other ∈ table, entry.2.Disjoint other.1

section

variable {table : List (Text × Text)} {s t : Text}

theorem Separable.nonempty (separable : Separable table) {entry : Text × Text}
    (listed : entry ∈ table) : entry.1 ≠ [] := by
  obtain ⟨c, inner, opened, -⟩ := separable.opened entry listed
  simp [opened]

theorem Separable.mono {fewer : List (Text × Text)} (separable : Separable table)
    (among : ∀ entry ∈ fewer, entry ∈ table) : Separable fewer where
  opened entry listed := by
    obtain ⟨c, inner, same, others⟩ := separable.opened entry (among entry listed)
    exact ⟨c, inner, same, fun other member => others other (among other member)⟩
  apart entry listed other member := separable.apart entry (among _ listed) other (among _ member)
  filled entry listed := separable.filled entry (among _ listed)
  foreign entry listed other member := separable.foreign entry (among _ listed) other (among _ member)

/-- Each text becomes some text. -/
theorem exists_substituted (table : List (Text × Text)) (nonempty : ∀ entry ∈ table, entry.1 ≠ [])
    (s : Text) : ∃ t, Substituted table s t := by
  by_cases marked : ∃ entry ∈ table, entry.1 <+: s
  · obtain ⟨⟨mark, value⟩, listed, rest, whole⟩ := marked
    have whole : mark ++ rest = s := whole
    have some : 0 < mark.length := List.length_pos_of_ne_nil (nonempty _ listed)
    have shorter : rest.length < s.length := by
      rw [← whole, List.length_append]
      omega
    obtain ⟨t, behind⟩ := exists_substituted table nonempty rest
    exact ⟨value ++ t, whole ▸ .mark listed behind⟩
  · simp only [not_exists, not_and] at marked
    cases s with
    | nil => exact ⟨[], .done⟩
    | cons c s =>
      obtain ⟨t, behind⟩ := exists_substituted table nonempty s
      exact ⟨c :: t, .copy marked behind⟩
termination_by s.length

/-- With one mark this is replacing it. -/
theorem substituted_replace (old new s : Text) (filled : old ≠ []) :
    Substituted [(old, new)] s (replace old new s) := by
  obtain ⟨t, sub⟩ := exists_substituted [(old, new)] (by simpa using filled) s
  suffices same : t = replace old new s from same ▸ sub
  induction sub with
  | done => rfl
  | @mark mark value s t listed _ ih =>
    obtain ⟨rfl, rfl⟩ := Prod.mk.inj (List.mem_singleton.mp listed)
    rw [replace_mark mark value s filled, ih]
  | @copy c s t absent _ ih =>
    rw [replace_copy old new s c (absent _ (List.mem_singleton_self _)), ih]

/-- What begins the result and is free of values begins the text as well. -/
theorem Substituted.prefix_of_prefix (sub : Substituted table s t)
    (filled : ∀ entry ∈ table, entry.2 ≠ []) {q : Text}
    (foreign : ∀ entry ∈ table, entry.2.Disjoint q) (begins : q <+: t) : q <+: s := by
  induction sub generalizing q with
  | done => exact begins
  | @mark mark value s t listed _ _ =>
    obtain ⟨d, more, whole⟩ := List.exists_cons_of_ne_nil (filled _ listed)
    cases q with
    | nil => exact List.nil_prefix
    | cons c q =>
      have whole : value = d :: more := whole
      rw [whole, List.cons_append, List.cons_prefix_cons] at begins
      have outside : d ∉ c :: q := fun member => foreign _ listed (by simp [whole]) member
      exact absurd (by simp [begins.1]) outside
  | @copy c s t _ _ ih =>
    cases q with
    | nil => exact List.nil_prefix
    | cons d q =>
      rw [List.cons_prefix_cons] at begins ⊢
      have rest : ∀ entry ∈ table, entry.2.Disjoint q :=
        fun entry listed => (List.disjoint_cons_right.mp (foreign entry listed)).2
      exact ⟨begins.1, ih rest begins.2⟩

theorem Substituted.prefix_cons (sub : Substituted table s t)
    (filled : ∀ entry ∈ table, entry.2 ≠ []) {c : Char} {q : Text} (nonempty : q ≠ [])
    (foreign : ∀ entry ∈ table, entry.2.Disjoint q) (begins : q <+: c :: t) : q <+: c :: s := by
  obtain ⟨d, inner, rfl⟩ := List.exists_cons_of_ne_nil nonempty
  rw [List.cons_prefix_cons] at begins ⊢
  refine ⟨begins.1, sub.prefix_of_prefix filled (fun entry listed => ?_) begins.2⟩
  exact (List.disjoint_cons_right.mp (foreign entry listed)).2

/-- Text that shares no character with the marks is copied. -/
theorem Substituted.copies (sub : Substituted table s t)
    (nonempty : ∀ entry ∈ table, entry.1 ≠ []) {front : Text}
    (foreign : ∀ entry ∈ table, front.Disjoint entry.1) :
    Substituted table (front ++ s) (front ++ t) := by
  induction front with
  | nil => exact sub
  | cons c front ih =>
    simp only [List.disjoint_cons_left] at foreign
    refine .copy (fun entry listed begins => ?_) (ih fun entry listed => (foreign entry listed).2)
    obtain ⟨d, inner, whole⟩ := List.exists_cons_of_ne_nil (nonempty entry listed)
    rw [whole, List.cons_prefix_cons] at begins
    exact (foreign entry listed).1 (by simp [whole, begins.1])

end

/-! ## One mark after another -/

section

variable {table : List (Text × Text)} {s t : Text}

/-- Replacing one mark leaves the others to be replaced. -/
theorem Substituted.replaced {mark value : Text} (separable : Separable ((mark, value) :: table))
    (sub : Substituted ((mark, value) :: table) s t) :
    Substituted table (replace mark value s) t := by
  have nonempty : ∀ entry ∈ table, entry.1 ≠ [] :=
    fun entry listed => separable.nonempty (List.mem_cons_of_mem _ listed)
  have own : mark ≠ [] := separable.nonempty (List.mem_cons_self ..)
  induction sub with
  | done => exact .done
  | @mark mark' value' s t listed _ ih =>
    by_cases same : (mark', value') = (mark, value)
    · obtain ⟨rfl, rfl⟩ := Prod.mk.inj same
      rw [replace_mark mark' value' s own]
      exact ih.copies nonempty fun entry listed' =>
        separable.foreign _ listed entry (List.mem_cons_of_mem _ listed')
    · -- The mark is another one of the table. It stays as it is, and is left for later.
      have other : ¬ mark <+: mark' ++ s := by
        intro begins
        rcases List.prefix_or_prefix_of_prefix begins (List.prefix_append mark' s) with front | front
        · exact same (separable.apart _ (List.mem_cons_self ..) _ listed front).symm
        · exact same (separable.apart _ listed _ (List.mem_cons_self ..) front)
      obtain ⟨c, inner, opened, others⟩ := separable.opened (mark, value) (List.mem_cons_self ..)
      obtain ⟨rest, opened', absent⟩ := others _ listed
      have opened' : mark' = c :: rest := opened'
      have kept : replace mark value (mark' ++ s) = mark' ++ replace mark value s := by
        rw [opened', List.cons_append] at other ⊢
        rw [replace_copy mark value _ c other,
          replace_front mark value rest s c inner opened absent]
        rfl
      rw [kept]
      exact .mark (List.mem_of_ne_of_mem same listed) ih
  | @copy c s t absent _ ih =>
    rw [replace_copy mark value s c (absent _ (List.mem_cons_self ..))]
    refine .copy (fun entry listed begins => ?_) ih
    have listed' := List.mem_cons_of_mem (mark, value) listed
    -- What was inserted is no part of a mark, so a mark that begins here began here before.
    refine absent entry listed' ?_
    refine (substituted_replace mark value s own).prefix_cons ?_ (nonempty entry listed) ?_ begins
    · exact List.forall_mem_singleton.mpr (separable.filled _ (List.mem_cons_self ..))
    · exact List.forall_mem_singleton.mpr
        (separable.foreign _ (List.mem_cons_self ..) entry listed')

theorem substituted_nil (sub : Substituted [] s t) : t = s := by
  induction sub with
  | done => rfl
  | mark listed _ _ => cases listed
  | copy _ _ ih => rw [ih]

/-- Replacing the marks one after another comes to the same as one pass. -/
theorem Substituted.eq_foldl (separable : Separable table) (sub : Substituted table s t) :
    t = table.foldl (fun s (old, new) => replace old new s) s := by
  induction table generalizing s with
  | nil => exact substituted_nil sub
  | cons entry table ih =>
    exact ih (separable.mono fun _ => List.mem_cons_of_mem _) (sub.replaced separable)

theorem substituted_iff_foldl (separable : Separable table) :
    Substituted table s t ↔ t = table.foldl (fun s (old, new) => replace old new s) s := by
  constructor
  · exact fun sub => sub.eq_foldl separable
  · rintro rfl
    obtain ⟨u, sub⟩ := exists_substituted table (fun _ => separable.nonempty) s
    exact sub.eq_foldl separable ▸ sub

/-- A table tells which value a mark has, not when its turn comes. -/
theorem Substituted.congr {other : List (Text × Text)} (sub : Substituted table s t)
    (same : ∀ entry, entry ∈ other ↔ entry ∈ table) : Substituted other s t := by
  induction sub with
  | done => exact .done
  | mark listed _ ih => exact .mark ((same _).mpr listed) ih
  | copy absent _ ih => exact .copy (fun entry listed => absent entry ((same entry).mp listed)) ih

/-- What shares no character with a text in front lies behind it. -/
theorem infix_of_foreign {front q s : Text} (nonempty : q ≠ []) (foreign : front.Disjoint q)
    (inside : q <:+: front ++ s) : q <:+: s := by
  induction front with
  | nil => exact inside
  | cons c front ih =>
    obtain ⟨absent, foreign⟩ := List.disjoint_cons_left.mp foreign
    rw [List.cons_append, List.infix_cons_iff] at inside
    rcases inside with begins | inside
    · obtain ⟨d, inner, rfl⟩ := List.exists_cons_of_ne_nil nonempty
      rw [List.cons_prefix_cons] at begins
      exact absurd (by simp [begins.1]) absent
    · exact ih foreign inside

/-- No mark is left. -/
theorem Substituted.not_infix (separable : Separable table) (sub : Substituted table s t)
    {entry : Text × Text} (listed : entry ∈ table) : ¬ entry.1 <:+: t := by
  have nonempty := separable.nonempty listed
  induction sub with
  | done => simpa using nonempty
  | mark own _ ih =>
    exact fun inside => ih (infix_of_foreign nonempty (separable.foreign _ own _ listed) inside)
  | copy absent rest ih =>
    rw [List.infix_cons_iff, not_or]
    refine ⟨fun begins => absent entry listed ?_, ih⟩
    exact rest.prefix_cons separable.filled nonempty
      (fun own listed' => separable.foreign own listed' entry listed) begins

end

end BemLint.Text
