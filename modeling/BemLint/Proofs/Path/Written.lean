import BemLint.Proofs.Path.Names
import BemLint.Proofs.Workspace.Listing
import BemLint.Proofs.Workspace.NullCharacters

/-!
# Paths as they are written

A path whose names can be told apart is read again from its text, and the look-up of that text takes
the names as its steps. Every path that has been read from a text is one of these.
-/
namespace BemLint

namespace Path

/-- A path whose names can be told apart when it is written. -/
def Readable (p : Path) : Prop := ∀ name ∈ p.parts, name ≠ [] ∧ name ≠ ['.'] ∧ '/' ∉ name

instance (p : Path) : Decidable p.Readable :=
  inferInstanceAs (Decidable (∀ name ∈ p.parts, name ≠ [] ∧ name ≠ ['.'] ∧ '/' ∉ name))

theorem readable_ofText (s : Text) : (ofText s).Readable := by
  intro name member
  have kept := (List.mem_filter.mp member).2
  refine ⟨(mem_names member).1, ?_, (mem_names member).2⟩
  rintro rfl
  simp at kept

theorem Readable.append {p q : Path} (first : p.Readable) (second : q.Readable) :
    (p.append q).Readable := by
  rw [Path.append]
  split
  next => exact second
  next =>
    intro name member
    exact (List.mem_append.mp member).elim (first name) (second name)

/-- The path with only its first names. -/
def front (p : Path) (n : Nat) : Path := ⟨p.root, p.parts.take n⟩

theorem Readable.front {p : Path} (readable : p.Readable) (n : Nat) : (p.front n).Readable :=
  fun name member => readable name (List.mem_of_mem_take member)

/-! ## Written and read -/

theorem text_of_parts {p : Path} (some : p.parts ≠ []) :
    p.text = p.root.text ++ Text.join ['/'] p.parts := by
  rw [text, if_neg fun none => some none.2]

theorem Readable.text_ne_nil {p : Path} (readable : p.Readable) : p.text ≠ [] := by
  rw [text]
  split
  next => simp
  next named =>
    obtain ⟨start, parts⟩ := p
    cases start with
    | slash | doubleSlash => simp [PathRoot.text]
    | none =>
      obtain ⟨part, parts, rfl⟩ := List.exists_cons_of_ne_nil fun none => named ⟨rfl, none⟩
      have filled := (readable part (by simp)).1
      cases parts <;> simp [PathRoot.text, Text.join, filled]

/-- Names that can be told apart do not begin with a slash when they are written. -/
theorem Readable.head?_join {p : Path} (readable : p.Readable) :
    (Text.join ['/'] p.parts).head? ≠ some '/' := by
  cases parts : p.parts with
  | nil => simp [Text.join]
  | cons part rest =>
    obtain ⟨filled, -, solid⟩ := readable part (by simp [parts])
    obtain ⟨c, more, rfl⟩ := List.exists_cons_of_ne_nil filled
    have other : c ≠ '/' := fun same => solid (by simp [same])
    cases rest with
    | nil => simpa [Text.join] using other
    | cons next rest => simpa [Text.join] using other

theorem Readable.root_text {p : Path} (readable : p.Readable) :
    PathRoot.ofText p.text = p.root := by
  have front := readable.head?_join
  rw [text]
  split
  next dot =>
    rw [dot.1]
    rfl
  next =>
    cases joined : Text.join ['/'] p.parts with
    | nil => cases p.root <;> rfl
    | cons c rest =>
      rw [joined] at front
      have other : c ≠ '/' := by simpa using front
      cases p.root <;> simp [PathRoot.text, PathRoot.ofText, other]

/-- The pieces of a written path between its slashes, but for the empty ones. -/
theorem Readable.pieces_text {p : Path} (readable : p.Readable) (some : p.parts ≠ []) :
    (Text.splitAt '/' p.text).filter (fun name => !name.isEmpty) = p.parts := by
  have pieces : Text.splitAt '/' (Text.join ['/'] p.parts) = p.parts := by
    rw [Text.splitAt_join '/' p.parts some,
      Text.pieces_of_notMem '/' p.parts fun part member => (readable part member).2.2]
  have filled : p.parts.filter (fun name => !name.isEmpty) = p.parts := by
    rw [List.filter_eq_self]
    intro part member
    simpa using (readable part member).1
  rw [text_of_parts some]
  cases p.root with
  | none => rw [PathRoot.text, List.nil_append, pieces, filled]
  | slash => simp [PathRoot.text, Text.splitAt, pieces, filled]
  | doubleSlash => simp [PathRoot.text, Text.splitAt, pieces, filled]

/-- A path is read again from its text. -/
theorem Readable.ofText_text {p : Path} (readable : p.Readable) : ofText p.text = p := by
  have root := readable.root_text
  obtain ⟨start, parts⟩ := p
  rw [ofText, root]
  congr 1
  by_cases none : parts = []
  · subst none
    cases start <;> decide
  · have pieces := readable.pieces_text none
    have both : names (Path.mk start parts).text =
        ((Text.splitAt '/' (Path.mk start parts).text).filter fun name => !name.isEmpty).filter
          fun name => name ≠ ['.'] := by
      rw [names, List.filter_filter]
      exact List.filter_congr fun name _ => Bool.and_comm ..
    rw [both, pieces, List.filter_eq_self]
    intro part member
    simpa using (readable part member).2.1

end Path

namespace Workspace

/-- The steps of a written path are its names. -/
theorem steps_text {p : Path} (readable : p.Readable) :
    steps p.text = if p.parts = [] then [['.']] else p.parts := by
  split
  next none =>
    obtain ⟨start, parts⟩ := p
    obtain rfl : parts = [] := none
    cases start <;> decide
  next some =>
    have last : p.text.getLast? ≠ Option.some '/' := by
      obtain ⟨front, name, whole⟩ := (List.eq_nil_or_concat p.parts).resolve_left some
      obtain ⟨filled, -, solid⟩ := readable name (by simp [whole])
      rw [Path.text_of_parts some, whole, List.getLast?_append, List.concat_eq_append,
        Path.getLast?_join front name filled, List.getLast?_eq_some_getLast filled]
      intro slash
      exact solid (Option.some.inj slash ▸ List.getLast_mem filled)
    rw [steps, readable.pieces_text some]
    split
    next slash => exact absurd slash last
    next => rfl

/-- The path of the first names is no longer than the whole one. -/
theorem byteLength_front {p : Path} (readable : p.Readable) (n : Nat) :
    byteLength (p.front n).text ≤ byteLength p.text := by
  by_cases none : (p.front n).parts = []
  · have whole := length_le_byteLength p.text
    have filled := List.length_pos_iff.mpr readable.text_ne_nil
    by_cases all : p.parts = []
    · have same : p.front n = p := by
        obtain ⟨start, parts⟩ := p
        obtain rfl : parts = [] := all
        simp [Path.front]
      exact Nat.le_of_eq (by rw [same])
    · rw [Path.text_of_parts all, byteLength_append] at *
      have one : byteLength ['.'] = 1 := by decide
      rw [Path.text]
      split
      next => omega
      next =>
        rw [none, Text.join, List.append_nil]
        exact Nat.le_add_right ..
  · have some : p.parts ≠ [] := fun empty => none (by simp [Path.front, empty])
    rw [Path.text_of_parts none, Path.text_of_parts some, byteLength_append, byteLength_append]
    refine Nat.add_le_add (Nat.le_refl _) ?_
    rw [Path.front] at none ⊢
    have whole := List.take_append_drop n p.parts
    by_cases more : p.parts.drop n = []
    · rw [more, List.append_nil] at whole
      exact Nat.le_of_eq (by rw [whole])
    · rw [← congrArg (Text.join ['/']) whole, Text.join_append ['/'] none more,
        List.append_assoc, byteLength_append]
      exact Nat.le_add_right ..

end Workspace
end BemLint
