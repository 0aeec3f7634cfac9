import BemLint.Path
import BemLint.Proofs.Text.Pieces

/-!
# Names in paths

What the end of a name is, and how the text of a path ends: in its last name, or in a slash where
there is nothing but a root.
-/
namespace BemLint

namespace Path

/-- The end of a name is its text from the last dot, when that dot is neither first nor last, and else
nothing. -/
inductive SuffixIs : Text → Text → Prop where
  | dotted {stem extension : Text} (stemmed : stem ≠ []) (filled : extension ≠ [])
      (last : '.' ∉ extension) : SuffixIs (stem ++ '.' :: extension) ('.' :: extension)
  | none {name : Text} (bare : ∀ stem extension, name = stem ++ '.' :: extension →
      '.' ∉ extension → stem = [] ∨ extension = []) : SuffixIs name []

theorem suffixOf_dotted (stem extension : Text) (last : '.' ∉ extension) :
    suffixOf (stem ++ '.' :: extension) =
      if stem = [] ∨ extension = [] then [] else '.' :: extension := by
  rw [suffixOf, Text.takeWhile_last '.' stem extension last,
    Text.dropWhile_last '.' stem extension last]
  by_cases edge : stem = [] ∨ extension = []
  · rw [if_pos edge]
    rcases edge with rfl | rfl
    · split <;> simp_all
    · rfl
  · rw [if_neg edge]
    rw [not_or] at edge
    obtain ⟨a, front, stemmed⟩ := List.exists_cons_of_ne_nil (List.reverse_ne_nil_iff.mpr edge.1)
    obtain ⟨b, back, filled⟩ := List.exists_cons_of_ne_nil (List.reverse_ne_nil_iff.mpr edge.2)
    have whole : extension = back.reverse ++ [b] := by
      rw [← List.reverse_cons, ← filled, List.reverse_reverse]
    simp [stemmed, whole]

theorem suffixOf_undotted (name : Text) (undotted : '.' ∉ name) : suffixOf name = [] := by
  have none : (name.reverse ++ []).dropWhile (· ≠ '.') = [] :=
    List.dropWhile_append_of_pos (Text.reverse_absent undotted)
  rw [List.append_nil] at none
  rw [suffixOf, none]
  split <;> simp_all

theorem suffixIs_iff (name s : Text) : SuffixIs name s ↔ s = suffixOf name := by
  constructor
  · rintro (⟨stemmed, filled, last⟩ | ⟨bare⟩)
    · rw [suffixOf_dotted _ _ last, if_neg (by simp [stemmed, filled])]
    · by_cases dotted : '.' ∈ name
      · obtain ⟨stem, extension, rfl, last⟩ := Text.exists_last '.' name dotted
        rw [suffixOf_dotted _ _ last, if_pos (bare stem extension rfl last)]
      · rw [suffixOf_undotted name dotted]
  · rintro rfl
    by_cases edge : suffixOf name = []
    · rw [edge]
      refine .none fun stem extension whole last => ?_
      rw [whole, suffixOf_dotted _ _ last] at edge
      split at edge
      next first => exact first
      next => cases edge
    · by_cases dotted : '.' ∈ name
      · obtain ⟨stem, extension, rfl, last⟩ := Text.exists_last '.' name dotted
        rw [suffixOf_dotted _ _ last] at edge ⊢
        split at edge
        next => exact absurd rfl edge
        next inner =>
          rw [if_neg inner]
          rw [not_or] at inner
          exact .dotted inner.1 inner.2 last
      · exact absurd (suffixOf_undotted name dotted) edge

/-- Names written one after another end as the last of them does. -/
theorem getLast?_join (parts : List Text) (last : Text) (filled : last ≠ []) :
    (Text.join ['/'] (parts ++ [last])).getLast? = last.getLast? := by
  cases parts with
  | nil => rfl
  | cons part parts =>
    have some : last.getLast? ≠ none := by simpa using filled
    rw [Text.join_append ['/'] (by simp) (by simp), List.getLast?_append]
    exact Option.or_of_isSome (Option.isSome_iff_ne_none.mpr some)

/-- The names of a path are not empty and hold no slash. -/
theorem mem_names {s name : Text} (member : name ∈ names s) : name ≠ [] ∧ '/' ∉ name := by
  obtain ⟨piece, kept⟩ := List.mem_filter.mp member
  refine ⟨?_, Text.splitAt_notMem '/' s name piece⟩
  rintro rfl
  simp at kept

/-- The text of a path ends in a slash only at a root. -/
theorem text_ofText_last (s : Text) (slash : (ofText s).text.getLast? = some '/') :
    ∀ c ∈ (ofText s).text, c = '/' := by
  have parts : names s = [] ∨ ∃ front last, names s = front ++ [last] := by
    rcases List.eq_nil_or_concat (names s) with empty | ⟨front, last, whole⟩
    · exact .inl empty
    · exact .inr ⟨front, last, by simpa using whole⟩
  rw [text, ofText] at slash ⊢
  rcases parts with empty | ⟨front, last, whole⟩
  · rw [empty] at slash ⊢
    cases root : PathRoot.ofText s <;> simp_all [PathRoot.text, Text.join]
  · have inside : last ∈ names s := by simp [whole]
    obtain ⟨filled, solid⟩ := mem_names inside
    rw [if_neg (by simp [whole]), whole, List.getLast?_append, getLast?_join front last filled,
      List.getLast?_eq_some_getLast filled] at slash
    have same : last.getLast filled = '/' := Option.some.inj slash
    exact absurd (same ▸ List.getLast_mem filled) solid

end Path
end BemLint
