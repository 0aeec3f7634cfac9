import BemLint.Path
import Mathlib.Data.Char
import Mathlib.Data.List.Lex

/-!
# The order of paths

Texts are ordered by their characters and lists of names by their names, each by the first place that
differs. So what is sorted by `namesLe` stands in the order of lists of lists.
-/
namespace BemLint

theorem Text.le_iff (s t : Text) : Text.le s t = true ↔ s < t ∨ s = t := by
  induction s generalizing t with
  | nil => cases t <;> simp [Text.le]
  | cons a s ih =>
    cases t with
    | nil => simp [Text.le]
    | cons b t =>
      have less : a.toNat < b.toNat ↔ a < b := Iff.rfl
      simp only [Text.le, Bool.or_eq_true, decide_eq_true_eq, Bool.and_eq_true, beq_iff_eq, less,
        ih, List.cons_lt_cons_iff, List.cons.injEq]
      tauto

namespace Path

theorem namesLe_iff (names others : List Text) : namesLe names others = true ↔ names ≤ others := by
  rw [le_iff_lt_or_eq]
  induction names generalizing others with
  | nil => cases others <;> simp [namesLe]
  | cons n names ih =>
    cases others with
    | nil => simp [namesLe]
    | cons m others =>
      rw [namesLe, List.cons_lt_cons_iff, List.cons.injEq]
      split
      next same => simp [same, ih]
      next apart => simp [apart, Text.le_iff]

theorem nodup_eraseDups (names : List (List Text)) : names.eraseDups.Nodup := by
  match names with
  | [] => simp
  | first :: rest =>
    rw [List.eraseDups_cons, List.nodup_cons]
    refine ⟨fun again => ?_, nodup_eraseDups _⟩
    have other := List.of_mem_filter (List.mem_eraseDups.mp again)
    simp at other
termination_by names.length
decreasing_by exact Nat.lt_succ_of_le (List.length_filter_le _ _)

/-- Sorting without repetition gives a strictly increasing list. -/
theorem sortedNames_increasing (names : List (List Text)) :
    (names.eraseDups.mergeSort namesLe).Pairwise (· < ·) := by
  have sorted : (names.eraseDups.mergeSort namesLe).Pairwise (namesLe · · = true) := by
    apply List.pairwise_mergeSort
    · intro a b c first second
      rw [namesLe_iff] at *
      exact first.trans second
    · intro a b
      rw [Bool.or_eq_true, namesLe_iff, namesLe_iff]
      exact le_total a b
  have apart : (names.eraseDups.mergeSort namesLe).Nodup :=
    (List.mergeSort_perm _ _).nodup_iff.mpr (nodup_eraseDups names)
  exact (sorted.and apart).imp fun ⟨le, ne⟩ => lt_of_le_of_ne ((namesLe_iff _ _).mp le) ne

end Path
end BemLint
