import BemLint.Proofs.Decimal.Digits
import BemLint.Proofs.Text.Substitution
import BemLint.Report.File
import Mathlib.Data.List.Nodup

/-!
# Names of report files

The placeholders of a file name are replaced one after another, and yet the name is what one pass over
the pattern makes of it. Times are written in digits, which stand in no placeholder, so what has been
inserted is never taken for a part of one, and never makes one of what stands around it.
-/
namespace BemLint.Report
open Text (Substituted Separable)

/-- A number is written in digits, also when it is filled up to a width. -/
theorem padded_digits (width n : Nat) :
    padded width n ≠ [] ∧ ∀ c ∈ padded width n, Text.isAsciiDigit c = true := by
  constructor
  · intro empty
    exact Text.ofNat_ne_nil n (List.append_eq_nil_iff.mp empty).2
  · intro c member
    rcases List.mem_append.mp member with fill | digit
    · rw [List.eq_of_mem_replicate fill]
      rfl
    · exact Text.ofNat_digits n c digit

/-- The placeholders, whatever the time. -/
def marks : List Text :=
  [placeholder "YYYY", placeholder "MM", placeholder "DD", placeholder "HH", placeholder "mm",
    placeholder "ss"]

theorem placeholders_marks (now : Moment) : (placeholders now).map Prod.fst = marks := rfl

theorem placeholders_values (now : Moment) : ∀ entry ∈ placeholders now,
    entry.2 ≠ [] ∧ ∀ c ∈ entry.2, Text.isAsciiDigit c = true := by
  intro entry listed
  simp only [placeholders, List.mem_cons, List.not_mem_nil, or_false] at listed
  rcases listed with rfl | rfl | rfl | rfl | rfl | rfl <;> exact padded_digits _ _

theorem marks_opened : ∀ mark ∈ marks, ∃ rest, mark = '{' :: rest ∧ '{' ∉ rest := by
  have shape : ∀ mark ∈ marks, mark = '{' :: mark.tail ∧ '{' ∉ mark.tail := by decide
  exact fun mark member => ⟨mark.tail, shape mark member⟩

theorem placeholders_separable (now : Moment) : Separable (placeholders now) := by
  have isMark : ∀ entry ∈ placeholders now, entry.1 ∈ marks :=
    fun entry listed => List.mem_map_of_mem listed
  refine ⟨fun entry listed => ?_, fun entry listed other listed' begins => ?_,
    fun entry listed => (placeholders_values now entry listed).1,
    fun entry listed other listed' c value inside => ?_⟩
  · obtain ⟨inner, opened, -⟩ := marks_opened _ (isMark entry listed)
    exact ⟨'{', inner, opened, fun other listed' => marks_opened _ (isMark other listed')⟩
  · have apart : ∀ mark ∈ marks, ∀ other ∈ marks, mark <+: other → mark = other := by
      decide
    have same := apart _ (isMark entry listed) _ (isMark other listed') begins
    have distinct : ((placeholders now).map Prod.fst).Nodup := by
      rw [placeholders_marks]
      decide
    exact List.inj_on_of_nodup_map distinct listed listed' same
  · have noDigit : (marks.all fun mark => mark.all fun c => !Text.isAsciiDigit c) = true := by
      decide
    have none := List.all_eq_true.mp (List.all_eq_true.mp noDigit _ (isMark other listed')) c inside
    rw [(placeholders_values now entry listed).2 c value] at none
    cases none

/-- A file name is its pattern with the time in place of the placeholders, put in by one pass from left
to right that copies all else. Any order of the six replacements gives the same name, and no
placeholder is left in it. -/
theorem fileName_is_one_pass (pattern : Text) (now : Moment) :
    (∀ name, Substituted (placeholders now) pattern name ↔ name = fileName pattern now) ∧
      (∀ order : List (Text × Text), order.Perm (placeholders now) →
        order.foldl (fun name (mark, value) => Text.replace mark value name) pattern =
          fileName pattern now) ∧
      ∀ mark ∈ marks, ¬ mark <:+: fileName pattern now := by
  have separable := placeholders_separable now
  have onePass : Substituted (placeholders now) pattern (fileName pattern now) :=
    (Text.substituted_iff_foldl separable).mpr rfl
  refine ⟨fun name => Text.substituted_iff_foldl separable, fun order same => ?_, fun mark isMark => ?_⟩
  · have ordered : Separable order := separable.mono fun _ => same.mem_iff.mp
    have sub := onePass.congr fun _ => same.mem_iff
    exact (sub.eq_foldl ordered).symm
  · rw [← placeholders_marks now, List.mem_map] at isMark
    obtain ⟨entry, listed, rfl⟩ := isMark
    exact onePass.not_infix separable listed

example : fileName "\x7b\x7bMM\x7d\x7bM\x7bMM\x7dM\x7d".toList ⟨2024, 3, 7, 9, 5, 2⟩ =
    "\x7b03\x7bM03M\x7d".toList := by
  decide

end BemLint.Report
