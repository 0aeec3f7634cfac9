import BemLint.Lint
import BemLint.Proofs.ClassToken.Places
import BemLint.Proofs.Text.Lines

/-!
# Where violations stand

A violation of a text comes from a class name that stands there, carries that name unchanged, and is
placed where the name begins. In the line that its line number means, lines ending at line feeds
only, the name stands at its column.
-/
namespace BemLint

/-- No rule changes the name that it finds something in. -/
theorem Rule.original_check (rule : Rule) (name : Text) (v : Violation)
    (member : v ∈ rule.check name) : v.original = name := by
  cases rule with
  | noElementNesting =>
    rw [check, checkNesting] at member
    split at member
    next => rw [List.mem_singleton.mp member]
    next => cases member
  | blockName =>
    simp only [check, checkBlock] at member
    split at member
    next => cases member
    next => rw [List.mem_singleton.mp member]
  | elementDelimiter =>
    rw [check, checkElement] at member
    split at member
    next => cases member
    next =>
      rcases List.mem_append.mp member with found | found <;> split at found
      next => rw [List.mem_singleton.mp found, hyphenElement]
      next => cases found
      next => rw [List.mem_singleton.mp found, lowLineElement]
      next => cases found
  | modifierDelimiter =>
    rcases List.mem_append.mp member with found | found <;> split at found
    next => rw [List.mem_singleton.mp found, lowLineModifier]
    next => cases found
    next => rw [List.mem_singleton.mp found, hyphenModifier]
    next => cases found
  | modifierFormat =>
    rw [check, checkModifierFormat] at member
    split at member
    next =>
      split at member
      next => cases member
      next => rw [List.mem_singleton.mp member]
    next => cases member

theorem Rule.original_checkAll (name : Text) (v : Violation) (member : v ∈ checkAll name) :
    v.original = name := by
  obtain ⟨rule, -, found⟩ := List.mem_flatMap.mp member
  exact original_check rule name v found

/-- A name stands in a line at a column, the first being one. -/
def StandsAt (line name : Text) (column : Int) : Prop :=
  ∃ left right, line = left ++ (name ++ right) ∧ column = left.length + 1

namespace ClassToken

/-- The text around a class name that stands as a word. -/
theorem WordAt.split {source name : Text} {a : ClassAttr} {offset : Nat}
    (word : WordAt source a name offset) :
    ∃ before after, source = before ++ (name ++ after) ∧ before.length = offset := by
  have whole := List.take_append_drop offset source
  have rest := List.take_append_drop name.length (source.drop offset)
  rw [word.here] at rest
  refine ⟨source.take offset, (source.drop offset).drop name.length, by rw [rest, whole], ?_⟩
  have filled := List.length_pos_iff.mpr word.nonempty
  have size := congrArg List.length word.here
  simp only [List.length_take, List.length_drop] at size
  rw [List.length_take]
  omega

/-- A class name stands in the line of its position, at the column of it. -/
theorem stands_scan (source : Text) (t : ClassToken) (member : t ∈ scan source) :
    t.name ≠ [] ∧ ∃ k : Nat, ∃ line, (t.position source).line = k + 1 ∧
      (Text.feedLines source)[k]? = some line ∧
      StandsAt line t.name (t.position source).column := by
  obtain ⟨a, chosen, inside⟩ := List.mem_flatMap.mp member
  have occurs := ((ClassAttr.scan_leftToRight source).occurs a chosen).1
  have word := ofAttr_wordAt source a occurs t inside
  have feedless : '\n' ∉ t.name := fun feed => absurd (word.solid _ feed) (by decide)
  obtain ⟨before, after, whole, size⟩ := word.split
  obtain ⟨left, right, line, column⟩ := Text.feedLines_word before t.name after feedless
  have start : source.take t.offset = before := by rw [whole, ← size, List.take_left]
  have place : t.position source =
      ⟨before.count '\n' + 1, t.offset + 1 - Text.lastLineStart before⟩ := by
    rw [position, Text.positionAt_eq, Text.take_covered, start]
  refine ⟨word.nonempty, before.count '\n', _, by rw [place], by rw [whole]; exact line,
    left, right, rfl, ?_⟩
  rw [place]
  simp only
  omega

end ClassToken

namespace Lint

theorem analyze_ok {table : CharacterNames} {source path : Text} {patterns : List Text}
    {report : Report} (linted : analyze table source path patterns = .ok report) :
    ∃ ignored, report = Report.ofFiles
      [⟨if path.isEmpty then snippetPath else path, violations ignored source⟩] := by
  rw [analyze] at linted
  cases compiled : IgnoreList.ofPatterns table patterns with
  | error fault =>
    rw [compiled] at linted
    cases linted
  | ok ignored =>
    rw [compiled] at linted
    exact ⟨ignored, (Except.ok.inj linted).symm⟩

theorem mem_violations {ignored : IgnoreList} {source : Text} {v : Violation}
    (member : v ∈ violations ignored source) :
    ∃ t ∈ ClassToken.scan source, v.original = t.name ∧
      v.line = .int (t.position source).line ∧ v.column = .int (t.position source).column := by
  obtain ⟨t, kept, found⟩ := List.mem_flatMap.mp member
  obtain ⟨raw, raised, rfl⟩ := List.mem_map.mp found
  exact ⟨t, (List.mem_filter.mp kept).1, Rule.original_checkAll t.name raw raised, rfl, rfl⟩

/-- A violation stands in the line of its number, at its column. -/
theorem stands_analyze {table : CharacterNames} {source path : Text} {patterns : List Text}
    {report : Report} (linted : analyze table source path patterns = .ok report) {f : FileReport}
    (file : f ∈ report.files) {v : Violation} (found : v ∈ f.violations) :
    v.original ≠ [] ∧ ∃ k : Nat, ∃ line, v.line = .int (k + 1) ∧
      (Text.feedLines source)[k]? = some line ∧ StandsAt line v.original v.column.value := by
  obtain ⟨ignored, rfl⟩ := analyze_ok linted
  rw [List.mem_singleton.mp file] at found
  obtain ⟨t, scanned, original, line, column⟩ := mem_violations found
  rw [original, line, column]
  obtain ⟨filled, k, text, number, there, stands⟩ := ClassToken.stands_scan source t scanned
  exact ⟨filled, k, text, by rw [number], there, stands⟩

end Lint
end BemLint
