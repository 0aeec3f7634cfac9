import BemLint.Audit
import BemLint.Command.Run
import BemLint.Proofs.ClassAttr.LineEnds
import BemLint.Proofs.Lint.Concatenation
import Mathlib.Data.List.Basic

/-!
# The standard input and files

The standard input is linted as it was decoded, a file after its line ends were made alike. White
space separates words in either form, so both have the same names and, but for the places, the same
violations. The places differ only behind a carriage return that stands alone, which is a line end
for files and none for positions.
-/
namespace BemLint

namespace ClassToken
open Text (AllBlank Solid SplitInto unifyNewlines unifiedOffset)

def unify (source : Text) (t : ClassToken) : ClassToken := ⟨t.name, unifiedOffset source t.offset⟩

/-- The words of a value are found where they come to lie. -/
theorem locateFrom_unify {source rest : Text} {ws : List Text} (a : ClassAttr)
    (opening closing : Text) (around : source = opening ++ (a.value ++ closing))
    (start : a.start = opening.length) (opened : opening.getLast? ≠ some '\r')
    (split : SplitInto rest ws) (before : Text) (whole : a.value = before ++ rest)
    (ends : before.getLast? ≠ some '\r') :
    locateFrom (a.unify source) (unifyNewlines before).length ws =
      (locateFrom a before.length ws).map (unify source) := by
  -- The cursor is at the front or behind a word, so what is before it can be converted alone.
  induction split generalizing before with
  | done => rfl
  | @word gap w rest later blank nonempty solid _ more ih =>
    rw [List.append_assoc] at whole
    have front : ∀ s, unifyNewlines (before ++ s) = unifyNewlines before ++ unifyNewlines s :=
      fun s => Text.unify_append before s fun ret => absurd ret ends
    have image : (a.unify source).value =
        unifyNewlines before ++ (unifyNewlines gap ++ (w ++ unifyNewlines rest)) := by
      unfold ClassAttr.unify
      rw [whole, front, Text.unify_word gap w rest nonempty solid]
    have cursor : unifyNewlines (before ++ (gap ++ w)) =
        unifyNewlines before ++ (unifyNewlines gap ++ w) := by
      have word := Text.unify_word gap w [] nonempty solid
      rw [List.append_nil] at word
      rw [front, word, unifyNewlines, List.append_nil]
    have place : unifiedOffset source (a.start + (before ++ gap).length) =
        (a.unify source).start + (unifyNewlines before ++ unifyNewlines gap).length := by
      unfold ClassAttr.unify
      rw [around, start, Text.unifiedOffset_add _ _ _ opened, ← front,
        Text.unifiedOffset_of_split (before ++ gap) (w ++ (rest ++ closing)) (by simp [whole]) rfl]
    have next := ih (before ++ (gap ++ w)) (by simp [whole]) (by
      rw [← List.append_assoc]
      exact Text.getLast?_ne nonempty (Text.solid_edges w solid).2)
    rw [locateFrom_word a before gap w rest later whole blank nonempty solid,
      locateFrom_word _ _ _ w _ later image ((Text.allBlank_unify gap).mpr blank) nonempty solid,
      List.map_cons, ← next, cursor, ← place]
    rfl

theorem ofAttr_unify (source : Text) (a : ClassAttr) (occurs : ClassAttr.Occurs source a) :
    ofAttr (a.unify source) = (ofAttr a).map (unify source) := by
  obtain ⟨before, lead, tail, after, written, whole, span⟩ := occurs
  have start : a.start = (before ++ lead).length := by
    rw [span]
    simp [ClassAttr.spanOf]
  have opened : (before ++ lead).getLast? ≠ some '\r' := by
    apply Text.getLast?_ne _ (ClassAttr.written_unify written).2.2.1
    exact List.length_pos_iff.mp (ClassAttr.written_quoted lead a.value tail written).1
  have names : Text.words (a.unify source).value = Text.words a.value := Text.words_unify a.value
  unfold ofAttr
  rw [names]
  exact locateFrom_unify a (before ++ lead) (tail ++ after) (by simp [whole]) start opened
    ((Text.splitInto_iff a.value _).mpr rfl) [] rfl (by simp)

/-- The names of a text with line ends made alike are its names, each where it comes to lie. -/
theorem scan_unify (source : Text) :
    scan (unifyNewlines source) = (scan source).map (unify source) := by
  have each : ∀ a ∈ ClassAttr.scan source,
      ofAttr (a.unify source) = (ofAttr a).map (unify source) := fun a member =>
    ofAttr_unify source a ((ClassAttr.scan_leftToRight source).occurs a member).1
  unfold scan
  rw [ClassAttr.scan_unify, List.flatMap_map, List.map_flatMap, List.flatMap_congr each]

theorem position_unify (source : Text) (paired : Text.PairedReturns source) (t : ClassToken)
    (member : t ∈ scan source) :
    (t.unify source).position (unifyNewlines source) = t.position source := by
  obtain ⟨a, chosen, inside⟩ := List.mem_flatMap.mp member
  have occurs := ((ClassAttr.scan_leftToRight source).occurs a chosen).1
  have word := ofAttr_wordAt source a occurs t inside
  obtain ⟨before, after, whole, size⟩ := word.split
  obtain ⟨c, rest, name⟩ := List.exists_cons_of_ne_nil word.nonempty
  have plain : c ≠ '\n' := by
    intro feed
    rw [feed] at name
    exact absurd (word.solid '\n' (by simp [name])) (by decide)
  rw [name] at whole
  rw [whole] at paired ⊢
  unfold position unify
  rw [← size]
  exact Text.positionAt_unify before (rest ++ after) c plain paired

theorem names_unify (source : Text) :
    (placed (unifyNewlines source)).map Prod.fst = (placed source).map Prod.fst := by
  unfold placed
  rw [scan_unify, List.map_map, List.map_map, List.map_map]
  rfl

/-- Where every carriage return has its line feed, a reader is shown the same places. -/
theorem placed_unify (source : Text) (paired : Text.PairedReturns source) :
    placed (unifyNewlines source) = placed source := by
  unfold placed
  rw [scan_unify, List.map_map]
  apply List.map_congr_left
  intro t member
  exact Prod.ext rfl (position_unify source paired t member)

/-- Behind a carriage return that stands alone the places differ. -/
example : placed "\r<p class='Card'>".toList = [("Card".toList, ⟨1, 12⟩)] ∧
    placed (unifyNewlines "\r<p class='Card'>".toList) = [("Card".toList, ⟨2, 11⟩)] := by decide

end ClassToken

namespace Lint
open IgnorePattern (Usable)
open IgnoreList (matchedBy)

variable {table : CharacterNames}

/-- What a violation says, whatever its place. -/
def said (v : Violation) : Rule × Text × Text × Text :=
  (v.rule, v.message, v.original, v.suggestion)

theorem said_checkPlaced (n : Text × Text.Position) :
    (checkPlaced n).map said = (Rule.checkAll n.1).map said := by
  unfold checkPlaced
  rw [List.map_map]
  rfl

/-- What is said of a text depends on its names alone. -/
theorem said_allViolations (source : Text) : (allViolations source).map said =
    ((ClassToken.placed source).map Prod.fst).flatMap fun name =>
      (Rule.checkAll name).map said := by
  rw [allViolations_placed, List.map_flatMap, List.flatMap_map]
  simp only [said_checkPlaced]

/-- What a filter by names leaves says what is left of what was said. -/
theorem said_filter (keep : Text → Bool) (found : List Violation) :
    (found.filter fun v => keep v.original).map said =
      (found.map said).filter fun saying => keep saying.2.2.1 := by
  rw [List.filter_map]
  rfl

theorem said_remaining (source : Text) (patterns : List Text) :
    (remaining table (Text.unifyNewlines source) patterns).map said =
      (remaining table source patterns).map said := by
  unfold remaining
  rw [said_filter fun name => !matchedBy table (IgnoreList.defaults ++ patterns) name,
    said_filter fun name => !matchedBy table (IgnoreList.defaults ++ patterns) name,
    said_allViolations, said_allViolations, ClassToken.names_unify]

theorem remaining_unify (source : Text) (patterns : List Text)
    (paired : Text.PairedReturns source) :
    remaining table (Text.unifyNewlines source) patterns = remaining table source patterns := by
  unfold remaining
  rw [allViolations_placed, allViolations_placed, ClassToken.placed_unify source paired]

/-- A file with some bytes is linted by the text that they are decoded to, in the form with line
feeds only. -/
theorem ofFiles_single (w : Workspace) (patterns : List Text) (root p : Path)
    (bytes : List UInt8) (there : w.readBytes p = .ok bytes)
    (usable : ∀ q ∈ patterns, Usable table q) :
    (Audit.ofFiles table w patterns root [p]).report = reportOn (w.displayPath p root)
        (remaining table (Text.unifyNewlines (Text.Utf8.decodeLossy bytes)) patterns) ∧
      (Audit.ofFiles table w patterns root [p]).failures = [] := by
  have read : Audit.readSource w p = .ok (Text.unifyNewlines (Text.Utf8.decodeLossy bytes)) := by
    unfold Audit.readSource
    rw [there]
    rfl
  have linted : Audit.lintFile table w patterns root p = .ok (reportOn (w.displayPath p root)
      (remaining table (Text.unifyNewlines (Text.Utf8.decodeLossy bytes)) patterns)) := by
    unfold Audit.lintFile
    rw [read]
    simp only [analyze_usable _ _ patterns usable]
  simp [Audit.ofFiles, Audit.run, Audit.next, linted, Audit.Progress.keep, Audit.Progress.finish,
    Report.merge, reportOn, Report.ofFiles]

theorem lintInput_usable (bytes : List UInt8) (patterns : List Text) (state : Command.RunState)
    (usable : ∀ q ∈ patterns, Usable table q) :
    (Command.lintInput table bytes patterns).run.run state =
      (.ok (reportOn snippetPath (remaining table (Text.Utf8.decodeLossy bytes) patterns)),
        state) := by
  unfold Command.lintInput
  rw [analyze_usable _ _ patterns usable]
  rfl

/-- The standard input and a file with the same bytes are linted alike. With patterns that can be
used, both give a report, with as many violations that say the same in the same order. When every
carriage return of the decoded bytes has its line feed, the violations are equal, with their
places. -/
theorem input_and_file_agree (w : Workspace) (root p : Path) (bytes : List UInt8)
    (patterns : List Text) (state : Command.RunState) (there : w.readBytes p = .ok bytes)
    (usable : ∀ q ∈ patterns, Usable table q) :
    ∃ found found',
      (Command.lintInput table bytes patterns).run.run state =
        (.ok (reportOn snippetPath found), state) ∧
      (Audit.ofFiles table w patterns root [p]).report = reportOn (w.displayPath p root) found' ∧
      (Audit.ofFiles table w patterns root [p]).failures = [] ∧
      found.map said = found'.map said ∧
      (Text.PairedReturns (Text.Utf8.decodeLossy bytes) → found = found') := by
  obtain ⟨report, failures⟩ := ofFiles_single w patterns root p bytes there usable
  exact ⟨_, _, lintInput_usable bytes patterns state usable, report, failures,
    (said_remaining _ patterns).symm, fun paired => (remaining_unify _ patterns paired).symm⟩

/-- Two lines end inside a tag, with a carriage return and a line feed. -/
def wrappedTag : List UInt8 := Text.Utf8.encode "<p\r\n class=\"Card\r\nMenu\">".toList

def wrappedFile : Workspace :=
  ⟨["work".toList], [(["work".toList], .directory),
    (["work".toList, "a.html".toList], .file wrappedTag)]⟩

theorem input_and_file_agree_wrappedTag :
    wrappedFile.readBytes ⟨.slash, ["work".toList, "a.html".toList]⟩ = .ok wrappedTag ∧
      (∀ q ∈ ["^js-".toList], Usable .ascii q) ∧
      Text.PairedReturns (Text.Utf8.decodeLossy wrappedTag) ∧
      ∃ found, found = [blockBreach "Card" "card" 2 9, blockBreach "Menu" "menu" 3 1] ∧
        (Command.lintInput .ascii wrappedTag ["^js-".toList]).run.run ⟨wrappedFile, [], []⟩ =
          (.ok (reportOn snippetPath found), ⟨wrappedFile, [], []⟩) ∧
        (Audit.ofFiles .ascii wrappedFile ["^js-".toList] wrappedFile.homePath
          [⟨.slash, ["work".toList, "a.html".toList]⟩]).report =
            reportOn "a.html".toList found := by
  have there : wrappedFile.readBytes ⟨.slash, ["work".toList, "a.html".toList]⟩ =
      .ok wrappedTag := by
    decide +kernel
  have usable : ∀ q ∈ ["^js-".toList], Usable .ascii q := IgnorePattern.usable_single rfl
  have paired : Text.PairedReturns (Text.Utf8.decodeLossy wrappedTag) := by
    decide +kernel
  have shown : wrappedFile.displayPath ⟨.slash, ["work".toList, "a.html".toList]⟩
      wrappedFile.homePath = "a.html".toList := by
    decide +kernel
  have two : (Audit.ofFiles .ascii wrappedFile ["^js-".toList] wrappedFile.homePath
      [⟨.slash, ["work".toList, "a.html".toList]⟩]).report = reportOn "a.html".toList
        [blockBreach "Card" "card" 2 9, blockBreach "Menu" "menu" 3 1] := by
    decide +kernel
  obtain ⟨found, found', input, file, -, -, same⟩ := input_and_file_agree wrappedFile
    wrappedFile.homePath _ wrappedTag _ ⟨wrappedFile, [], []⟩ there usable
  obtain rfl := same paired
  rw [shown] at file
  exact ⟨there, usable, paired, found, reportOn_injective (file.symm.trans two), input, file⟩

end Lint
end BemLint
