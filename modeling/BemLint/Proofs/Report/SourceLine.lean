import BemLint.Command.Run
import BemLint.Proofs.Lint.Places
import Mathlib.Control.Monad.Basic

/-!
# Quoted source lines

A page reads the file of a report again and quotes the line of each violation. The number of that
line counts line feeds, but the page cuts the file at every line boundary. There is always a line to
quote, and it is the one with the violation as long as the text has no boundary but line feeds up to
the end of that line; another boundary earlier in the text can move the quotation elsewhere.
-/
namespace BemLint.Report
open Text (OneLine)

/-- The place of the file that a page shows under a path: a relative path counts from a root. -/
def placeOf? (root : Option Path) (shown : Text) : Option Path :=
  if (Path.ofText shown).isAbsolute then some (Path.ofText shown)
  else root.map (·.append (Path.ofText shown))

/-- The path of a file in a report leads to a text: not that of a snippet, and with a place where
the text is found. -/
structure LeadsTo (w : Workspace) (root : Option Path) (shown source : Text) : Prop where
  ofFile : shown ≠ Lint.snippetPath
  there : ∃ place, placeOf? root shown = some place ∧ Audit.readSource w place = .ok source

theorem sourceLines_ok {w : Workspace} {root : Option Path} {shown source : Text}
    (leads : LeadsTo w root shown source) :
    Command.sourceLines w root shown = .ok (Text.pageLines source) := by
  obtain ⟨ofFile, place, found, content⟩ := leads
  rw [placeOf?] at found
  simp only [Command.sourceLines, if_neg ofFile, found, content]

/-- The line that a number of at least one quotes. -/
theorem sourceLine?_succ (lines : List Text) (k : Nat) :
    sourceLine? lines (.int (k + 1)) = lines[k]?.map Text.trimEnd := by
  have index : ((k : Int) + 1 - 1).toNat = k := by omega
  rw [sourceLine?, Tally.value, if_neg (by omega), index]

/-- A line of a page is a line between line feeds with the same number exactly when that one is
whole, if the lines before it are. -/
theorem selected_iff {source line selected : Text} {k : Nat}
    (feed : (Text.feedLines source)[k]? = some line) (filled : line ≠ [])
    (here : (Text.pageLines source)[k]? = some selected)
    (earlier : ∀ l ∈ (Text.feedLines source).take k, OneLine l) :
    selected = line ↔ OneLine line := by
  constructor
  · rintro rfl
    exact Text.pageLines_oneLine source selected (List.mem_of_getElem? here)
  · intro whole
    have same := Text.pageLines_getElem? source k line feed filled whole earlier
    exact Option.some.inj (here.symm.trans same)

/-- Every violation of a text has a line to quote when the page reads the text again. The name stands
in the line of the text with that number, at the column of the violation. As long as no line before
it holds a boundary other than its line feed, that line is quoted exactly when it holds none
itself. -/
theorem quoted_line_iff {table : CharacterNames} {w : Workspace} {root : Option Path}
    {source path : Text} {patterns : List Text} {report : Report}
    (linted : Lint.analyze table source path patterns = .ok report)
    {f : FileReport} (file : f ∈ report.files) {v : Violation} (found : v ∈ f.violations)
    (leads : LeadsTo w root f.path source) :
    ∃ lines selected line, Command.sourceLines w root f.path = .ok lines ∧
      lines[(v.line.value - 1).toNat]? = some selected ∧
      sourceLine? lines v.line = some (Text.trimEnd selected) ∧
      (Text.feedLines source)[(v.line.value - 1).toNat]? = some line ∧
      StandsAt line v.original v.column.value ∧
      ((∀ l ∈ (Text.feedLines source).take (v.line.value - 1).toNat, OneLine l) →
        (selected = line ↔ OneLine line)) := by
  obtain ⟨named, k, line, number, feed, stands⟩ := Lint.stands_analyze linted file found
  have filled : line ≠ [] := by
    obtain ⟨left, right, rfl, -⟩ := stands
    simp [named]
  have index : ((k : Int) + 1 - 1).toNat = k := by omega
  obtain ⟨selected, here⟩ : ∃ selected, (Text.pageLines source)[k]? = some selected :=
    ⟨_, List.getElem?_eq_getElem (Text.lt_length_pageLines source k line feed filled)⟩
  refine ⟨_, selected, line, sourceLines_ok leads, ?_, ?_, ?_, stands, fun earlier => ?_⟩
  · rw [number, Tally.value, index]
    exact here
  · rw [number, sourceLine?_succ, here]
    rfl
  · rw [number, Tally.value, index]
    exact feed
  · rw [number, Tally.value, index] at earlier
    exact selected_iff feed filled here earlier

/-- A text with a breach of the rule for blocks in its second line. -/
def secondLine : Text := "<br>\n<p class=\"Card\">".toList

/-- The same with a form feed inside a comment in the first line. -/
def behindFormFeed : Text := "<!--\x0c-->\n<p class=\"Card\">".toList

def secondLineBreach : Violation :=
  ⟨.blockName, "Block name should be kebab-case (e.g. `profile-card`).".toList, "Card".toList,
    "card".toList, .int 2, .int 11⟩

def secondLineReport : Report := .ofFiles [⟨"a.html".toList, [secondLineBreach]⟩]

def oneFile (source : Text) : Workspace :=
  ⟨["work".toList], [(["work".toList], .directory),
    (["work".toList, "a.html".toList], .file (Text.Utf8.encode source))]⟩

theorem quoted_line_iff_secondLine :
    Lint.analyze .ascii secondLine "a.html".toList [] = .ok secondLineReport ∧
      LeadsTo (oneFile secondLine) (some (oneFile secondLine).homePath) "a.html".toList
        secondLine ∧
      ∃ lines selected line,
        Command.sourceLines (oneFile secondLine) (some (oneFile secondLine).homePath)
          "a.html".toList = .ok lines ∧
        lines[(secondLineBreach.line.value - 1).toNat]? = some selected ∧
        sourceLine? lines secondLineBreach.line = some (Text.trimEnd selected) ∧
        (Text.feedLines secondLine)[(secondLineBreach.line.value - 1).toNat]? = some line ∧
        StandsAt line secondLineBreach.original secondLineBreach.column.value ∧
        ((∀ l ∈ (Text.feedLines secondLine).take (secondLineBreach.line.value - 1).toNat,
          OneLine l) → (selected = line ↔ OneLine line)) := by
  have linted : Lint.analyze .ascii secondLine "a.html".toList [] = .ok secondLineReport := by
    decide +kernel
  have leads : LeadsTo (oneFile secondLine) (some (oneFile secondLine).homePath) "a.html".toList
      secondLine :=
    ⟨by decide, ⟨.slash, ["work".toList, "a.html".toList]⟩, by decide, by decide +kernel⟩
  have file : ⟨"a.html".toList, [secondLineBreach]⟩ ∈ secondLineReport.files := .head []
  exact ⟨linted, leads, quoted_line_iff linted file (.head []) leads⟩

/-- The form feed moves the quotation by a line: to the end of the comment. -/
theorem other_line_quoted :
    Lint.analyze .ascii behindFormFeed "a.html".toList [] = .ok secondLineReport ∧
      Command.sourceLines (oneFile behindFormFeed) (some (oneFile behindFormFeed).homePath)
        "a.html".toList = .ok (Text.pageLines behindFormFeed) ∧
      sourceLine? (Text.pageLines behindFormFeed) secondLineBreach.line = some "-->".toList ∧
      (Text.feedLines behindFormFeed)[(secondLineBreach.line.value - 1).toNat]? =
        some "<p class=\"Card\">".toList := by
  decide +kernel

end BemLint.Report
