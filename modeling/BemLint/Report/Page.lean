import BemLint.Report
import BemLint.Terminal.Emoji
import BemLint.Terminal.Layout
import BemLint.Text.Lines

/-!
# Reports for reading

A report as a page of text: for each file its violations, each with its place, the source line and
a better name, and a summary of all. The lines of a source are asked for by the path of the file.
-/
namespace BemLint.Report
open Terminal

/-- A paragraph in which emoji codes stand for pictures. -/
def pictured (pictures : Pictures) (width : Nat) (s : Text) : Text :=
  paragraph width (replaceEmoji pictures s)

/-- The line of a source that a number means, without the white space at its end. -/
def sourceLine? (source : List Text) (line : Tally) : Option Text :=
  if line.value < 1 then none
  else (source[(line.value - 1).toNat]?).map Text.trimEnd

def violationPage (pictures : Pictures) (width : Nat) (source : List Text) (v : Violation) :
    Text :=
  paragraph width ("  - [".toList ++ v.rule.id ++ "] ".toList ++ v.message) ++
    pictured pictures width ("      at ".toList ++ v.line.text ++ [':'] ++ v.column.text ++
      "  original: ".toList ++ v.original) ++
    (match sourceLine? source v.line with
      | some line =>
        pictured pictures width ("      ".toList ++ Text.padLeft ' ' 4 (Text.ofInt v.line.value) ++
          " │ ".toList ++ line)
      | none => []) ++
    (if v.suggestion.isEmpty then []
      else pictured pictures width ("      suggestion: ".toList ++ v.suggestion))

def filePage {ε : Type} (pictures : Pictures) (width : Nat)
    (sourceOf : Text → Except ε (List Text)) (f : FileReport) : Except ε Text := do
  let header := paragraph width [] ++ paragraph width ("File: ".toList ++ f.path)
  if f.violations.isEmpty then
    return header ++ paragraph width "  ✔ No BEM violations found".toList
  let source ← sourceOf f.path
  return header ++ f.violations.flatMap (violationPage pictures width source)

def summaryPage (width : Nat) (r : Report) : Text :=
  paragraph width [] ++ paragraph width ("Summary: ".toList ++ r.fileCount.text ++
    " file(s), ".toList ++ r.violationCount.text ++ " violation(s)".toList)

/-- A report as a page of a number of cells, with or without the files. The pictures that are taken
unless others are given are four, so that a page made with them leaves most codes as they are. -/
def page {ε : Type} (width : Nat) (details : Bool) (sourceOf : Text → Except ε (List Text))
    (r : Report) (pictures : Pictures := .known) : Except ε Text := do
  let files ← if details then r.files.mapM (filePage pictures width sourceOf) else pure []
  return files.flatten ++ summaryPage width r

end BemLint.Report
