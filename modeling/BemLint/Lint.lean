import BemLint.ClassToken
import BemLint.Ignore
import BemLint.Report
import BemLint.Rule.Check

/-!
# Linting a text

All rules are applied to every class name of a text that no pattern of the ignore list matches.
Violations come in the order of the names and carry their places.
-/
namespace BemLint.Lint

/-- The path shown for a text that comes from no file. -/
def snippetPath : Text := "snippet".toList

/-- A violation moved to a place. -/
def stamp (place : Text.Position) (v : Violation) : Violation :=
  { v with line := .int place.line, column := .int place.column }

def checkToken (source : Text) (t : ClassToken) : List Violation :=
  (Rule.checkAll t.name).map (stamp (t.position source))

def violations (ignored : IgnoreList) (source : Text) : List Violation :=
  ((ClassToken.scan source).filter fun t => !ignored.ignores t.name).flatMap (checkToken source)

def analyze (table : CharacterNames) (source path : Text) (patterns : List Text) :
    Except PatternFault Report := do
  let ignored ← IgnoreList.ofPatterns table patterns
  return Report.ofFiles
    [⟨if path.isEmpty then snippetPath else path, violations ignored source⟩]

end BemLint.Lint
