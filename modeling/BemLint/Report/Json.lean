import BemLint.Json.Parser
import BemLint.Json.Printer
import BemLint.Report

/-!
# Reports as JSON

Writing a report and reading one back. The reader demands the shape that the writer produces, but
fills in what a violation lacks: texts may be missing or of another kind, and a place that is no
positive number becomes the first.
-/
namespace BemLint

def Tally.toJson : Tally → Json
  | .int n => .int n
  | .flag b => .bool b

/-- The number that a value is; a truth value will do. -/
def Tally.ofJson? : Json → Option Tally
  | .int n => some (.int n)
  | .bool b => some (.flag b)
  | _ => none

def Violation.toJson (v : Violation) : Json :=
  .obj [("rule_id".toList, .str v.rule.id), ("message".toList, .str v.message),
    ("line".toList, v.line.toJson), ("column".toList, v.column.toJson),
    ("original".toList, .str v.original), ("suggestion".toList, .str v.suggestion)]

def FileReport.toJson (f : FileReport) : Json :=
  .obj [("file_path".toList, .str f.path),
    ("violations".toList, .arr (f.violations.map Violation.toJson))]

namespace Report

def toJson (r : Report) : Json :=
  .obj [("summary".toList,
      .obj [("file_count".toList, r.fileCount.toJson),
        ("violation_count".toList, r.violationCount.toJson)]),
    ("files".toList, .arr (r.files.map FileReport.toJson))]

def jsonText (r : Report) : Text := Json.pretty .unicode r.toJson

inductive Misshape where
  | notAnObject
  | noSummary
  | noCounts
  | filesNotAList
  | fileNotAnObject
  | noFilePath
  | violationsNotAList (path : Text)
  | violationNotAnObject (path : Text)
  | unknownRule (path : Text) (given : Json)
deriving Repr

def Misshape.message : Misshape → Text
  | .notAnObject => "JSON report must be an object.".toList
  | .noSummary => "JSON report missing required object: summary.".toList
  | .noCounts => "JSON report summary must contain integer file_count/violation_count.".toList
  | .filesNotAList => "JSON report `files` must be a list.".toList
  | .fileNotAnObject => "JSON report file entries must be objects.".toList
  | .noFilePath => "JSON report file entry missing `file_path`.".toList
  | .violationsNotAList path =>
    "JSON report `violations` for ".toList ++ Text.quoted path ++ " must be a list.".toList
  | .violationNotAnObject path =>
    "JSON report violations for ".toList ++ Text.quoted path ++ " must be objects.".toList
  | .unknownRule path given =>
    "JSON report violation in ".toList ++ Text.quoted path ++ " has unknown rule_id: ".toList ++
      given.literal ++ ['.']

/-- A line or a column: the first unless the field holds a positive number. -/
def placeOf (field : Option Json) : Tally :=
  match field.bind Tally.ofJson? with
  | some n => if 0 < n.value then n else .int 1
  | none => .int 1

/-- The text of a field, empty when there is no such field. -/
def textOf (name : String) (fields : List (Text × Json)) : Text :=
  match Json.field? name.toList fields with
  | some value => value.display
  | none => []

def ruleOf? : Json → Option Rule
  | .str name => Rule.ofId? name
  | _ => none

def readViolation (path : Text) : Json → Except Misshape Violation
  | .obj fields =>
    let given := (Json.field? "rule_id".toList fields).getD .null
    match ruleOf? given with
    | none => .error (.unknownRule path given)
    | some rule =>
      .ok
        { rule := rule
          message := textOf "message" fields
          original := textOf "original" fields
          suggestion := textOf "suggestion" fields
          line := placeOf (Json.field? "line".toList fields)
          column := placeOf (Json.field? "column".toList fields) }
  | _ => .error (.violationNotAnObject path)

def readFile : Json → Except Misshape FileReport
  | .obj fields =>
    match Json.field? "file_path".toList fields with
    | some (.str path) =>
      match Json.field? "violations".toList fields with
      | none => .ok ⟨path, []⟩
      | some (.arr items) => do
        let violations ← items.mapM (readViolation path)
        return ⟨path, violations⟩
      | some _ => .error (.violationsNotAList path)
    | _ => .error .noFilePath
  | _ => .error .fileNotAnObject

def readCounts? (fields : List (Text × Json)) : Option (Tally × Tally) := do
  let fileCount ← (Json.field? "file_count".toList fields).bind Tally.ofJson?
  let violationCount ← (Json.field? "violation_count".toList fields).bind Tally.ofJson?
  return (fileCount, violationCount)

def readFiles (fields : List (Text × Json)) : Except Misshape (List FileReport) :=
  match Json.field? "files".toList fields with
  | none => .ok []
  | some (.arr items) => items.mapM readFile
  | some _ => .error .filesNotAList

def ofJson : Json → Except Misshape Report
  | .obj fields =>
    match Json.field? "summary".toList fields with
    | some (.obj summary) =>
      match readCounts? summary with
      | none => .error .noCounts
      | some (fileCount, violationCount) => do
        let files ← readFiles fields
        return ⟨fileCount, violationCount, files⟩
    | _ => .error .noSummary
  | _ => .error .notAnObject

inductive Rejection where
  | unreadable (refusal : Json.Refusal)
  | misshapen (misshape : Misshape)
deriving Repr

def Rejection.message (source : Text) : Rejection → Text
  | .unreadable refusal => refusal.message source
  | .misshapen misshape => misshape.message

def parse (source : Text) : Except Rejection Report :=
  match Json.parse source with
  | .error refusal => .error (.unreadable refusal)
  | .ok value =>
    match ofJson value with
    | .error misshape => .error (.misshapen misshape)
    | .ok report => .ok report

end Report
end BemLint
