import BemLint.Log
import BemLint.Report.Json
import BemLint.Settings.Basic
import BemLint.Text.CodePoint
import BemLint.Workspace.Change

/-!
# Report files

A report is written as JSON into a file whose name can hold the time of writing. Directories that
are missing on the way are made. When that fails the run goes on without a report file.
-/
namespace BemLint

structure Moment where
  year : Nat
  month : Nat
  day : Nat
  hour : Nat
  minute : Nat
  second : Nat
deriving DecidableEq, Repr

namespace Report

def padded (width n : Nat) : Text := Text.padLeft '0' width (Text.ofNat n)

def placeholder (mark : String) : Text := '{' :: mark.toList ++ ['}']

/-- The placeholders with what a time puts for each. -/
def placeholders (now : Moment) : List (Text × Text) :=
  [(placeholder "YYYY", padded 4 now.year), (placeholder "MM", padded 2 now.month),
    (placeholder "DD", padded 2 now.day), (placeholder "HH", padded 2 now.hour),
    (placeholder "mm", padded 2 now.minute), (placeholder "ss", padded 2 now.second)]

/-- A file name with the time in place of the placeholders, one after another. -/
def fileName (pattern : Text) (now : Moment) : Text :=
  (placeholders now).foldl (fun name (mark, value) => Text.replace mark value name) pattern

def defaultDirectory : Text := "bem-reports".toList

def defaultFileName : Text :=
  "bem-report_".toList ++ placeholder "YYYY" ++ ['-'] ++ placeholder "MM" ++ ['-'] ++
    placeholder "DD" ++ ['_'] ++ placeholder "HH" ++ placeholder "mm" ++ placeholder "ss" ++
    ".json".toList

/-- The path of a report file. A setting counts only with both of its parts, neither empty. -/
def filePath (target : ReportTarget) (directory : Path) (now : Moment) : Path :=
  let place := fun (folder name : Text) =>
    (directory.append (Path.ofText folder)).append (Path.ofText (fileName name now))
  match target.path, target.filenamePattern with
  | some (c :: folder), some (d :: name) => place (c :: folder) (d :: name)
  | _, _ => place defaultDirectory defaultFileName

inductive WriteFault where
  | file (error : FileError)
  /-- A number of the report has too many digits. -/
  | longNumber
  | unencodable (run : Text.Utf8.Unencodable)
deriving DecidableEq, Repr

def WriteFault.message : WriteFault → Text
  | .file error => error.message
  | .longNumber => Decimal.unwrittenIntegerMessage
  | .unencodable run => run.message

/-- The failure of the file system that a fault is, if it is one. -/
def WriteFault.ofSystem? : WriteFault → Option FileError
  | .file error => if error.isOfSystem then some error else none
  | .longNumber | .unencodable _ => none

def numbers (r : Report) : List Tally :=
  r.fileCount :: r.violationCount ::
    r.files.flatMap fun f => f.violations.flatMap fun v => [v.line, v.column]

/-- Whether a report has a number with too many digits to be written. -/
def hasLongNumber (r : Report) : Bool :=
  r.numbers.any fun n => Decimal.digitLimit < (Text.ofNat n.value.natAbs).length

/-- What a report is rendered as. The texts of a `Report` are without surrogates; a rendering may
have them, since not every report comes from such texts. -/
inductive Rendering where
  | longNumber
  | points (text : List Text.CodePoint)
deriving DecidableEq, Repr

def rendering (r : Report) : Rendering :=
  if r.hasLongNumber then .longNumber else .points (r.jsonText.map .char)

def failureRecord (e : FileError) : LogRecord :=
  ⟨.error, .writer, "failed to write report: ".toList ++ e.message⟩

/-- What saving a report comes to: the path of its file, if there is one, or the fault that the
caller has to deal with, and beside that the workspace and what was logged. -/
structure Saved where
  outcome : Except WriteFault (Option Path)
  workspace : Workspace
  records : List LogRecord

namespace Rendering

/-- Write code points to a file. The file is opened, and so emptied, before they are encoded. -/
def writePoints (p : Path) (text : List Text.CodePoint) :
    ExceptT WriteFault (StateM Workspace) Unit :=
  match Text.Utf8.encodePoints text with
  | .ok bytes => ExceptT.adapt .file (Workspace.writeFile p bytes)
  | .error run => do
    ExceptT.adapt .file (Workspace.writeFile p [])
    throw (.unencodable run)

/-- Write a rendering to a file, with a line feed at its end. The directories are made before the
numbers are looked at, and the file only after that. -/
def writeTo (x : Rendering) (p : Path) : ExceptT WriteFault (StateM Workspace) Unit := do
  ExceptT.adapt .file (Workspace.ensureDirectories p.parent)
  match x with
  | .longNumber => throw .longNumber
  | .points text => writePoints p (text ++ [.char '\n'])

/-- Save a rendering. A failure of the file system is logged and leaves no report file; any other
fault goes to the caller. -/
def save (x : Rendering) (target : ReportTarget) (directory : Path) (now : Moment) (w : Workspace) :
    Saved :=
  let p := filePath target directory now
  match (x.writeTo p).run.run w with
  | (.ok (), after) => ⟨.ok (some p), after, []⟩
  | (.error fault, after) =>
    match fault.ofSystem? with
    | some error => ⟨.ok none, after, [failureRecord error]⟩
    | none => ⟨.error fault, after, []⟩

end Rendering

def writeTo (r : Report) (p : Path) : ExceptT WriteFault (StateM Workspace) Unit :=
  r.rendering.writeTo p

def save (r : Report) (target : ReportTarget) (directory : Path) (now : Moment) (w : Workspace) :
    Saved :=
  r.rendering.save target directory now w

end Report
end BemLint
