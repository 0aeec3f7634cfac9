import BemLint.Discovery
import BemLint.Lint
import BemLint.Log
import BemLint.Settings.Basic
import BemLint.Workspace.Resolve

/-!
# Auditing files

Linting files one after another. A file that cannot be read or linted is a failure of its own and
does not keep the others from being linted.
-/
namespace BemLint

inductive AuditFault where
  | file (error : FileError)
  | pattern (fault : PatternFault)
deriving DecidableEq, Repr

def AuditFault.message : AuditFault → Text
  | .file error => error.message
  | .pattern fault => fault.message

structure AuditFailure where
  path : Path
  fault : AuditFault
deriving DecidableEq, Repr

/-- What is told while files are audited: a record of the log, or that a file is done with. -/
inductive AuditEvent where
  | logged (record : LogRecord)
  | done (file : Path)
deriving DecidableEq, Repr

namespace AuditEvent

/-- The record of the log that is told. -/
def record? : AuditEvent → Option LogRecord
  | .logged record => some record
  | .done _ => none

/-- The file that is told to be done with. -/
def done? : AuditEvent → Option Path
  | .logged _ => none
  | .done file => some file

end AuditEvent

/-- What an audit comes to: the files it was about, one report for those that could be linted, the
others, and what was told on the way. -/
structure Audit where
  files : List Path
  report : Report
  failures : List AuditFailure
  events : List AuditEvent
deriving DecidableEq, Repr

namespace Audit

/-- The text of a source file: ill-formed bytes are replaced and line ends are line feeds. -/
def readSource (w : Workspace) (p : Path) : Except FileError Text := do
  return Text.unifyNewlines (Text.Utf8.decodeLossy (← w.readBytes p))

def lintFile (table : CharacterNames) (w : Workspace) (patterns : List Text) (root p : Path) :
    Except AuditFault Report :=
  match readSource w p with
  | .error error => .error (.file error)
  | .ok source =>
    match Lint.analyze table source (w.displayPath p root) patterns with
    | .error fault => .error (.pattern fault)
    | .ok report => .ok report

def failureRecord (f : AuditFailure) : LogRecord :=
  ⟨.error, .audit, "failed to read/process ".toList ++ f.path.text ++ ": ".toList ++
    f.fault.message⟩

def countsRecord (report : Report) (failures : List AuditFailure) : LogRecord :=
  ⟨.debug, .audit, "linted ".toList ++ report.fileCount.text ++ " file(s): ".toList ++
    report.violationCount.text ++ " violation(s), ".toList ++ Text.ofNat failures.length ++
    " failure(s)".toList⟩

/-- An audit on its way: what it has so far, each in the order of the files. -/
structure Progress where
  reports : List Report := []
  failures : List AuditFailure := []
  events : List AuditEvent := []
deriving DecidableEq, Repr

namespace Progress

def keep (s : Progress) (report : Report) : Progress :=
  { s with reports := s.reports ++ [report] }

def fail (s : Progress) (failure : AuditFailure) : Progress :=
  { s with
    failures := s.failures ++ [failure]
    events := s.events ++ [.logged (failureRecord failure)] }

def finish (s : Progress) (p : Path) : Progress := { s with events := s.events ++ [.done p] }

end Progress

/-- Go on with one more file. It is done with in either case. -/
def next (table : CharacterNames) (w : Workspace) (patterns : List Text) (root : Path)
    (s : Progress) (p : Path) : Progress :=
  match lintFile table w patterns root p with
  | .ok report => (s.keep report).finish p
  | .error fault => (s.fail ⟨p, fault⟩).finish p

def run (table : CharacterNames) (w : Workspace) (patterns : List Text) (root : Path)
    (s : Progress) (files : List Path) : Progress :=
  files.foldl (next table w patterns root) s

def ofFiles (table : CharacterNames) (w : Workspace) (patterns : List Text) (root : Path)
    (files : List Path) : Audit :=
  let s := run table w patterns root {} files
  let report := Report.merge s.reports
  ⟨files, report, s.failures, s.events ++ [.logged (countsRecord report s.failures)]⟩

/-- Audit the files that a path means, as deep as a walk can go. -/
def ofPath (table : CharacterNames) (w : Workspace) (settings : Settings) (root p : Path)
    (depth : Nat) : Except Discovery.Fault Audit := do
  let found ← Discovery.files w ⟨settings.extensions, settings.excludedDirectories⟩ p depth
  return ofFiles table w settings.ignoreList root found

def records (a : Audit) : List LogRecord := a.events.filterMap AuditEvent.record?

def doneFiles (a : Audit) : List Path := a.events.filterMap AuditEvent.done?

def discoveryRecord (a : Audit) (p : Path) : LogRecord :=
  ⟨.debug, .audit, "discovered ".toList ++ Text.ofNat a.files.length ++
    " candidate file(s) under ".toList ++ p.text⟩

end Audit
end BemLint
