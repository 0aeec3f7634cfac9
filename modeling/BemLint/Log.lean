import BemLint.Text.Basic

/-!
# Log records

What the linter tells about its own work: records of four levels from four sources. The command
line shows those from a level on, one a line, in a short or in a long layout.
-/
namespace BemLint

inductive LogLevel where
  | debug
  | info
  | warning
  | error
deriving DecidableEq, Repr

inductive LogSource where
  | config
  | audit
  | cli
  | writer
deriving DecidableEq, Repr

structure LogRecord where
  level : LogLevel
  source : LogSource
  message : Text
deriving DecidableEq, Repr

namespace LogLevel

def name : LogLevel → Text
  | .debug => "DEBUG".toList
  | .info => "INFO".toList
  | .warning => "WARNING".toList
  | .error => "ERROR".toList

def rank : LogLevel → Nat
  | .debug => 10
  | .info => 20
  | .warning => 30
  | .error => 40

/-- The least level that is shown. A wish for more outweighs one for less. -/
def threshold (verbose quiet : Bool) : LogLevel :=
  if verbose then .debug else if quiet then .warning else .info

end LogLevel

def LogSource.name : LogSource → Text
  | .config => "bem_checker.config".toList
  | .audit => "bem_checker.audit".toList
  | .cli => "bem_checker.cli".toList
  | .writer => "bem_checker.reporters.writer".toList

/-- A part of a log line: fixed text or something of the record. -/
inductive LogPart where
  | text (s : Text)
  | level
  | source
  | message
deriving DecidableEq, Repr

namespace LogPart

def fill (r : LogRecord) : LogPart → Text
  | .text s => s
  | .level => r.level.name
  | .source => r.source.name
  | .message => r.message

end LogPart

namespace LogRecord

/-- The parts of a log line; the long layout adds the level and the source. -/
def layout (verbose : Bool) : List LogPart :=
  if verbose then
    [.text "bem-checker [".toList, .level, .text "] ".toList, .source, .text ": ".toList, .message]
  else [.text "bem-checker: ".toList, .message]

/-- The line for a record, with its end. -/
def line (verbose : Bool) (r : LogRecord) : Text :=
  (layout verbose).flatMap (LogPart.fill r) ++ ['\n']

def isShown (threshold : LogLevel) (r : LogRecord) : Bool := threshold.rank ≤ r.level.rank

end LogRecord

def logText (verbose quiet : Bool) (records : List LogRecord) : Text :=
  (records.filter (·.isShown (LogLevel.threshold verbose quiet))).flatMap (·.line verbose)

end BemLint
