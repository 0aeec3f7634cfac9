import BemLint.Report

/-!
# Workflow commands

A report as the commands that make a hosted build show a warning beside a line of code: one
command a line, with the place as properties and a message after the second pair of colons.
-/
namespace BemLint.Report

/-- One character of a message; the percent sign and the two line ends have escapes. -/
def escapeChar (c : Char) : Text :=
  if c = '%' then "%25".toList
  else if c = '\r' then "%0D".toList
  else if c = '\n' then "%0A".toList
  else [c]

def escapeMessage (s : Text) : Text := s.flatMap escapeChar

def warningText (v : Violation) : Text :=
  v.rule.id ++ [' '] ++ v.message ++ " (".toList ++ v.original ++ " -> ".toList ++ v.suggestion ++
    [')']

def command (path : Text) (v : Violation) : Text :=
  "::warning file=".toList ++ path ++ ",line=".toList ++ v.line.text ++ ",col=".toList ++
    v.column.text ++ "::".toList ++ escapeMessage (warningText v)

def fileCommands (f : FileReport) : List Text := f.violations.map (command f.path)

/-- A report as commands, without an end to the last line. -/
def commandText (r : Report) : Text := Text.join ['\n'] (r.files.flatMap fileCommands)

end BemLint.Report
