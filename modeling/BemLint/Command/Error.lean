import BemLint.Discovery
import BemLint.Ignore
import BemLint.Report.File
import BemLint.Settings.Load
import BemLint.Terminal.Markup
import BemLint.Workspace.Resolve

/-!
# Errors of a command line

Why a command line is not understood or a run is broken off, with the wording of each reason.
-/
namespace BemLint

inductive UsageError where
  | unknownOption (name : Text)
  | missingValue (option : Text)
  | needlessValue (option : Text)
  | missingArgument (name : Text)
  | extraArguments (arguments : List Text)
  | missingCommand
  | unknownCommand (name : Text)
  | loudAndQuiet
  | badFormat (known : List Text)
  | unknownRule (name : Text)
  | noDirectory (option path : Text)
  | notADirectory (option path : Text)
deriving DecidableEq, Repr

namespace UsageError

/-- The wording for a value that an option does not take. -/
def directoryText (option path : Text) (what : String) : Text :=
  "Invalid value for '".toList ++ option ++ "': Directory ".toList ++ Text.quoted path ++ [' '] ++
    what.toList

def message : UsageError → Text
  | .unknownOption name => "No such option: ".toList ++ name
  | .missingValue option =>
    "Option ".toList ++ Text.quoted option ++ " requires an argument.".toList
  | .needlessValue option =>
    "Option ".toList ++ Text.quoted option ++ " does not take a value.".toList
  | .missingArgument name => "Missing argument '".toList ++ name ++ "'.".toList
  | .extraArguments [argument] =>
    "Got unexpected extra argument (".toList ++ argument ++ [')']
  | .extraArguments arguments =>
    "Got unexpected extra arguments (".toList ++ Text.join [' '] arguments ++ [')']
  | .missingCommand => "Missing command.".toList
  | .unknownCommand name => "No such command ".toList ++ Text.quoted name ++ ['.']
  | .loudAndQuiet => "Invalid value: Choose at most one: --verbose or --quiet.".toList
  | .badFormat known =>
    "Invalid value: Unsupported format. Use: ".toList ++ Text.join [',', ' '] known ++ ['.']
  | .unknownRule name =>
    "Invalid value: Unknown rule id: ".toList ++ Text.quoted name ++
      ". Use `bem-checker rules` to list available rules.".toList
  | .noDirectory option path => directoryText option path "does not exist."
  | .notADirectory option path => directoryText option path "is a file."

end UsageError

inductive CommandError where
  | usage (error : UsageError)
  | load (fault : LoadFault)
  | pattern (fault : PatternFault)
  | file (error : FileError)
  | discovery (fault : Discovery.Fault)
  | report (fault : Report.WriteFault)
  | resolve (fault : ResolveFault)
  | markup (fault : Terminal.MarkupFault)
deriving Repr

def CommandError.message : CommandError → Text
  | .usage error => error.message
  | .load fault => fault.message
  | .pattern fault => fault.message
  | .file error => error.message
  | .discovery fault => fault.message
  | .report fault => fault.message
  | .resolve fault => fault.message
  | .markup fault => fault.message

end BemLint
