import BemLint.Rule.Basic

/-!
# Violations

What a rule finds in a class name, with the place of the name, and the numbers of a report.
-/
namespace BemLint

/-- A number of a report. Reports from elsewhere may give a truth value for it, which counts as
one or nought and is written again as it came. -/
inductive Tally where
  | int (value : Int)
  | flag (value : Bool)
deriving DecidableEq, Repr, Inhabited

namespace Tally

def value : Tally → Int
  | .int n => n
  | .flag true => 1
  | .flag false => 0

/-- The number in running text, of any length. -/
def text : Tally → Text
  | .int n => Text.ofInt n
  | .flag true => "True".toList
  | .flag false => "False".toList

def ofNat (n : Nat) : Tally := .int n

end Tally

/-- A breach of a rule: the class name as it stands, a better one, and the place of the name. -/
structure Violation where
  rule : Rule
  message : Text
  original : Text
  suggestion : Text
  line : Tally := .int 1
  column : Tally := .int 1
deriving DecidableEq, Repr

end BemLint
