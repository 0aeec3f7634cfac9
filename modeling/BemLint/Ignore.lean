import BemLint.Pattern.Parser
import BemLint.Pattern.Wildcard

/-!
# Ignore lists

The class names that the linter leaves alone. A pattern is an expression if it reads as one and a
wildcard pattern otherwise, and matches anywhere in a name. State classes and the classes of two
widget libraries are always ignored.
-/
namespace BemLint

/-- A pattern ready for matching, with its source text as an expression. -/
structure IgnorePattern where
  source : Text
  expr : Pattern.Expr
deriving Repr

/-- Why a pattern can be used neither as an expression nor as a wildcard pattern. -/
inductive PatternFault where
  | longBound (digits : Nat)
  | opposedClasses
deriving DecidableEq, Repr

def PatternFault.message : PatternFault → Text
  | .longBound digits => Decimal.longIntegerMessage digits
  | .opposedClasses => "ASCII and UNICODE flags are incompatible".toList

namespace IgnorePattern

/-- Prepare a pattern, with a table for the characters that it names. -/
def compile (table : CharacterNames) (pattern : Text) : Except PatternFault IgnorePattern :=
  match Pattern.parse table pattern with
  | .ok expr => .ok ⟨pattern, expr⟩
  | .error .malformed => .ok ⟨Pattern.Wildcard.source pattern, Pattern.Wildcard.expr pattern⟩
  | .error (.longBound digits) => .error (.longBound digits)
  | .error .opposedClasses => .error .opposedClasses

def ignores (p : IgnorePattern) (className : Text) : Bool := p.expr.search className

end IgnorePattern

abbrev IgnoreList := List IgnorePattern

namespace IgnoreList

def defaults : List Text :=
  ["^is-".toList, "swiper(?:-|$)".toList, "material-symbols(?:-|$)".toList]

/-- The default patterns and then those of the user. -/
def ofPatterns (table : CharacterNames) (patterns : List Text) :
    Except PatternFault IgnoreList :=
  (defaults ++ patterns).mapM (IgnorePattern.compile table)

def ignores (list : IgnoreList) (className : Text) : Bool :=
  list.any fun p => p.ignores className

end IgnoreList
end BemLint
