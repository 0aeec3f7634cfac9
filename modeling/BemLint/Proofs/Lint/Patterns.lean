import BemLint.Proofs.Lint.Ignoring
import BemLint.Proofs.Pattern.Refusals
import BemLint.Proofs.Pattern.Translation

/-!
# Linting with any patterns

A malformed pattern never stops the linter: its wildcard translation can always be read, and is used
in its place. Two other refusals do stop it. They have their cause in the text of the pattern, and the
first pattern that is refused so decides the outcome.
-/
namespace BemLint

variable {table : CharacterNames}

namespace IgnorePattern
open Pattern (DigitRun)

/-- What can come of a pattern: an expression, a wildcard pattern whose translation is read as an
expression with the same matches, or a refusal that the text gives cause for. -/
inductive Outcome (table : CharacterNames) (pattern : Text) :
    Except PatternFault IgnorePattern → Prop where
  | expression {e : Pattern.Expr} (read : Pattern.parse table pattern = .ok e) :
      Outcome table pattern (.ok ⟨pattern, e⟩)
  | wildcard {p : IgnorePattern} {e : Pattern.Expr}
      (refused : Pattern.parse table pattern = .error .malformed)
      (translated : p.source = Pattern.Wildcard.source pattern)
      (read : Pattern.parse table p.source = .ok e)
      (same : ∀ name, p.ignores name = e.search name) :
      Outcome table pattern (.ok p)
  | longBound {digits : Nat} (long : Decimal.digitLimit < digits)
      (there : DigitRun digits pattern) : Outcome table pattern (.error (.longBound digits))
  | opposedClasses (asked : ['(', '?'] <:+: pattern) :
      Outcome table pattern (.error .opposedClasses)

theorem compile_outcome (table : CharacterNames) (pattern : Text) :
    Outcome table pattern (compile table pattern) := by
  unfold compile
  cases read : Pattern.parse table pattern with
  | ok e => exact .expression read
  | error refusal =>
    cases refusal with
    | malformed =>
      exact .wildcard read rfl (Pattern.Wildcard.parse_source table pattern) fun name =>
        (Pattern.Wildcard.search_readExpr pattern name).symm
    | longBound digits =>
      obtain ⟨long, there⟩ := Pattern.parse_longBound read
      exact .longBound long there
    | opposedClasses => exact .opposedClasses (Pattern.parse_opposedClasses read)

/-- A text with no more digits in a row than a number may have, and without an extended group. -/
structure Plain (pattern : Text) : Prop where
  digits : ∀ n, DigitRun n pattern → n ≤ Decimal.digitLimit
  groups : ¬['(', '?'] <:+: pattern

theorem Plain.usable {pattern : Text} (plain : Plain pattern) : Usable table pattern := by
  have outcome := compile_outcome table pattern
  unfold Usable
  cases compiled : compile table pattern with
  | ok p => exact ⟨p, rfl⟩
  | error fault =>
    rw [compiled] at outcome
    cases outcome with
    | longBound long there => exact absurd (plain.digits _ there) (Nat.not_le.mpr long)
    | opposedClasses asked => exact absurd asked plain.groups

end IgnorePattern

namespace IgnoreList
open IgnorePattern (Usable)

end IgnoreList

namespace Lint
open IgnorePattern (Usable Plain Outcome)

end Lint
end BemLint
