import BemLint.Text.Blank
import BemLint.Text.Case

/-!
# Rules

The five rules for class names, in the order in which they are applied, with the texts that
describe them. A rule is known by its full name or by the part of it before the first low line.
-/
namespace BemLint

inductive Rule where
  | noElementNesting
  | blockName
  | elementDelimiter
  | modifierDelimiter
  | modifierFormat
deriving DecidableEq, Repr

namespace Rule

/-- The rules in the order of their application, which is also the order of what they find. -/
def all : List Rule :=
  [.noElementNesting, .blockName, .elementDelimiter, .modifierDelimiter, .modifierFormat]

def id : Rule → Text
  | .noElementNesting => "R4_NO_ELEMENT_NESTING".toList
  | .blockName => "R1_CHECK_BLOCK".toList
  | .elementDelimiter => "R2_CHECK_ELEMENT".toList
  | .modifierDelimiter => "R3_CHECK_MODIFIER".toList
  | .modifierFormat => "R5_MODIFIER_FORMAT".toList

def shortId (rule : Rule) : Text := rule.id.takeWhile (· ≠ '_')

def title : Rule → Text
  | .noElementNesting => "No element nesting".toList
  | .blockName => "Block name is kebab-case".toList
  | .elementDelimiter => "Element delimiter is `__`".toList
  | .modifierDelimiter => "Modifier delimiter is `--`".toList
  | .modifierFormat => "Modifier format".toList

def description : Rule → Text
  | .noElementNesting =>
    "BEM elements belong to a block, never to another element (`block__elem__sub`).".toList
  | .blockName =>
    "The block segment (before the first `__` or `--`) must be lowercase kebab-case.".toList
  | .elementDelimiter =>
    "Elements are joined to their block with `__`, not with `-` or a single `_`.".toList
  | .modifierDelimiter =>
    "Modifiers are joined with `--`, not with `_` or a single `-`.".toList
  | .modifierFormat =>
    "Both sides of `--` must be non-empty: `block--modifier` or `block__element--modifier`.".toList

/-- The rule with exactly that full name. -/
def ofId? (name : Text) : Option Rule := all.find? fun rule => rule.id = name

/-- The rule that a reader's name for it means: white space around it and letter case do not
matter, and the short name will do. -/
def find? (name : Text) : Option Rule :=
  let canonical := (Text.trim name).flatMap Text.upperAscii
  all.find? fun rule => canonical = rule.id || canonical = rule.shortId

end Rule
end BemLint
