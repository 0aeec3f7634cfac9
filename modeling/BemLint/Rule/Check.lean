import BemLint.ClassName
import BemLint.Violation

/-!
# Applying the rules

What each rule has against a class name. A rule looks at the name alone, so the violations found
here stand at the first column of the first line; the caller moves them to their place.
-/
namespace BemLint.Rule

/-- Elements do not nest: of the parts between element delimiters, all from the third on are better
joined to the second with a hyphen. -/
def checkNesting (name : Text) : List Violation :=
  match ClassName.elementParts name with
  | first :: second :: third :: rest =>
    [{ rule := .noElementNesting
       message := ("Nested element detected (`__` appears more than once); flatten sub-elements " ++
         "into one element name.").toList
       original := name
       suggestion := first ++ ['_', '_'] ++ second ++
         (third :: rest).flatMap fun part => '-' :: part }]
  | _ => []

/-- Blocks are in kebab case; a line feed at the very end of the block is overlooked. -/
def checkBlock (name : Text) : List Violation :=
  let block := ClassName.block name
  if ClassName.isKebab (ClassName.dropFinalFeed block) then []
  else
    [{ rule := .blockName
       message := "Block name should be kebab-case (e.g. `profile-card`).".toList
       original := name
       suggestion := ClassName.toKebab block }]

/-- Whether a name begins with a lower-case letter and has at least three parts between
hyphens. -/
def isHyphenChain (name : Text) : Bool :=
  2 ≤ name.count '-' && match name with
    | [] => false
    | c :: _ => 'a' ≤ c && c ≤ 'z'

/-- The finding that a name joins its element with a hyphen. -/
def hyphenElement (name : Text) : Violation where
  rule := .elementDelimiter
  message := "Elements should be joined with `__`; avoid the `block-element` form.".toList
  original := name
  suggestion := Text.replaceFirst '-' ['_', '_'] name

/-- The finding that a name joins its element with one low line. -/
def lowLineElement (name : Text) : Violation where
  rule := .elementDelimiter
  message := "Elements should be joined with `__`, not a single `_`.".toList
  original := name
  suggestion := Text.replaceChar '_' ['_', '_'] name

/-- Elements are joined with two low lines. A name that has a delimiter already is left alone. -/
def checkElement (name : Text) : List Violation :=
  if ClassName.hasElement name || ClassName.hasModifier name then []
  else
    (if isHyphenChain name then [hyphenElement name] else []) ++
      (if name.any (· = '_') then [lowLineElement name] else [])

def unbroken (s : Text) : Text := s.takeWhile fun c => c ≠ '-' && !Text.isBlank c

/-- Whether a text has a low line between its first and its last character. -/
def hasInnerLowLine (s : Text) : Bool := (s.drop 1).dropLast.any (· = '_')

/-- Whether the unbroken text after some element delimiter has a low line inside. Every place of
two low lines counts, also one that overlaps another. -/
def hasLowLineModifier : Text → Bool
  | a :: b :: rest =>
    (a = '_' && b = '_' && hasInnerLowLine (unbroken rest)) || hasLowLineModifier (b :: rest)
  | _ => false

/-- Put two hyphens for the last low line, unless it ends the name. -/
def hyphenateLastLowLine (name : Text) : Text :=
  let last := name.reverse.takeWhile (· ≠ '_')
  match last, name.reverse.dropWhile (· ≠ '_') with
  | _ :: _, _ :: before => before.reverse ++ ['-', '-'] ++ last.reverse
  | _, _ => name

/-- Whether a name is two words in kebab case; a line feed at its very end is overlooked. -/
def isTwoPartKebab (name : Text) : Bool :=
  match Text.splitAt '-' (ClassName.dropFinalFeed name) with
  | [left, right] =>
    !left.isEmpty && !right.isEmpty && left.all ClassName.isKebabChar &&
      right.all ClassName.isKebabChar
  | _ => false

def lowLineModifier (name : Text) : Violation where
  rule := .modifierDelimiter
  message := "Modifiers should be joined with `--`; an `_` modifier was found.".toList
  original := name
  suggestion := hyphenateLastLowLine name

def hyphenModifier (name : Text) : Violation where
  rule := .modifierDelimiter
  message := "Modifiers should use `--` (e.g. `block--modifier`).".toList
  original := name
  suggestion := Text.replaceFirst '-' ['-', '-'] name

/-- Modifiers are joined with two hyphens. -/
def checkModifier (name : Text) : List Violation :=
  (if hasLowLineModifier name then [lowLineModifier name] else []) ++
    (if isTwoPartKebab name then [hyphenModifier name] else [])

/-- The better form of a name with nothing on one side of its first modifier delimiter. -/
def modifierForm (left right : Text) : Text :=
  if !left.isEmpty && right.isEmpty then left ++ "--modifier".toList
  else "block--modifier".toList

/-- There is something on both sides of the first modifier delimiter, the right side reaching to
the next one. -/
def checkModifierFormat (name : Text) : List Violation :=
  match ClassName.modifierParts name with
  | left :: right :: _ =>
    if !left.isEmpty && !right.isEmpty then []
    else
      [{ rule := .modifierFormat
         message :=
           "Malformed modifier; use `block--modifier` or `block__element--modifier`.".toList
         original := name
         suggestion := modifierForm left right }]
  | _ => []

def check : Rule → Text → List Violation
  | .noElementNesting => checkNesting
  | .blockName => checkBlock
  | .elementDelimiter => checkElement
  | .modifierDelimiter => checkModifier
  | .modifierFormat => checkModifierFormat

/-- What all rules have against a class name, rule after rule. -/
def checkAll (name : Text) : List Violation := all.flatMap fun rule => rule.check name

end BemLint.Rule
