import BemLint.Text.Blank
import BemLint.Text.Case
import BemLint.Text.CharClass

/-!
# Class names

The parts of a class name in the BEM convention. A name begins with its block; two low lines lead
to an element and two hyphens to a modifier. Each part is meant to be in kebab case: words of
lower-case letters and digits with single hyphens between them.
-/
namespace BemLint.ClassName

/-- A lower-case letter or a digit of ASCII. -/
def isKebabChar (c : Char) : Bool := ('a' ≤ c && c ≤ 'z') || ('0' ≤ c && c ≤ '9')

def isCapital (c : Char) : Bool := 'A' ≤ c && c ≤ 'Z'

/-- Kebab case from a point on, where `fresh` says that a word has to begin. -/
def kebabFrom (fresh : Bool) : Text → Bool
  | [] => !fresh
  | c :: rest =>
    if c = '-' then !fresh && kebabFrom true rest else isKebabChar c && kebabFrom false rest

def isKebab (s : Text) : Bool := kebabFrom true s

/-- A text without the line feed it ends with. -/
def dropFinalFeed (s : Text) : Text :=
  match s.reverse with
  | '\n' :: rest => rest.reverse
  | _ => s

/-- The text before the first element or modifier delimiter. -/
def block : Text → Text
  | [] => []
  | [c] => [c]
  | a :: b :: rest => if a = b ∧ (a = '_' ∨ a = '-') then [] else a :: block (b :: rest)

def elementParts (s : Text) : List Text := Text.splitAtPair '_' s

def modifierParts (s : Text) : List Text := Text.splitAtPair '-' s

def hasElement (s : Text) : Bool := 2 ≤ (elementParts s).length

def hasModifier (s : Text) : Bool := 2 ≤ (modifierParts s).length

/-- Put one hyphen for every run of low lines and white space. -/
def hyphenateRuns (inRun : Bool) : Text → Text
  | [] => []
  | c :: rest =>
    if c = '_' || Text.isBlank c then
      if inRun then hyphenateRuns true rest else '-' :: hyphenateRuns true rest
    else c :: hyphenateRuns false rest

/-- Part words where a capital follows a small letter or a digit. The capital becomes small and
does not begin another such place. -/
def partCamel : Text → Text
  | [] => []
  | [c] => [c]
  | a :: b :: rest =>
    if isKebabChar a && isCapital b then a :: '-' :: b.toLower :: partCamel rest
    else a :: partCamel (b :: rest)

/-- A name rewritten towards kebab case: runs of low lines and white space become hyphens, words
in camel case are parted, and everything becomes lower case. -/
def toKebab (s : Text) : Text := Text.toLower (partCamel (hyphenateRuns false s))

end BemLint.ClassName
