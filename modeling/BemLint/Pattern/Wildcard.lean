import BemLint.Pattern.Matcher

/-!
# Wildcard patterns

A pattern in which a star stands for any characters of a line and every other character for
itself. It has a source text as a pattern expression, and the expression itself is built directly
from the pieces between the stars.
-/
namespace BemLint.Pattern.Wildcard

/-- The characters that get a backslash in the source text of a wildcard pattern. -/
def special : List Char :=
  [' ', '\t', '\n', '\r', Char.ofNat 11, Char.ofNat 12, '(', ')', '[', ']', '{', '}', '?', '*', '+',
    '-', '|', '^', '$', '\\', '.', '&', '~', '#']

/-- A literal piece as the source text of an expression. -/
def escape (s : Text) : Text := s.flatMap fun c => if special.contains c then ['\\', c] else [c]

def source (pattern : Text) : Text :=
  Text.join ['.', '*'] ((Text.splitAt '*' pattern).map escape)

/-- The expression that matches exactly a text. -/
def literal : Text → Expr
  | [] => .empty
  | c :: rest => .seq (.char (.literal c.toNat false) .plain) (literal rest)

/-- Any characters but line feeds. -/
def anything : Expr := .repeat .greedy 0 none (.char .any .plain)

/-- The expression for pieces with a star between each two. -/
def ofPieces : List Text → Expr
  | [] => .empty
  | [piece] => literal piece
  | piece :: pieces => .seq (literal piece) (.seq anything (ofPieces pieces))

def expr (pattern : Text) : Expr := ofPieces (Text.splitAt '*' pattern)

end BemLint.Pattern.Wildcard
