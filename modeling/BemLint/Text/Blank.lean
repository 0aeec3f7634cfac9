import BemLint.Text.Basic

/-!
# White space

The white-space characters of the linter, and the words of a text between them. The class is
that of the Unicode property of the name together with the four information separators; the
zero-width space and the byte order mark do not belong to it.
-/
namespace BemLint.Text

/-- Tab to carriage return, the information separators, and every Unicode space and line or
paragraph separator. -/
def isBlank (c : Char) : Bool :=
  let n := c.toNat
  (9 ≤ n && n ≤ 13) || (28 ≤ n && n ≤ 32) || n == 0x85 || n == 0xA0 || n == 0x1680 ||
    (0x2000 ≤ n && n ≤ 0x200A) || n == 0x2028 || n == 0x2029 || n == 0x202F || n == 0x205F ||
    n == 0x3000

def trimStart (s : Text) : Text := s.dropWhile isBlank

def trimEnd (s : Text) : Text := (s.reverse.dropWhile isBlank).reverse

def trim (s : Text) : Text := trimEnd (trimStart s)

/-- Whether a word ends before a text: the text is empty or begins with white space. -/
def endsWord : Text → Bool
  | [] => true
  | c :: _ => isBlank c

/-- The words of a text in order: its maximal runs of characters without white space. -/
def words : Text → List Text
  | [] => []
  | c :: rest =>
    if isBlank c then words rest
    else if endsWord rest then [c] :: words rest
    else consHead c (words rest)

end BemLint.Text
