import BemLint.Text.Basic

/-!
# Characters by name

A pattern can name a character in braces. The Unicode standard names tens of thousands, so a reader
of patterns is given a table of names. The one here holds the printable ASCII characters.
-/
namespace BemLint

/-- The character that a name stands for. A name of several characters stands for none. -/
abbrev CharacterNames := Text → Option Char

namespace CharacterNames

def letterNames (case : String) : List Text :=
  "ABCDEFGHIJKLMNOPQRSTUVWXYZ".toList.map fun c =>
    "LATIN ".toList ++ case.toList ++ " LETTER ".toList ++ [c]

/-- The names of the printable ASCII characters in the order of their codes, from the blank on. -/
def printable : List Text :=
  ["SPACE", "EXCLAMATION MARK", "QUOTATION MARK", "NUMBER SIGN", "DOLLAR SIGN", "PERCENT SIGN",
    "AMPERSAND", "APOSTROPHE", "LEFT PARENTHESIS", "RIGHT PARENTHESIS", "ASTERISK", "PLUS SIGN",
    "COMMA", "HYPHEN-MINUS", "FULL STOP", "SOLIDUS", "DIGIT ZERO", "DIGIT ONE", "DIGIT TWO",
    "DIGIT THREE", "DIGIT FOUR", "DIGIT FIVE", "DIGIT SIX", "DIGIT SEVEN", "DIGIT EIGHT",
    "DIGIT NINE", "COLON", "SEMICOLON", "LESS-THAN SIGN", "EQUALS SIGN", "GREATER-THAN SIGN",
    "QUESTION MARK", "COMMERCIAL AT"].map String.toList ++
  letterNames "CAPITAL" ++
  ["LEFT SQUARE BRACKET", "REVERSE SOLIDUS", "RIGHT SQUARE BRACKET", "CIRCUMFLEX ACCENT",
    "LOW LINE", "GRAVE ACCENT"].map String.toList ++
  letterNames "SMALL" ++
  ["LEFT CURLY BRACKET", "VERTICAL LINE", "RIGHT CURLY BRACKET", "TILDE"].map String.toList

/-- The printable ASCII characters by their names, in capital or small letters. -/
def ascii : CharacterNames := fun name =>
  (printable.idxOf? (name.map Char.toUpper)).map fun i => Char.ofNat (' '.toNat + i)

end CharacterNames
end BemLint
