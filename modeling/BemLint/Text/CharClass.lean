import BemLint.Text.Blank
import BemLint.Text.Table.Digit
import BemLint.Text.Table.Identifier
import BemLint.Text.Table.Printable
import BemLint.Text.Table.Word

/-!
# Classes of characters

Letters and digits, decimal digits, printable characters and identifiers, each decided directly
for ASCII and by the table of its Unicode property elsewhere.
-/
namespace BemLint.Text
open Table

def isAsciiDigit (c : Char) : Bool := '0' ≤ c && c ≤ '9'

def isHexDigit (c : Char) : Bool :=
  isAsciiDigit c || ('a' ≤ c && c ≤ 'f') || ('A' ≤ c && c ≤ 'F')

/-- The value of a hexadecimal digit, zero for any other character. -/
def hexValue (c : Char) : Nat :=
  if isAsciiDigit c then c.toNat - 48
  else if 'a' ≤ c && c ≤ 'f' then c.toNat - 87
  else if 'A' ≤ c && c ≤ 'F' then c.toNat - 55
  else 0

/-- The value of digits in a base, the most significant first. -/
def digitsValue (base : Nat) (digits : Text) : Nat :=
  digits.foldl (fun value c => value * base + hexValue c) 0

def decimalValue (digits : Text) : Nat := digitsValue 10 digits

def isDigit (c : Char) : Bool := inside decimal c.toNat

/-- The value of a decimal digit of any script; the digits of a script begin on the first of a
run of tens. -/
def digitOf (c : Char) : Nat := (c.toNat - runStartFrom 0 c.toNat decimal) % 10

/-- A letter, a numeral or the low line. -/
def isWordChar (c : Char) : Bool := c == '_' || inside alphanumeric c.toNat

def isAsciiWordChar (c : Char) : Bool :=
  c == '_' || isAsciiDigit c || ('a' ≤ c && c ≤ 'z') || ('A' ≤ c && c ≤ 'Z')

/-- A printable character; the ordinary space is one, every other space is not. -/
def isPrintable (c : Char) : Bool := inside printable c.toNat

/-- Whether a text is an identifier of Unicode: a first character and continuing ones. -/
def isIdentifier : Text → Bool
  | [] => false
  | c :: rest => inside identifierStart c.toNat && rest.all fun d => inside identifierPart d.toNat

end BemLint.Text
