import BemLint.Text.CharClass

/-!
# Quoted text

A text between quotes, as error messages show a value that came from outside. The quotes are
single ones unless the text has single but no double quotes. A backslash and the quote in use
are written after a backslash, and so is whatever cannot be printed: by a letter for tab, line
feed and carriage return, and by its code point for the rest.
-/
namespace BemLint.Text

def hexDigit (n : Nat) : Char := if n < 10 then Char.ofNat (48 + n) else Char.ofNat (87 + n)

/-- A number in exactly `width` hexadecimal digits. -/
def hexDigits : (width : Nat) → Nat → Text
  | 0, _ => []
  | width + 1, n => hexDigits width (n / 16) ++ [hexDigit (n % 16)]

/-- A code point written with the shortest of the three escapes that can hold it. -/
def escapeCode (n : Nat) : Text :=
  if n < 0x100 then ['\\', 'x'] ++ hexDigits 2 n
  else if n < 0x10000 then ['\\', 'u'] ++ hexDigits 4 n
  else ['\\', 'U'] ++ hexDigits 8 n

def quoteChar (quote c : Char) : Text :=
  if c = quote || c = '\\' then ['\\', c]
  else if c = '\t' then ['\\', 't']
  else if c = '\n' then ['\\', 'n']
  else if c = '\r' then ['\\', 'r']
  else if isPrintable c then [c]
  else escapeCode c.toNat

/-- The quote to put around a text. -/
def quoteFor (s : Text) : Char :=
  if s.any (· == '\'') && !s.any (· == '"') then '"' else '\''

def quoted (s : Text) : Text :=
  let quote := quoteFor s
  quote :: s.flatMap (quoteChar quote) ++ [quote]

end BemLint.Text
