import BemLint.Json.Value

/-!
# Writing JSON

A JSON text with one item or field a line, each level two spaces further in. Characters beyond
ASCII stand as they are, or as escapes where a text has to be ASCII.
-/
namespace BemLint.Json

/-- Which characters a string may hold as they are. -/
inductive Charset where
  | unicode
  | ascii
deriving DecidableEq, Repr

/-- An escape of one unit of sixteen bits. -/
def unitEscape (unit : Nat) : Text := ['\\', 'u'] ++ Text.hexDigits 4 unit

def writeChar (charset : Charset) (c : Char) : Text :=
  let n := c.toNat
  if c = '"' then ['\\', '"']
  else if c = '\\' then ['\\', '\\']
  else if c = '\n' then ['\\', 'n']
  else if c = '\r' then ['\\', 'r']
  else if c = '\t' then ['\\', 't']
  else if n = 8 then ['\\', 'b']
  else if n = 12 then ['\\', 'f']
  else if n < 0x20 then unitEscape n
  else match charset with
    | .unicode => [c]
    | .ascii =>
      if n < 0x7F then [c]
      else if n < 0x10000 then unitEscape n
      else
        unitEscape (0xD800 + (n - 0x10000) / 0x400) ++ unitEscape (0xDC00 + (n - 0x10000) % 0x400)

def writeString (charset : Charset) (s : Text) : Text :=
  '"' :: s.flatMap (writeChar charset) ++ ['"']

/-- A new line at a level. -/
def newline (level : Nat) : Text := '\n' :: List.replicate (2 * level) ' '

/-- A number of JSON, with the names of the three that it cannot write. -/
def writeFloat : Decimal.Binary64 → Text
  | .nan => "NaN".toList
  | .infinity false => "Infinity".toList
  | .infinity true => "-Infinity".toList
  | x => x.text

mutual

def write (charset : Charset) (level : Nat) : Json → Text
  | .null => "null".toList
  | .bool true => "true".toList
  | .bool false => "false".toList
  | .int n => Text.ofInt n
  | .float x => writeFloat x
  | .str s => writeString charset s
  | .arr [] => ['[', ']']
  | .arr (item :: items) =>
    '[' :: newline (level + 1) ++ write charset (level + 1) item ++
      writeItems charset (level + 1) items ++ newline level ++ [']']
  | .obj [] => ['{', '}']
  | .obj ((name, value) :: fields) =>
    '{' :: newline (level + 1) ++ writeString charset name ++ [':', ' '] ++
      write charset (level + 1) value ++ writeFields charset (level + 1) fields ++
      newline level ++ ['}']

/-- The items after the first, each after a comma on a line of its own. -/
def writeItems (charset : Charset) (level : Nat) : List Json → Text
  | [] => []
  | item :: items =>
    ',' :: newline level ++ write charset level item ++ writeItems charset level items

def writeFields (charset : Charset) (level : Nat) : List (Text × Json) → Text
  | [] => []
  | (name, value) :: fields =>
    ',' :: newline level ++ writeString charset name ++ [':', ' '] ++ write charset level value ++
      writeFields charset level fields

end

def pretty (charset : Charset) (value : Json) : Text := write charset 0 value

end BemLint.Json
