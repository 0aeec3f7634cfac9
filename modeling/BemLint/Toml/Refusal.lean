import BemLint.Decimal.Limit
import BemLint.Text.Cursor
import BemLint.Text.Lines
import BemLint.Toml.Value

/-!
# Refusals of TOML

Why a text is not read as TOML, with the wording of every reason and of the place it is found at.
-/
namespace BemLint.Toml
open Text (Cursor)

inductive Fault where
  | badStatement
  | noLineEnd
  | noEquals
  | openTableHeader
  | openListHeader
  | badKeyStart
  | badValue
  | openArray
  | openInlineTable
  | declaredTwice (key : Key)
  | reopened (key : Key)
  | sealed (key : Key)
  | repeatedField (name : Text)
  | overwritten
  | invalidChar (c : Char)
  | illegalChar (c : Char)
  | noDelimiter (delimiter : Text)
  | openString
  | badEscape
  | badHex
  | noScalarValue
  | badMoment
deriving DecidableEq, Repr

def Fault.message : Fault → Text
  | .badStatement => "Invalid statement".toList
  | .noLineEnd => "Expected newline or end of document after a statement".toList
  | .noEquals => "Expected '=' after a key in a key/value pair".toList
  | .openTableHeader => "Expected ']' at the end of a table declaration".toList
  | .openListHeader => "Expected ']]' at the end of an array declaration".toList
  | .badKeyStart => "Invalid initial character for a key part".toList
  | .badValue => "Invalid value".toList
  | .openArray => "Unclosed array".toList
  | .openInlineTable => "Unclosed inline table".toList
  | .declaredTwice key => "Cannot declare ".toList ++ keyText key ++ " twice".toList
  | .reopened key => "Cannot redefine namespace ".toList ++ keyText key
  | .sealed key => "Cannot mutate immutable namespace ".toList ++ keyText key
  | .repeatedField name => "Duplicate inline table key ".toList ++ Text.quoted name
  | .overwritten => "Cannot overwrite a value".toList
  | .invalidChar c => "Found invalid character ".toList ++ Text.quoted [c]
  | .illegalChar c => "Illegal character ".toList ++ Text.quoted [c]
  | .noDelimiter delimiter => "Expected ".toList ++ Text.quoted delimiter
  | .openString => "Unterminated string".toList
  | .badEscape => "Unescaped '\\' in a string".toList
  | .badHex => "Invalid hex value".toList
  | .noScalarValue => "Escaped character is not a Unicode scalar value".toList
  | .badMoment => "Invalid date or datetime".toList

/-- Why a text is not read: it is no TOML from some offset on, an integer has more digits than the
limit allows, or values are nested too deeply. -/
inductive Refusal where
  | malformed (fault : Fault) (offset : Nat)
  | longInteger (digits : Nat)
  | tooDeep
deriving DecidableEq, Repr

def placeText (source : Text) (offset : Nat) : Text :=
  if source.length ≤ offset then "end of document".toList
  else
    let place := Text.positionAt source offset
    "line ".toList ++ Text.ofInt place.line ++ ", column ".toList ++ Text.ofInt place.column

def Refusal.message (source : Text) : Refusal → Text
  | .malformed fault offset =>
    fault.message ++ " (at ".toList ++ placeText source offset ++ [')']
  | .longInteger digits => Decimal.longIntegerMessage digits
  | .tooDeep => "maximum recursion depth exceeded".toList

def refuse {α : Type} (c : Cursor) (fault : Fault) : Except Refusal α :=
  .error (.malformed fault c.offset)

end BemLint.Toml
