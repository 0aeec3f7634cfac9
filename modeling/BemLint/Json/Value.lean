import BemLint.Decimal.Shortest
import BemLint.Text.Quoted

/-!
# JSON values

The values of JSON, their text in messages, and access to the fields of an object. An object
keeps its fields in the order of their first appearance, each name once.
-/
namespace BemLint

/-- A JSON value. A numeral with a fraction or an exponent is a double-precision number, any other
an integer of any size. -/
inductive Json where
  | null
  | bool (value : Bool)
  | int (value : Int)
  | float (value : Decimal.Binary64)
  | str (value : Text)
  | arr (items : List Json)
  | obj (fields : List (Text × Json))
deriving Repr, Inhabited

namespace Json

/-- Give a field a value: in the place of the field of that name, else at the end. -/
def setField (name : Text) (value : Json) : List (Text × Json) → List (Text × Json)
  | [] => [(name, value)]
  | (key, old) :: rest =>
    if key = name then (key, value) :: rest else (key, old) :: setField name value rest

def field? (name : Text) : List (Text × Json) → Option Json
  | [] => none
  | (key, value) :: rest => if key = name then some value else field? name rest

mutual

/-- A value as a message shows it. -/
def literal : Json → Text
  | .null => "None".toList
  | .bool true => "True".toList
  | .bool false => "False".toList
  | .int n => Text.ofInt n
  | .float x => x.text
  | .str s => Text.quoted s
  | .arr items => '[' :: Text.join [',', ' '] (literals items) ++ [']']
  | .obj fields => '{' :: Text.join [',', ' '] (fieldLiterals fields) ++ ['}']

def literals : List Json → List Text
  | [] => []
  | item :: items => literal item :: literals items

def fieldLiterals : List (Text × Json) → List Text
  | [] => []
  | (key, value) :: rest => (Text.quoted key ++ [':', ' '] ++ literal value) :: fieldLiterals rest

end

/-- A value put into running text: a string as it is, anything else as messages show it. -/
def display : Json → Text
  | .str s => s
  | value => literal value

end Json
end BemLint
