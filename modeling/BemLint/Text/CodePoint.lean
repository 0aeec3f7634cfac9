import BemLint.Text.Quoted
import BemLint.Text.Utf8

/-!
# Code points

What a text of another origin is made of: characters, and the surrogates that no `Text` can hold.
A surrogate comes in with the name of a file whose bytes are not UTF-8, for instance. It has no
bytes of its own, so that encoding stops at the first run of surrogates.
-/
namespace BemLint.Text

inductive CodePoint where
  | char (c : Char)
  /-- The code point that many places behind U+D800. -/
  | surrogate (index : Fin 2048)
deriving DecidableEq, Repr

namespace CodePoint

def isSurrogate : CodePoint → Bool
  | .char _ => false
  | .surrogate _ => true

def char? : CodePoint → Option Char
  | .char c => some c
  | .surrogate _ => none

end CodePoint

namespace Utf8

/-- A run of surrogates: where it begins, which one is first, and how many come behind that. -/
structure Unencodable where
  position : Nat
  first : Fin 2048
  further : Nat
deriving DecidableEq, Repr

def Unencodable.message (run : Unencodable) : Text :=
  let what :=
    if run.further = 0 then
      "character '\\u".toList ++ hexDigits 4 (0xD800 + run.first) ++ "' in position ".toList ++
        ofNat run.position
    else
      "characters in position ".toList ++ ofNat run.position ++ ['-'] ++
        ofNat (run.position + run.further)
  "'utf-8' codec can't encode ".toList ++ what ++ ": surrogates not allowed".toList

/-- The bytes of code points, or the first run that has none. -/
def encodePoints (s : List CodePoint) : Except Unencodable (List UInt8) :=
  match s.dropWhile (!·.isSurrogate) with
  | .surrogate first :: rest =>
    .error ⟨(s.takeWhile (!·.isSurrogate)).length, first, (rest.takeWhile (·.isSurrogate)).length⟩
  | _ => .ok (encode (s.filterMap (·.char?)))

end Utf8
end BemLint.Text
