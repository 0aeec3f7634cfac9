import BemLint.ClassAttr
import BemLint.Text.Lines

/-!
# Class tokens

The class names of a text: the words of the values of its class attributes, each with the offset
at which it stands. Line and column are derived from the offset.
-/
namespace BemLint

structure ClassToken where
  name : Text
  offset : Nat
deriving DecidableEq, Repr

namespace ClassToken

/-- The given words of an attribute's value as class names. Each is looked for from the end of the
one before it, so that a name that is repeated gets a place of its own; a word that is not found
counts as standing where the search began. -/
def locateFrom (a : ClassAttr) : (cursor : Nat) → List Text → List ClassToken
  | _, [] => []
  | cursor, word :: later =>
    let index := (Text.indexFrom? word a.value cursor).getD cursor
    ⟨word, a.start + index⟩ :: locateFrom a (index + word.length) later

def ofAttr (a : ClassAttr) : List ClassToken := locateFrom a 0 (Text.words a.value)

/-- The class names of a text, in the order in which they stand there. -/
def scan (source : Text) : List ClassToken := (ClassAttr.scan source).flatMap ofAttr

/-- Where a token of a text stands, for a reader. -/
def position (source : Text) (t : ClassToken) : Text.Position := Text.positionAt source t.offset

end ClassToken
end BemLint
