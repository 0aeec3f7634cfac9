import BemLint.Text.Basic

/-!
# Cursors

The place of a reader in a text: an offset, and the text from there on.
-/
namespace BemLint.Text

structure Cursor where
  offset : Nat
  rest : Text
deriving DecidableEq, Repr

namespace Cursor

def ofText (s : Text) : Cursor := ⟨0, s⟩

def skip (c : Cursor) (count : Nat) : Cursor := ⟨c.offset + count, c.rest.drop count⟩

/-- Move past the characters that satisfy a condition, up to the first that does not. -/
def skipWhile (c : Cursor) (p : Char → Bool) : Cursor :=
  ⟨c.offset + (c.rest.takeWhile p).length, c.rest.dropWhile p⟩

/-- Move to where a later part of the text begins. -/
def moveTo (c : Cursor) (later : Text) : Cursor :=
  ⟨c.offset + (c.rest.length - later.length), later⟩

def at_ (c : Cursor) (s : String) : Bool := startsWith c.rest s.toList

end Cursor
end BemLint.Text
