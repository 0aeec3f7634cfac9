/-!
# Text

A text is a list of characters, and all of the library works on such lists: offsets, columns
and widths then count characters by construction, and a function on texts is a recursion on
its data. Searching is left to right and occurrences do not overlap.
-/
namespace BemLint

/-- A text, character by character. -/
abbrev Text := List Char

namespace Text

/-- Put `c` in front of the first piece. -/
def consHead (c : Char) : List Text → List Text
  | [] => [[c]]
  | piece :: pieces => (c :: piece) :: pieces

/-- The pieces of a text between the occurrences of one character. There is always one piece
more than there are occurrences. -/
def splitAt (sep : Char) : Text → List Text
  | [] => [[]]
  | c :: rest => if c = sep then [] :: splitAt sep rest else consHead c (splitAt sep rest)

/-- The pieces of a text between the occurrences of a doubled character. Occurrences are taken
from the left and do not overlap, so three in a row are one occurrence and a single character. -/
def splitAtPair (d : Char) : Text → List Text
  | [] => [[]]
  | [c] => [[c]]
  | a :: b :: rest =>
    if a = d ∧ b = d then [] :: splitAtPair d rest else consHead a (splitAtPair d (b :: rest))

def join (sep : Text) : List Text → Text
  | [] => []
  | [piece] => piece
  | piece :: pieces => piece ++ sep ++ join sep pieces

def startsWith : Text → Text → Bool
  | _, [] => true
  | [], _ :: _ => false
  | c :: cs, p :: ps => c = p && startsWith cs ps

/-- What is left of a text after the given beginning, when it has that beginning. -/
def after? : Text → Text → Option Text
  | s, [] => some s
  | [], _ :: _ => none
  | c :: cs, p :: ps => if c = p then after? cs ps else none

def indexOf? (sub : Text) : Text → Option Nat
  | [] => if sub.isEmpty then some 0 else none
  | c :: rest =>
    if startsWith (c :: rest) sub then some 0 else (indexOf? sub rest).map (· + 1)

/-- The offset of the first occurrence that begins no earlier than `start`. -/
def indexFrom? (sub s : Text) (start : Nat) : Option Nat :=
  (indexOf? sub (s.drop start)).map (start + ·)

/-- Replacement in progress: `skip` characters of an occurrence are still to be passed over. -/
def replaceFrom (old new : Text) : (skip : Nat) → Text → Text
  | _, [] => []
  | skip + 1, _ :: rest => replaceFrom old new skip rest
  | 0, c :: rest =>
    if startsWith (c :: rest) old then new ++ replaceFrom old new (old.length - 1) rest
    else c :: replaceFrom old new 0 rest

/-- Replace every occurrence of a non-empty text, left to right. Inserted text is not searched
again. -/
def replace (old new s : Text) : Text := replaceFrom old new 0 s

def replaceChar (old : Char) (new s : Text) : Text :=
  s.flatMap fun c => if c = old then new else [c]

def replaceFirst (old : Char) (new : Text) : Text → Text
  | [] => []
  | c :: rest => if c = old then new ++ rest else c :: replaceFirst old new rest

def padLeft (fill : Char) (width : Nat) (s : Text) : Text :=
  List.replicate (width - s.length) fill ++ s

def total : List Nat → Nat
  | [] => 0
  | n :: rest => n + total rest

def ofNat (n : Nat) : Text := (toString n).toList

def ofInt : Int → Text
  | .ofNat n => ofNat n
  | .negSucc n => '-' :: ofNat (n + 1)

/-- The order of texts by the code points of their characters. -/
def le : Text → Text → Bool
  | [], _ => true
  | _ :: _, [] => false
  | a :: as, b :: bs => a.toNat < b.toNat || (a == b && le as bs)

/-- The first piece is never missing. -/
theorem splitAtPair_ne_nil (d : Char) (s : Text) : splitAtPair d s ≠ [] := by
  unfold splitAtPair
  split <;> try simp
  rename_i a b rest
  split
  · simp
  · unfold consHead
    split <;> simp

theorem splitAt_ne_nil (sep : Char) (s : Text) : splitAt sep s ≠ [] := by
  unfold splitAt
  split
  · simp
  · split
    · simp
    · unfold consHead
      split <;> simp

end Text
end BemLint
