import BemLint.Text.Blank

/-!
# Class attributes

Where a text sets the class of an element: `class` or `className`, an equals sign, and a value in
quotes, or in quotes inside braces. The value is not empty and free of its own quote; white space
may stand around the sign and just inside the braces. A text is raw text here, not a document, so
anything else is passed over one character at a time.
-/
namespace BemLint

/-- A class attribute: the offset of its name, the offset of the first character of its value, the
value, and the offset just after the whole attribute. -/
structure ClassAttr where
  first : Nat
  start : Nat
  value : Text
  stop : Nat
deriving DecidableEq, Repr

namespace ClassAttr

/-- The grave accent, a quote for values inside braces only. -/
def graveAccent : Char := Char.ofNat 96

/-- What follows the name of a class attribute. The longer name is taken when both fit. -/
def afterName? (s : Text) : Option Text :=
  (Text.after? s "class".toList).map fun rest => (Text.after? rest "Name".toList).getD rest

/-- What follows one character, after any white space. -/
def afterSign? (sign : Char) (s : Text) : Option Text :=
  match Text.trimStart s with
  | [] => none
  | c :: rest => if c = sign then some rest else none

def upToQuote? (quote : Char) (s : Text) : Option (Text × Text) :=
  match s.takeWhile (· ≠ quote), s.dropWhile (· ≠ quote) with
  | [], _ => none
  | _ :: _, [] => none
  | c :: value, _ :: rest => some (c :: value, rest)

/-- The value of an attribute at the front of a text, with the text from the value on and the text
after the attribute. -/
def valueAt? : Text → Option (Text × Text × Text)
  | [] => none
  | c :: rest =>
    if c = '"' ∨ c = '\'' then do
      let (value, after) ← upToQuote? c rest
      return (value, rest, after)
    else if c = '{' then
      match Text.trimStart rest with
      | [] => none
      | q :: inner =>
        if q = graveAccent ∨ q = '"' ∨ q = '\'' then do
          let (value, closing) ← upToQuote? q inner
          return (value, inner, ← afterSign? '}' closing)
        else none
    else none

/-- The class attribute at the front of a text; offsets count from there. -/
def atFront? (s : Text) : Option ClassAttr := do
  let named ← afterName? s
  let signed ← afterSign? '=' named
  let (value, fromValue, after) ← valueAt? (Text.trimStart signed)
  return ⟨0, s.length - fromValue.length, value, s.length - after.length⟩

def shift (offset : Nat) (a : ClassAttr) : ClassAttr :=
  ⟨offset + a.first, offset + a.start, a.value, offset + a.stop⟩

/-- The class attributes of a text that begins at an offset, from the left and without overlap.
`skip` characters belong to the latest one. -/
def scanFrom : (offset skip : Nat) → Text → List ClassAttr
  | _, _, [] => []
  | offset, skip + 1, _ :: rest => scanFrom (offset + 1) skip rest
  | offset, 0, c :: rest =>
    match atFront? (c :: rest) with
    | some a => a.shift offset :: scanFrom (offset + 1) (a.stop - 1) rest
    | none => scanFrom (offset + 1) 0 rest

def scan (s : Text) : List ClassAttr := scanFrom 0 0 s

end ClassAttr
end BemLint
