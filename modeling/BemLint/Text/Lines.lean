import BemLint.Text.Basic

/-!
# Lines and positions

Three notions of a line. A position counts line feeds only. Reading a text file turns each
carriage return, alone or before a line feed, into a line feed. Showing a source line cuts the
text at every line boundary of Unicode.
-/
namespace BemLint.Text

structure Position where
  line : Int
  column : Int
deriving DecidableEq, Repr

/-- How many characters an offset covers: a negative one counts from the end of the text and
stops at its start. -/
def covered (s : Text) (offset : Int) : Nat :=
  if offset < 0 then (s.length + offset).toNat else min s.length offset.toNat

/-- The offset just after the last line feed of a text, or none without one. -/
def lineStart? (s : Text) : Option Nat :=
  if s.count '\n' = 0 then none
  else some (s.length - (s.reverse.takeWhile (· != '\n')).length)

/-- The place of an offset. The line is one more than the line feeds before it; the column is
counted from the last of them, and from the offset as given when there is none. -/
def positionAt (s : Text) (offset : Int) : Position :=
  let before := s.take (covered s offset)
  match lineStart? before with
  | none => ⟨1, offset + 1⟩
  | some start => ⟨before.count '\n' + 1, offset + 1 - start⟩

/-- Turn every carriage return, with the line feed after it if there is one, into a line feed. -/
def unifyNewlines : Text → Text
  | [] => []
  | '\r' :: '\n' :: rest => '\n' :: unifyNewlines rest
  | '\r' :: rest => '\n' :: unifyNewlines rest
  | c :: rest => c :: unifyNewlines rest

def feedLines (s : Text) : List Text := splitAt '\n' s

/-- The characters that end a line on a page of text. -/
def isLineBreak (c : Char) : Bool :=
  let n := c.toNat
  (10 ≤ n && n ≤ 13) || (28 ≤ n && n ≤ 30) || n == 0x85 || n == 0x2028 || n == 0x2029

/-- The lines of a text with every line boundary observed; a carriage return and the line feed
after it are one boundary. A boundary at the very end opens no further line. -/
def pageLines : Text → List Text
  | [] => []
  | '\r' :: '\n' :: rest => [] :: pageLines rest
  | c :: rest =>
    if isLineBreak c then [] :: pageLines rest else consHead c (pageLines rest)

end BemLint.Text
