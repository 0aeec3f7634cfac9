import BemLint.Text.Blank
import BemLint.Text.Edges
import BemLint.Text.Lines
import BemLint.Text.Table.Width

/-!
# Laying out text

Plain text on a page of a number of cells. A character takes no cell, one or two. Lines are broken
between words where possible; a word longer than a line is cut. Nothing is filled up on the right.
-/
namespace BemLint.Terminal
open Text

def cellWidth (c : Char) : Nat :=
  let n := c.toNat
  if 0x20 ≤ n && n < 0x7F then 1
  else if inside Table.zeroWidth n then 0
  else if inside Table.doubleWidth n then 2
  else 1

def cells (s : Text) : Nat := total (s.map cellWidth)

/-- The control characters that would move the cursor. -/
def isCursorControl (c : Char) : Bool :=
  let n := c.toNat
  n == 7 || n == 8 || (11 ≤ n && n ≤ 13)

/-- A text without what would move the cursor. -/
def plain (s : Text) : Text := s.filter fun c => !isCursorControl c

/-- Fill with spaces from each tab to the next multiple of eight cells. -/
def expandTabsFrom (cell : Nat) : Text → Text
  | [] => []
  | c :: rest =>
    if c = '\t' then
      let fill := 8 - cell % 8
      List.replicate fill ' ' ++ expandTabsFrom (cell + fill) rest
    else c :: expandTabsFrom (cell + cellWidth c) rest

def expandTabs (s : Text) : Text := expandTabsFrom 0 s

/-- Where a reader of words stands: before the first word, in a word, or after one. -/
inductive WordPhase where
  | before
  | inside
  | after
deriving DecidableEq, Repr

/-- The pieces of a line, given the characters of the current piece, latest first. -/
def piecesFrom : WordPhase → (piece : Text) → Text → List Text
  | .before, _, [] => []
  | _, piece, [] => [piece.reverse]
  | phase, piece, c :: rest =>
    if isBlank c then
      piecesFrom (if phase = .before then .before else .after) (c :: piece) rest
    else if phase = .after then piece.reverse :: piecesFrom .inside [c] rest
    else piecesFrom .inside (c :: piece) rest

/-- The pieces between which a line may be broken: each is a word with the white space after it,
and the first has the white space before it too. White space alone is no piece. -/
def pieces (s : Text) : List Text := piecesFrom .before [] s

/-- Cut a text into parts of at most `width` cells, of which `used` are taken by the characters of
the current part, latest first. -/
def cutFrom (width : Nat) : (used : Nat) → (part : Text) → Text → List Text
  | _, part, [] => [part.reverse]
  | used, part, c :: rest =>
    if width < used + cellWidth c then
      part.reverse :: cutFrom width (cellWidth c) [c] rest
    else cutFrom width (used + cellWidth c) (c :: part) rest

def cut (width : Nat) (s : Text) : List Text := cutFrom width 0 [] s

/-- Where parts begin that stand one after another from an offset on. -/
def starts : (offset : Nat) → List Text → List Nat
  | _, [] => []
  | offset, part :: parts => offset :: starts (offset + part.length) parts

/-- The offsets at which new lines begin, for pieces from an offset on where `cell` cells of the
line are taken. White space at the end of a piece need not fit. A piece that is too long for any
line is cut, and begins a line itself. -/
def breaksFrom (width : Nat) : (cell offset : Nat) → List Text → List Nat
  | _, _, [] => []
  | cell, offset, piece :: later =>
    let next := offset + piece.length
    let size := cells (trimEnd piece)
    if cell + size ≤ width then breaksFrom width (cell + cells piece) next later
    else if width < size then
      let parts := cut width piece
      (starts offset parts).filter (· ≠ 0) ++
        breaksFrom width (cells (parts.getLastD [])) next later
    else if cell ≠ 0 ∧ offset ≠ 0 then offset :: breaksFrom width (cells piece) next later
    else breaksFrom width cell next later

/-- The parts of a text that begins at an offset, divided at ascending offsets. -/
def divideFrom : (offset : Nat) → List Nat → Text → List Text
  | _, [], s => [s]
  | offset, b :: bs, s => s.take (b - offset) :: divideFrom b bs (s.drop (b - offset))

/-- A line without white space at its end, as far as it has more than `width` characters. -/
def shedEnd (width : Nat) (s : Text) : Text :=
  s.take (s.length - min (s.length - width) (s.length - (trimEnd s).length))

/-- The beginning of a text that takes exactly `width` cells, found by halving the range of its
length. Where several beginnings take as many cells the search decides among them; a space fills
the last cell when a character of two cells would begin there. -/
def beginning (width : Nat) (s : Text) : (fuel start stop : Nat) → Text
  | 0, start, _ => s.take start
  | fuel + 1, start, stop =>
    let middle := (start + stop) / 2
    let part := s.take (middle + 1)
    let size := cells part
    if size = width then part
    else if size = width + 1 ∧ part.getLast?.map cellWidth = some 2 then part.dropLast ++ [' ']
    else if width < size then beginning width s fuel start middle
    else beginning width s fuel middle stop

/-- A line cropped to a width, if it is longer. Every round halves the range, so that the length is
fuel enough. -/
def cropTo (width : Nat) (s : Text) : Text :=
  if cells s ≤ width then s else beginning width s (s.length + 1) 0 s.length

def wrapLine (width : Nat) (s : Text) : List Text :=
  let lines := divideFrom 0 (breaksFrom width 0 0 (pieces s)) s
  lines.map fun line => cropTo width (shedEnd width line)

def paragraph (width : Nat) (s : Text) : Text :=
  ((feedLines (plain s)).flatMap fun line => wrapLine width (expandTabs line)).flatMap (· ++ ['\n'])

end BemLint.Terminal
