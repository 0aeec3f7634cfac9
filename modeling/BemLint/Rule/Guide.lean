import BemLint.Json.Printer
import BemLint.Rule.Example
import BemLint.Terminal.Layout

/-!
# The guide to the rules

The rules for reading: all of them in a table, or one of them with its example. Both also come as
JSON.
-/
namespace BemLint.Rule
open Terminal

def padRight (width : Nat) (s : Text) : Text := s ++ List.replicate (width - cells s) ' '

/-- A text in the middle of a number of cells; of an odd number of fillers one more is on the
right. -/
def centred (fill : Char) (width : Nat) (s : Text) : Text :=
  let spare := width - cells s
  List.replicate (spare / 2) fill ++ s ++ List.replicate (spare - spare / 2) fill

/-- The four characters of a line of a table: its left end, what it is drawn with, the meeting with
a line between columns, and its right end. -/
structure TableLine where
  left : Char
  fill : Char
  meet : Char
  right : Char
deriving DecidableEq, Repr

def TableLine.draw (line : TableLine) (widths : List Nat) : Text :=
  line.left :: Text.join [line.meet] (widths.map fun w => List.replicate (w + 2) line.fill) ++
    [line.right, '\n']

def tableRow (bar : Char) (widths : List Nat) (row : List Text) : Text :=
  let cellTexts := (widths.zip row).map fun (w, s) => ' ' :: padRight w s ++ [' ']
  bar :: Text.join [bar] cellTexts ++ [bar, '\n']

def columnWidth (rows : List (List Text)) (column : Nat) : Nat :=
  (rows.map fun row => cells (row.getD column [])).foldl max 0

def row (rule : Rule) : List Text := [rule.id, rule.title, rule.description]

def headRow : List Text := ["ID".toList, "Title".toList, "Description".toList]

def table : Text :=
  let rows := all.map row
  let widths := (List.range headRow.length).map (columnWidth (headRow :: rows))
  let width := Text.total (widths.map (· + 3)) + 1
  centred ' ' width "bem-checker rules".toList ++ ['\n'] ++
    TableLine.draw ⟨'┏', '━', '┳', '┓'⟩ widths ++ tableRow '┃' widths headRow ++
    TableLine.draw ⟨'┡', '━', '╇', '┩'⟩ widths ++ rows.flatMap (tableRow '│' widths) ++
    TableLine.draw ⟨'└', '─', '┴', '┘'⟩ widths

def toJson (rule : Rule) : Json :=
  .obj [("rule_id".toList, .str rule.id), ("title".toList, .str rule.title),
    ("description".toList, .str rule.description)]

def listText : Text := Json.pretty .ascii (.arr (all.map toJson))

def optionalJson : Option Text → Json
  | some s => .str s
  | none => .null

/-- The example of a rule, with its fields in the order of their names. -/
def exampleJson (e : RuleExample) : Json :=
  .obj [("bad".toList, .str e.bad), ("good".toList, .str e.good),
    ("language".toList, .str e.language), ("notes".toList, optionalJson e.notes)]

/-- A rule with its example as JSON, with its fields in the order of their names. -/
def explanationText (rule : Rule) : Text :=
  Json.pretty .ascii
    (.obj [("description".toList, .str rule.description),
      ("example".toList, exampleJson rule.usage), ("rule_id".toList, .str rule.id),
      ("title".toList, .str rule.title)])

def framed (width : Nat) (heading body : Text) : Text :=
  "╭─".toList ++ centred '─' (width - 4) (' ' :: heading ++ [' ']) ++ "─╮\n".toList ++
    "│ ".toList ++ padRight (width - 4) body ++ " │\n".toList ++
    ('╰' :: List.replicate (width - 2) '─') ++ "╯\n".toList

/-- Source text: each line, and the empty one after the last line feed, filled up to the width. -/
def sourcePage (width : Nat) (s : Text) : Text :=
  (Text.feedLines s).flatMap fun line => padRight width line ++ ['\n']

def lineOf (s : Text) : Text := s ++ ['\n']

/-- How to ignore class names, as a settings file holds it. -/
def ignoreListSample : Text :=
  ['{', '\n'] ++ "  \"ignoreList\": [\"^js-\", \"u-*\"]\n".toList ++ ['}', '\n']

def explanation (width : Nat) (rule : Rule) : Text :=
  let e := rule.usage
  framed width (rule.id ++ " — ".toList ++ rule.title) rule.description ++
    lineOf "Ignore list (.bem-checker-rc.json):".toList ++ sourcePage width ignoreListSample ++
    lineOf "Example:".toList ++ (match e.notes with | some notes => lineOf notes | none => []) ++
    lineOf "Bad:".toList ++ sourcePage width e.bad ++
    lineOf "Good:".toList ++ sourcePage width e.good

end BemLint.Rule
