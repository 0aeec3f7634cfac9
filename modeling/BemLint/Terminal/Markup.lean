import BemLint.Terminal.Emoji

/-!
# Markup

Text in which tags between brackets switch styles on and off. On a page without styles the tags
vanish. A closing tag needs an open one of its name, or just any open one if it gives no name; a
backslash makes a tag text.
-/
namespace BemLint.Terminal

inductive MarkupFault where
  | unmatched (tag : Text) (offset : Nat)
  | nothingToClose (offset : Nat)
deriving DecidableEq, Repr

def MarkupFault.message : MarkupFault → Text
  | .unmatched tag offset =>
    "closing tag '[".toList ++ tag ++ "]' at position ".toList ++ Text.ofNat offset ++
      " doesn't match any open tag".toList
  | .nothingToClose offset =>
    "closing tag '[/]' at position ".toList ++ Text.ofNat offset ++
      " has nothing to close".toList

/-- A part of a text with markup: plain text, or a tag at an offset. -/
inductive MarkupPart where
  | plain (s : Text)
  | tag (offset : Nat) (body : Text)
deriving DecidableEq, Repr

def startsTag (c : Char) : Bool := ('a' ≤ c && c ≤ 'z') || c = '#' || c = '/' || c = '@'

/-- The tag at the front of a text: the number of backslashes before it, and what is between its
brackets. -/
def tagAt? (s : Text) : Option (Nat × Text) :=
  let slashes := (s.takeWhile (· = '\\')).length
  match s.drop slashes with
  | '[' :: c :: rest =>
    let more := rest.takeWhile fun d => d ≠ '[' && d ≠ ']'
    match rest.drop more.length with
    | ']' :: _ => if startsTag c then some (slashes, c :: more) else none
    | _ => none
  | _ => none

def plainPart (s : Text) : List MarkupPart := if s.isEmpty then [] else [.plain s]

/-- What a tag after backslashes stands for. Two backslashes are one, and a single one makes the
tag text. -/
def tagParts (offset slashes : Nat) (body : Text) : List MarkupPart :=
  plainPart (List.replicate (slashes / 2) '\\') ++
    (if slashes % 2 = 1 then [.plain ('[' :: body ++ [']'])]
      else [.tag (offset + 2 * (slashes / 2)) body])

/-- The parts of a text from an offset on. `skip` characters belong to the latest tag, and `plain`
holds the plain text since then, latest character first. -/
def markupPartsFrom : (skip offset : Nat) → (plain : Text) → Text → List MarkupPart
  | _, _, plain, [] => plainPart plain.reverse
  | skip + 1, offset, plain, _ :: rest => markupPartsFrom skip (offset + 1) plain rest
  | 0, offset, plain, c :: rest =>
    match tagAt? (c :: rest) with
    | some (slashes, body) =>
      plainPart plain.reverse ++ tagParts offset slashes body ++
        markupPartsFrom (slashes + body.length + 1) (offset + 1) [] rest
    | none => markupPartsFrom 0 (offset + 1) (c :: plain) rest

def markupParts (s : Text) : List MarkupPart := markupPartsFrom 0 0 [] s

/-- The styles that have a short name. -/
def styleOf (name : Text) : Text :=
  let short := [("b", "bold"), ("d", "dim"), ("i", "italic"), ("u", "underline"), ("r", "reverse"),
    ("c", "conceal"), ("s", "strike"), ("uu", "underline2"), ("o", "overline")]
  match short.find? fun (known, _) => known.toList = name with
  | some (_, style) => style.toList
  | none => name

def tagStyle (name : Text) : Text := styleOf (Text.toLower (Text.trim name))

/-- The styles that stay open when the latest of a name is closed. -/
def closeStyle? (style : Text) : List Text → Option (List Text)
  | [] => none
  | s :: styles =>
    if s = style then some styles else (closeStyle? style styles).map (s :: ·)

def applyTag (opened : List Text) (offset : Nat) (body : Text) :
    Except MarkupFault (List Text) :=
  match body.takeWhile (· ≠ '=') with
  | '/' :: name =>
    if (Text.trim name).isEmpty then
      match opened with
      | [] => .error (.nothingToClose offset)
      | _ :: styles => .ok styles
    else
      match closeStyle? (tagStyle name) opened with
      | none => .error (.unmatched body offset)
      | some styles => .ok styles
  | name => .ok (tagStyle name :: opened)

/-- The text of parts, with the styles that are open before them. The table of pictures is the small
one, which leaves most codes as they are. -/
def renderParts : (opened : List Text) → List MarkupPart → Except MarkupFault Text
  | _, [] => .ok []
  | opened, .plain s :: parts => do
    let later ← renderParts opened parts
    return replaceEmoji .known (Text.replace ['\\', '['] ['['] s) ++ later
  | opened, .tag offset body :: parts => do
    renderParts (← applyTag opened offset body) parts

def renderMarkup (s : Text) : Except MarkupFault Text := renderParts [] (markupParts s)

end BemLint.Terminal
