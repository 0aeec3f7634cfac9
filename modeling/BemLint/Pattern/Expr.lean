import BemLint.Text.Case
import BemLint.Text.CharClass

/-!
# Pattern expressions

The expressions that an ignore pattern is made of, with the meaning of those that look at a single
character or at a place between two. Every leaf carries the modes in force where it was written.
-/
namespace BemLint.Pattern

/-- How an expression is read and matched. `template` refuses every repetition. -/
structure Modes where
  ignoreCase : Bool
  multiLine : Bool
  dotAll : Bool
  verbose : Bool
  asciiOnly : Bool
  template : Bool
deriving DecidableEq, Repr

/-- The modes of a pattern that asks for none. -/
def Modes.plain : Modes := ⟨false, false, false, false, false, false⟩

inductive NamedClass where
  | digit
  | space
  | word
deriving DecidableEq, Repr

/-- The white space of ASCII. -/
def isAsciiBlank (c : Char) : Bool := c = ' ' || (9 ≤ c.toNat && c.toNat ≤ 13)

def NamedClass.holds (asciiOnly : Bool) (c : Char) : NamedClass → Bool
  | .digit => if asciiOnly then Text.isAsciiDigit c else Text.isDigit c
  | .space => if asciiOnly then isAsciiBlank c else Text.isBlank c
  | .word => if asciiOnly then Text.isAsciiWordChar c else Text.isWordChar c

/-- A member of a set of characters. Characters are given by code points, since a pattern can name
one that no text holds. -/
inductive SetItem where
  | one (code : Nat)
  | range (low high : Nat)
  | named (cls : NamedClass) (negated : Bool)
deriving DecidableEq, Repr

/-- What an expression asks of a single character. -/
inductive CharTest where
  | literal (code : Nat) (negated : Bool)
  | any
  | oneOf (items : List SetItem) (negated : Bool)
deriving DecidableEq, Repr

/-- The lower-case form by which characters are compared in modes that ignore case. -/
def Modes.lower (modes : Modes) (n : Nat) : Nat :=
  if modes.asciiOnly then Text.lowerAsciiCode n else Text.lowerCode n

/-- The code points equal to a lower-case one when case is ignored. -/
def Modes.forms (modes : Modes) (n : Nat) : List Nat :=
  if modes.asciiOnly then if 97 ≤ n && n ≤ 122 then [n, n - 32] else [n]
  else (n :: Text.peers n).flatMap fun m => m :: Text.upperForms m

def Modes.same (modes : Modes) (code n : Nat) : Bool :=
  if modes.ignoreCase then (modes.forms (modes.lower n)).contains code else n == code

/-- Whether a character belongs to a member of a set. When case is ignored, a single member beyond
the basic plane is compared with the lower-case form as it stands, and a range that reaches beyond
it holds the upper-case forms in every mode. -/
def SetItem.holds (modes : Modes) (c : Char) : SetItem → Bool
  | .one code =>
    if modes.ignoreCase && 0xFFFF < code then modes.lower c.toNat == code
    else modes.same code c.toNat
  | .range low high =>
    if modes.ignoreCase then
      let n := modes.lower c.toNat
      let forms := modes.forms n ++ if 0xFFFF < high then Text.upperForms n else []
      forms.any fun m => low ≤ m && m ≤ high
    else low ≤ c.toNat && c.toNat ≤ high
  | .named cls negated =>
    let shown := if modes.ignoreCase then Char.ofNat (modes.lower c.toNat) else c
    cls.holds modes.asciiOnly shown != negated

def CharTest.holds (modes : Modes) (c : Char) : CharTest → Bool
  | .literal code negated => modes.same code c.toNat != negated
  | .any => modes.dotAll || c != '\n'
  | .oneOf items negated => (items.any fun item => item.holds modes c) != negated

/-- A condition on a place of the text. -/
inductive Anchor where
  | start
  | stop
  | textStart
  | textStop
  | wordEdge
  | noWordEdge
deriving DecidableEq, Repr

/-- A place in a text being matched: the characters before it, nearest first, those from it on,
and what the groups have captured so far, latest first. -/
structure Place where
  before : Text
  rest : Text
  groups : List (Nat × Text)
deriving DecidableEq, Repr

/-- Whether exactly one of the characters at a place is a word character. -/
def Place.atWordEdge (asciiOnly : Bool) (p : Place) : Bool :=
  let isWord : Text → Bool
    | [] => false
    | c :: _ => NamedClass.holds asciiOnly c .word
  isWord p.before != isWord p.rest

/-- Whether a condition holds at a place. The end of the text includes the place before a final
line feed. An empty text has no word edge, nor a place without one. -/
def Anchor.holds (modes : Modes) (p : Place) : Anchor → Bool
  | .textStart => p.before.isEmpty
  | .textStop => p.rest.isEmpty
  | .start => p.before.isEmpty || (modes.multiLine && p.before.head? == some '\n')
  | .stop =>
    p.rest.isEmpty || p.rest == ['\n'] || (modes.multiLine && p.rest.head? == some '\n')
  | .wordEdge => p.atWordEdge modes.asciiOnly
  | .noWordEdge =>
    !(p.before.isEmpty && p.rest.isEmpty) && !p.atWordEdge modes.asciiOnly

/-- How often and in which order a repetition is tried: the longest first, the shortest first, or
the longest alone. -/
inductive Greed where
  | greedy
  | lazy
  | possessive
deriving DecidableEq, Repr

/-- The least and the greatest number of characters that an expression can match. -/
structure Width where
  least : Nat
  greatest : Option Nat
deriving DecidableEq, Repr

inductive Expr where
  | empty
  | char (test : CharTest) (modes : Modes)
  | anchor (anchor : Anchor) (modes : Modes)
  | seq (first second : Expr)
  | alt (first second : Expr)
  | group (index : Nat) (body : Expr)
  /-- The text of a group once more. The width is that of the group. -/
  | backref (index : Nat) (width : Width) (modes : Modes)
  | cond (index : Nat) (yes no : Expr)
  | ahead (negated : Bool) (body : Expr)
  | behind (negated : Bool) (body : Expr)
  | atomic (body : Expr)
  | repeat (greed : Greed) (least : Nat) (greatest : Option Nat) (body : Expr)
deriving Repr

def Width.add (a b : Width) : Width :=
  ⟨a.least + b.least, do return (← a.greatest) + (← b.greatest)⟩

def Width.either (a b : Width) : Width :=
  ⟨min a.least b.least, do return max (← a.greatest) (← b.greatest)⟩

def Width.times (least : Nat) (greatest : Option Nat) (w : Width) : Width :=
  ⟨w.least * least,
    if w.greatest = some 0 then some 0 else do return (← w.greatest) * (← greatest)⟩

def Expr.width : Expr → Width
  | .empty | .anchor .. | .ahead .. | .behind .. => ⟨0, some 0⟩
  | .char .. => ⟨1, some 1⟩
  | .seq a b => a.width.add b.width
  | .alt a b => a.width.either b.width
  | .group _ e | .atomic e => e.width
  | .backref _ w _ => w
  | .cond _ yes no => yes.width.either no.width
  | .repeat _ least greatest e => e.width.times least greatest

/-- The greatest width of an expression that looks behind. -/
def behindLimit : Nat := 4294967295

/-- Whether every expression that looks behind has one width only, within the limit. -/
def Expr.fixedBehind : Expr → Bool
  | .empty | .char .. | .anchor .. | .backref .. => true
  | .seq a b | .alt a b | .cond _ a b => a.fixedBehind && b.fixedBehind
  | .group _ e | .ahead _ e | .atomic e | .repeat _ _ _ e => e.fixedBehind
  | .behind _ e =>
    let w := e.width
    w.greatest == some w.least && w.least ≤ behindLimit && e.fixedBehind

def Expr.repeats : Expr → Bool
  | .empty | .char .. | .anchor .. | .backref .. => false
  | .seq a b | .alt a b | .cond _ a b => a.repeats || b.repeats
  | .group _ e | .ahead _ e | .behind _ e | .atomic e => e.repeats
  | .repeat .. => true

end BemLint.Pattern
