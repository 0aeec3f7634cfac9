import BemLint.Decimal.Limit
import BemLint.Pattern.CharacterNames
import BemLint.Pattern.Expr

/-!
# Reading patterns

From the text of a pattern to its expression, with the characters that a table has names for. A
backslash and the character after it are one symbol. Modes at the very start hold for the whole
pattern, modes of a group inside it. A text that is no expression is refused as malformed; two
faults are told apart, since they do not make the text a wildcard pattern: a repetition bound with
too many digits, and a pattern that asks for the ASCII and for the Unicode classes at once.
-/
namespace BemLint.Pattern

inductive Refusal where
  | malformed
  | longBound (digits : Nat)
  | opposedClasses
deriving DecidableEq, Repr

/-- A repetition bound must be less than this. -/
def boundLimit : Nat := 4294967295

/-- How many calls of the reader can be open at once: two for each group and one for each branch of
a condition. The stack that limits them is shared with the callers of the reader, so the number
depends on them; this one leaves some room. -/
def callLimit : Nat := 982

inductive Symbol where
  | plain (c : Char)
  | escape (c : Char)
  /-- A backslash with nothing after it. -/
  | dangling
deriving DecidableEq, Repr

def symbols : Text → List Symbol
  | [] => []
  | ['\\'] => [.dangling]
  | '\\' :: c :: rest => .escape c :: symbols rest
  | c :: rest => .plain c :: symbols rest

def Symbol.text : Symbol → Text
  | .plain c => [c]
  | .escape c => ['\\', c]
  | .dangling => ['\\']

/-- What the reader knows at a point of a pattern: the table of characters by name, the symbols
ahead, the modes that hold for the whole pattern and whether the Unicode classes were among them,
the names of groups, the number that the next group gets, the widths of the groups that are closed,
the number of the first group that an enclosing look behind must not mention, and the groups that
conditions mention. -/
structure Reader where
  table : CharacterNames
  ahead : List Symbol
  modes : Modes
  unicode : Bool
  names : List (Text × Nat)
  nextGroup : Nat
  closed : List (Nat × Width)
  behindGroups : Option Nat
  conditions : List Nat

/-- A step of reading. -/
abbrev Read := StateT Reader (Except Refusal)

def malformed {α : Type} : Read α := throw .malformed

/-- The next symbol, left in place. -/
def peek : Read (Option Symbol) := do return (← get).ahead.head?

def skip : Read Unit := modify fun r => { r with ahead := r.ahead.tail }

/-- The next symbol, taken. -/
def take : Read (Option Symbol) := do
  let s ← peek
  skip
  return s

def accept (c : Char) : Read Bool := do
  if (← peek) == some (.plain c) then
    skip
    return true
  else return false

theorem run_bind_ok {α β : Type} {x : Read α} {f : α → Read β} {r after : Reader} {a : α}
    (ran : x.run r = .ok (a, after)) : (x >>= f).run r = (f a).run after := by
  rw [StateT.run_bind, ran]
  rfl

theorem peek_run (r : Reader) : peek.run r = .ok (r.ahead.head?, r) := rfl

theorem skip_run {r : Reader} {symbol : Symbol} {rest : List Symbol}
    (ahead : r.ahead = symbol :: rest) : skip.run r = .ok ((), { r with ahead := rest }) := by
  have tail : r.ahead.tail = rest := by rw [ahead, List.tail_cons]
  exact tail ▸ rfl

theorem accept_absent (c : Char) (r : Reader) (other : r.ahead.head? ≠ some (.plain c)) :
    (accept c).run r = .ok (false, r) := by
  rw [accept, run_bind_ok (peek_run r)]
  simp only [beq_iff_eq, other, if_false]
  rfl

def expect (c : Char) : Read Unit := do
  unless ← accept c do malformed

/-- The plain characters at the front of symbols that satisfy a condition, at most `count`. -/
def plainWhile (p : Char → Bool) : (count : Nat) → List Symbol → Text
  | count + 1, .plain c :: rest => if p c then c :: plainWhile p count rest else []
  | _, _ => []

/-- Take plain characters that satisfy a condition, at most `count`. -/
def takeWhile (p : Char → Bool) (count : Nat) : Read Text := do
  let found := plainWhile p count (← get).ahead
  modify fun r => { r with ahead := r.ahead.drop found.length }
  return found

/-- A name up to a closing character. -/
def nameUntil (stop : Char) : (fuel : Nat) → Read Text
  | 0 => malformed
  | fuel + 1 => do
    let some symbol ← take | malformed
    if symbol = .plain stop then return []
    return symbol.text ++ (← nameUntil stop fuel)

def name (stop : Char) : Read Text := do
  let found ← nameUntil stop ((← get).ahead.length + 1)
  if found.isEmpty then malformed else return found

def isOctal (c : Char) : Bool := '0' ≤ c && c ≤ '7'

def isLetter (c : Char) : Bool := ('a' ≤ c && c ≤ 'z') || ('A' ≤ c && c ≤ 'Z')

/-- The code point of a letter that stands for a control character after a backslash. -/
def controlEscape? : Char → Option Nat
  | 'a' => some 7
  | 'f' => some 12
  | 'n' => some 10
  | 'r' => some 13
  | 't' => some 9
  | 'v' => some 11
  | '\\' => some 92
  | _ => none

/-- The named class of a letter after a backslash, and whether it is its complement. -/
def classEscape? : Char → Option SetItem
  | 'd' => some (.named .digit false)
  | 'D' => some (.named .digit true)
  | 's' => some (.named .space false)
  | 'S' => some (.named .space true)
  | 'w' => some (.named .word false)
  | 'W' => some (.named .word true)
  | _ => none

/-- The anchor of a letter after a backslash. -/
def anchorEscape? : Char → Option Anchor
  | 'A' => some .textStart
  | 'Z' => some .textStop
  | 'b' => some .wordEdge
  | 'B' => some .noWordEdge
  | _ => none

def hexEscape (count : Nat) : Read Nat := do
  let digits ← takeWhile Text.isHexDigit count
  if digits.length = count then return Text.digitsValue 16 digits else malformed

def namedEscape : Read Nat := do
  expect '{'
  let written ← name '}'
  match (← get).table written with
  | none => malformed
  | some c => return c.toNat

/-- The code point of an escape with digits or a name, if the letter begins one. -/
def codeEscape? (c : Char) : Read (Option Nat) := do
  match c with
  | 'N' => return some (← namedEscape)
  | 'x' => return some (← hexEscape 2)
  | 'u' => return some (← hexEscape 4)
  | 'U' =>
    let code ← hexEscape 8
    if code ≤ 0x10FFFF then return some code else malformed
  | _ => return none

/-- An escape as a member of a set. -/
def setEscape (c : Char) : Read SetItem := do
  if c = 'b' then return .one 8
  if let some code := controlEscape? c then return .one code
  if let some item := classEscape? c then return item
  if let some code ← codeEscape? c then return .one code
  if isOctal c then
    let more ← takeWhile isOctal 2
    let code := Text.digitsValue 8 (c :: more)
    if code ≤ 0xFF then return .one code else malformed
  else if Text.isAsciiDigit c || isLetter c then malformed
  else return .one c.toNat

/-- A group that may be mentioned at this point: closed, and from before any enclosing look
behind. -/
def mentionable (index : Nat) : Read Width := do
  let r ← get
  match r.closed.find? (·.1 == index) with
  | none => malformed
  | some (_, width) =>
    match r.behindGroups with
    | some limit => if limit ≤ index then malformed else return width
    | none => return width

/-- An escape that begins with a digit other than zero: three octal digits are a character, any
other one or two digits mention a group. -/
def digitEscape (modes : Modes) (c : Char) : Read Expr := do
  let second ← takeWhile Text.isAsciiDigit 1
  let third ←
    match second with
    | [d] => if isOctal c && isOctal d then takeWhile isOctal 1 else pure []
    | _ => pure []
  if third.isEmpty then
    let index := Text.decimalValue (c :: second)
    let width ← mentionable index
    return .backref index width modes
  else
    let code := Text.digitsValue 8 (c :: second ++ third)
    if code ≤ 0xFF then return .char (.literal code false) modes else malformed

/-- The kinds of expressions that a repetition tells apart. -/
inductive Kind where
  | anchor
  | repetition
  | other
deriving DecidableEq, Repr

/-- An expression of a sequence, with its kind. -/
abbrev Piece := Kind × Expr

def literalPiece (modes : Modes) (code : Nat) : Piece :=
  (.other, .char (.literal code false) modes)

/-- An escape outside sets. -/
def escapePiece (modes : Modes) (c : Char) : Read Piece := do
  if let some anchor := anchorEscape? c then return (.anchor, .anchor anchor modes)
  if let some item := classEscape? c then return (.other, .char (.oneOf [item] false) modes)
  if let some code := controlEscape? c then return literalPiece modes code
  if let some code ← codeEscape? c then return literalPiece modes code
  if c = '0' then
    let more ← takeWhile isOctal 2
    return literalPiece modes (Text.digitsValue 8 more)
  else if Text.isAsciiDigit c then return (.other, ← digitEscape modes c)
  else if isLetter c then malformed
  else return literalPiece modes c.toNat

def setMember : Symbol → Read SetItem
  | .plain c => return .one c.toNat
  | .escape c => setEscape c
  | .dangling => malformed

/-- The members of a set up to its closing bracket, which is a member when it comes first. The
members read so far come latest first. -/
def setItems : (fuel : Nat) → List SetItem → Read (List SetItem)
  | 0, _ => malformed
  | fuel + 1, items => do
    let some symbol ← take | malformed
    if symbol = .plain ']' && !items.isEmpty then return items.reverse
    let first ← setMember symbol
    if ← accept '-' then
      let some other ← take | malformed
      if other = .plain ']' then return (.one '-'.toNat :: first :: items).reverse
      let second ← setMember other
      match first, second with
      | .one low, .one high =>
        if high < low then malformed else setItems fuel (.range low high :: items)
      | _, _ => malformed
    else setItems fuel (first :: items)

/-- The test for a set. A set of a single character is that character. -/
def setTest (items : List SetItem) (negated : Bool) : CharTest :=
  match items.eraseDups with
  | [.one code] => .literal code negated
  | distinct => .oneOf distinct negated

def setPiece (modes : Modes) : Read Piece := do
  let negated ← accept '^'
  let items ← setItems ((← get).ahead.length + 1) []
  return (.other, .char (setTest items negated) modes)

/-- A bound from its digits; without digits there is none. -/
def bound? (digits : Text) : Read (Option Nat) := do
  if digits.isEmpty then return none
  if Decimal.digitLimit < digits.length then throw (.longBound digits.length)
  let value := Text.decimalValue digits
  if value < boundLimit then return some value else malformed

/-- The bounds of a repetition in braces whose opening brace has been passed, or none when the
brace stands for itself. -/
def braceBounds? : Read (Option (Nat × Option Nat)) := do
  let before ← get
  let most := before.ahead.length
  let low ← takeWhile Text.isAsciiDigit most
  let comma ← accept ','
  let high ← if comma then takeWhile Text.isAsciiDigit most else pure low
  if low.isEmpty && !comma || !(← accept '}') then
    set before
    return none
  else
    if (← peek) == some .dangling then malformed
    let least ← bound? low
    let greatest ← bound? high
    match least, greatest with
    | some l, some g => if g < l then malformed else return some (l, some g)
    | _, _ => return some (least.getD 0, greatest)

/-- The bounds of the repetition that a character begins. -/
def bounds? : Char → Read (Option (Nat × Option Nat))
  | '?' => return some (0, some 1)
  | '*' => return some (0, none)
  | '+' => return some (1, none)
  | _ => braceBounds?

/-- How a repetition whose bounds have been passed takes its rounds. -/
def repetitionGreed : Read Greed := do
  if ← accept '?' then return .lazy
  if ← accept '+' then return .possessive
  return .greedy

/-- Repeat the latest piece. Neither an anchor nor a repetition can be repeated. -/
def repeatLast (least : Nat) (greatest : Option Nat) : List Piece → Read (List Piece)
  | (.other, e) :: pieces => do
    let greed ← repetitionGreed
    return (.repetition, .repeat greed least greatest e) :: pieces
  | _ => malformed

def modeLetters : List Char := ['i', 'L', 'm', 's', 'x', 'a', 't', 'u']

/-- The letters of which a group may have one at most, and which it cannot take back. -/
def classLetters : List Char := ['a', 'L', 'u']

/-- Turn a mode on or off. The Unicode classes are those in force without the ASCII mode. -/
def Modes.turn (on : Bool) (modes : Modes) : Char → Modes
  | 'i' => { modes with ignoreCase := on }
  | 'm' => { modes with multiLine := on }
  | 's' => { modes with dotAll := on }
  | 'x' => { modes with verbose := on }
  | 'a' => { modes with asciiOnly := on }
  | 'u' => { modes with asciiOnly := !on }
  | 't' => { modes with template := on }
  | _ => modes

def modeLetter (symbol : Option Symbol) : Read Char :=
  match symbol with
  | some (.plain c) => if modeLetters.contains c then return c else malformed
  | _ => malformed

/-- The letters of modes to turn on, up to the character that ends them. -/
def lettersOn (letter : Char) : (fuel : Nat) → List Char → Read (List Char × Char)
  | 0, _ => malformed
  | fuel + 1, sofar => do
    if letter = 'L' then malformed
    if classLetters.contains letter && sofar.any (fun c => classLetters.contains c && c != letter)
    then malformed
    let letters := letter :: sofar
    let symbol ← take
    match symbol with
    | some (.plain ')') => return (letters, ')')
    | some (.plain '-') => return (letters, '-')
    | some (.plain ':') => return (letters, ':')
    | _ => lettersOn (← modeLetter symbol) fuel letters

/-- The letters of modes to turn off, up to the colon. -/
def lettersOff (letter : Char) : (fuel : Nat) → List Char → Read (List Char)
  | 0, _ => malformed
  | fuel + 1, sofar => do
    if classLetters.contains letter then malformed
    let letters := letter :: sofar
    let symbol ← take
    if symbol = some (.plain ':') then return letters
    lettersOff (← modeLetter symbol) fuel letters

/-- What the letters after an opening question mark ask for. -/
inductive ModeRequest where
  | whole (on : List Char)
  | scoped (on off : List Char)
deriving Repr

/-- The modes of a group from its first letter, or the minus sign, on. -/
def modeRequest (first : Char) : Read ModeRequest := do
  let fuel := (← get).ahead.length + 1
  let (on, stop) ← if first = '-' then pure ([], '-') else lettersOn first fuel []
  if stop = ')' then return .whole on
  if on.contains 't' then malformed
  let off ← if stop = '-' then do lettersOff (← modeLetter (← take)) fuel [] else pure []
  if off.contains 't' || on.any off.contains then malformed
  return .scoped on off

/-- Turn modes on, then others off. A group that asks for a class of characters replaces the one
in force. -/
def Modes.request (modes : Modes) (on off : List Char) : Modes :=
  off.foldl (Modes.turn false) (on.foldl (Modes.turn true) modes)

/-- The value of a group number: digits of any script, with single low lines between them and after
a plus sign if need be. White space around it is no part of it. -/
def groupNumber? (s : Text) : Option Nat :=
  let unsigned := match Text.trim s with
    | '+' :: rest => rest
    | rest => rest
  let parts := Text.splitAt '_' unsigned
  let digits := parts.flatten
  if parts.all (fun part => !part.isEmpty && part.all Text.isDigit) &&
      digits.length ≤ Decimal.digitLimit then
    some (digits.foldl (fun n c => 10 * n + Text.digitOf c) 0)
  else none

/-- The group that a condition mentions, by name or by number. A number may be that of a later
group. -/
def conditionGroup : Read Nat := do
  let written ← name ')'
  let r ← get
  let index ←
    if Text.isIdentifier written then
      match r.names.find? (·.1 == written) with
      | some (_, index) => pure index
      | none => malformed
    else
      match groupNumber? written with
      | none | some 0 => malformed
      | some index =>
        modify fun r => { r with conditions := index :: r.conditions }
        pure index
  if r.behindGroups.isSome then
    let _ ← mentionable index
  return index

def openGroup (label : Option Text) : Read Nat := do
  let r ← get
  let index := r.nextGroup
  let names ←
    match label with
    | none => pure r.names
    | some s => if r.names.any (·.1 == s) then malformed else pure ((s, index) :: r.names)
  set { r with nextGroup := index + 1, names := names }
  return index

def closeGroup (index : Nat) (e : Expr) : Read Unit :=
  modify fun r => { r with closed := (index, e.width) :: r.closed }

/-- Pieces, latest first, as one expression. -/
def sequence (pieces : List Piece) : Expr :=
  pieces.foldl (fun rest piece => match rest with
    | .empty => piece.2
    | _ => .seq piece.2 rest) .empty

def skipComment : (fuel : Nat) → Read Unit
  | 0 => malformed
  | fuel + 1 => do
    match ← take with
    | none => malformed
    | some symbol => if symbol = .plain ')' then return () else skipComment fuel

/-- Symbols without the rest of a line. -/
def dropLine : List Symbol → List Symbol
  | [] => []
  | symbol :: rest => if symbol = .plain '\n' then rest else dropLine rest

/-- The white space that a verbose pattern may be laid out with. -/
def isLayout (c : Char) : Bool := isAsciiBlank c

/-- What a group turns out to be once its opening has been read. -/
inductive Opening where
  /-- Nothing to match: a comment, or modes for the whole pattern. -/
  | nothing
  | whole (on : List Char)
  | piece (e : Expr)
  | capture (label : Option Text)
  | plain (modes : Modes)
  | atomic
  | ahead (negated : Bool)
  | behind (negated : Bool)
  | condition (index : Nat)

/-- The opening of a group after its parenthesis and question mark. -/
def extendedOpening (modes : Modes) : Read Opening := do
  let fuel := (← get).ahead.length + 1
  match ← take with
  | some (.plain 'P') =>
    if ← accept '<' then
      let label ← name '>'
      if Text.isIdentifier label then return .capture (some label) else malformed
    else if ← accept '=' then
      let label ← name ')'
      unless Text.isIdentifier label do malformed
      match (← get).names.find? (·.1 == label) with
      | none => malformed
      | some (_, index) => return .piece (.backref index (← mentionable index) modes)
    else malformed
  | some (.plain ':') => return .plain modes
  | some (.plain '#') =>
    skipComment fuel
    return .nothing
  | some (.plain '=') => return .ahead false
  | some (.plain '!') => return .ahead true
  | some (.plain '<') =>
    match ← take with
    | some (.plain '=') => return .behind false
    | some (.plain '!') => return .behind true
    | _ => malformed
  | some (.plain '(') => return .condition (← conditionGroup)
  | some (.plain '>') => return .atomic
  | some (.plain c) =>
    if modeLetters.contains c || c = '-' then
      match ← modeRequest c with
      | .whole on => return .whole on
      | .scoped on off => return .plain (modes.request on off)
    else malformed
  | _ => malformed

/-- The opening of a group after its parenthesis. -/
def opening (modes : Modes) : Read Opening := do
  if ← accept '?' then extendedOpening modes else return .capture none

def requestWhole (on : List Char) : Read Modes := do
  let r ← get
  let modes := r.modes.request (on.filter (· != 'u')) []
  set { r with modes := modes, unicode := r.unicode || on.contains 'u' }
  return modes

mutual

/-- Alternatives up to the end of their group, within a number of open calls. They are a call of
their own, and so is each sequence. The modes of the whole pattern can change in the first
alternative of all and hold in the others. -/
def alternatives : (fuel calls : Nat) → (modes : Modes) → (first : Bool) → Read Expr
  | 0, _, _, _ => malformed
  | fuel + 1, calls, modes, first => do
    if callLimit < calls + 2 then malformed
    let e ← pieces fuel (calls + 2) modes first []
    if ← accept '|' then
      let r ← get
      return .alt e (← alternatives fuel calls (if calls = 0 then r.modes else modes) false)
    else return e

/-- The pieces of a sequence up to its end, added to those read, which come latest first. The
sequence is the last of the open calls. -/
def pieces : (fuel calls : Nat) → (modes : Modes) → (first : Bool) → List Piece → Read Expr
  | 0, _, _, _, _ => malformed
  | fuel + 1, calls, modes, first, sofar => do
    match ← peek with
    | none => return sequence sofar
    | some .dangling => malformed
    | some (.escape c) =>
      skip
      pieces fuel calls modes first ((← escapePiece modes c) :: sofar)
    | some (.plain c) =>
      if c = '|' || c = ')' then return sequence sofar
      skip
      if modes.verbose && isLayout c then pieces fuel calls modes first sofar
      else if modes.verbose && c = '#' then
        modify fun r => { r with ahead := dropLine r.ahead }
        pieces fuel calls modes first sofar
      else match c with
        | '.' => pieces fuel calls modes first ((.other, .char .any modes) :: sofar)
        | '^' => pieces fuel calls modes first ((.anchor, .anchor .start modes) :: sofar)
        | '$' => pieces fuel calls modes first ((.anchor, .anchor .stop modes) :: sofar)
        | '[' => pieces fuel calls modes first ((← setPiece modes) :: sofar)
        | '(' =>
          match ← opening modes with
          | .nothing => pieces fuel calls modes first sofar
          | .whole on =>
            if first && sofar.isEmpty then
              pieces fuel calls (← requestWhole on) first sofar
            else malformed
          | found =>
            pieces fuel calls modes first ((.other, ← group fuel calls modes found) :: sofar)
        | '*' | '+' | '?' | '{' =>
          match ← bounds? c with
          | none => pieces fuel calls modes first (literalPiece modes c.toNat :: sofar)
          | some (least, greatest) =>
            pieces fuel calls modes first (← repeatLast least greatest sofar)
        | _ => pieces fuel calls modes first (literalPiece modes c.toNat :: sofar)

/-- The rest of a group after its opening, up to its closing parenthesis. -/
def group : (fuel calls : Nat) → (modes : Modes) → Opening → Read Expr
  | 0, _, _, _ => malformed
  | fuel + 1, calls, modes, found => do
    match found with
    | .nothing | .whole _ => malformed
    | .piece e => return e
    | .capture label =>
      let index ← openGroup label
      let e ← alternatives fuel calls modes false
      expect ')'
      closeGroup index e
      return .group index e
    | .plain inner =>
      let e ← alternatives fuel calls inner false
      expect ')'
      return e
    | .atomic =>
      let e ← alternatives fuel calls modes false
      expect ')'
      return .atomic e
    | .ahead negated =>
      let e ← alternatives fuel calls modes false
      expect ')'
      return .ahead negated e
    | .behind negated =>
      let outer := (← get).behindGroups
      modify fun r => { r with behindGroups := some (outer.getD r.nextGroup) }
      let e ← alternatives fuel calls modes false
      modify fun r => { r with behindGroups := outer }
      expect ')'
      return .behind negated e
    | .condition index =>
      if callLimit < calls + 1 then malformed
      let yes ← pieces fuel (calls + 1) modes false []
      let no ←
        if ← accept '|' then
          let no ← pieces fuel (calls + 1) modes false []
          if (← peek) == some (.plain '|') then malformed
          pure no
        else pure .empty
      expect ')'
      return .cond index yes no

end

def Reader.ofText (table : CharacterNames) (s : Text) : Reader :=
  ⟨table, symbols s, .plain, false, [], 1, [], none, []⟩

/-- Read a whole text as an expression. Every call uses a unit of fuel, and no more than three of
them come before a symbol is taken. -/
def parse (table : CharacterNames) (s : Text) : Except Refusal Expr := do
  let (e, r) ← (alternatives (3 * s.length + 3) 0 .plain true).run (Reader.ofText table s)
  if r.modes.asciiOnly && r.unicode then throw .opposedClasses
  if !r.ahead.isEmpty then throw .malformed
  if r.conditions.any (r.nextGroup ≤ ·) then throw .malformed
  if !e.fixedBehind || (r.modes.template && e.repeats) then throw .malformed
  return e

end BemLint.Pattern
