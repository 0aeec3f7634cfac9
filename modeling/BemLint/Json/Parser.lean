import BemLint.Decimal.Limit
import BemLint.Json.Value
import BemLint.Text.Cursor
import BemLint.Text.Lines

/-!
# Reading JSON

A reader of JSON texts that knows where it stands. It also accepts the three numbers that JSON
cannot write, keeps the last of several fields with one name, and refuses a text at the exact
character where no continuation is possible any more. Integers and nesting are limited.
-/
namespace BemLint.Json
open Text (Cursor)

inductive Fault where
  | byteOrderMark
  | noValue
  | noName
  | noColon
  | noComma
  | extraData
  | openString
  | controlChar
  | badEscape
  | badUnicodeEscape
deriving DecidableEq, Repr

def Fault.message : Fault → Text
  | .byteOrderMark => "Unexpected UTF-8 BOM (decode using utf-8-sig)".toList
  | .noValue => "Expecting value".toList
  | .noName => "Expecting property name enclosed in double quotes".toList
  | .noColon => "Expecting ':' delimiter".toList
  | .noComma => "Expecting ',' delimiter".toList
  | .extraData => "Extra data".toList
  | .openString => "Unterminated string starting at".toList
  | .controlChar => "Invalid control character at".toList
  | .badEscape => "Invalid \\escape".toList
  | .badUnicodeEscape => "Invalid \\uXXXX escape".toList

inductive Container where
  | array
  | object
deriving DecidableEq, Repr

/-- Why a text is not read: it is no JSON from some offset on, an integer has more digits than the
limit allows, or values are nested too deeply. -/
inductive Refusal where
  | malformed (fault : Fault) (offset : Nat)
  | longInteger (digits : Nat)
  | tooDeep (container : Container)
deriving DecidableEq, Repr

/-- The deepest nesting of values. A reader takes room on the stack for each level, so the number
depends on what its callers have left; this one is what loading settings from a command leaves. -/
def nestingLimit : Nat := 970

def malformedMessage (source : Text) (fault : Fault) (offset : Nat) : Text :=
  let place := Text.positionAt source offset
  fault.message ++ ": line ".toList ++ Text.ofInt place.line ++ " column ".toList ++
    Text.ofInt place.column ++ " (char ".toList ++ Text.ofNat offset ++ [')']

def Refusal.message (source : Text) : Refusal → Text
  | .malformed fault offset => malformedMessage source fault offset
  | .longInteger digits => Decimal.longIntegerMessage digits
  | .tooDeep .array =>
    "maximum recursion depth exceeded while decoding a JSON array from a unicode string".toList
  | .tooDeep .object =>
    "maximum recursion depth exceeded while decoding a JSON object from a unicode string".toList

/-- The four characters that may surround values. -/
def isSpace (c : Char) : Bool := c = ' ' || c = '\t' || c = '\n' || c = '\r'

def skipSpace (c : Cursor) : Cursor := c.skipWhile isSpace

def refuse {α : Type} (c : Cursor) (fault : Fault) : Except Refusal α :=
  .error (.malformed fault c.offset)

def shortEscape? : Char → Option Char
  | '"' => some '"'
  | '\\' => some '\\'
  | '/' => some '/'
  | 'b' => some (Char.ofNat 8)
  | 'f' => some (Char.ofNat 12)
  | 'n' => some '\n'
  | 'r' => some '\r'
  | 't' => some '\t'
  | _ => none

def hexQuad? : Text → Option Nat
  | a :: b :: c :: d :: _ =>
    if [a, b, c, d].all Text.isHexDigit then some (Text.digitsValue 16 [a, b, c, d]) else none
  | _ => none

/-- What the second half of an escaped surrogate pair makes of the first. -/
inductive Pairing where
  /-- No escape follows, or not the other half of a pair. -/
  | alone
  /-- The other half follows in the next six characters. -/
  | joined (code : Nat)
  /-- An escape follows that has no four digits. -/
  | broken
deriving DecidableEq, Repr

/-- Look for the second half of a surrogate pair. An escape counts only when another character
comes after it. -/
def pairing (high : Nat) : Text → Pairing
  | '\\' :: 'u' :: rest =>
    if rest.length ≤ 4 then .alone
    else match hexQuad? rest with
      | none => .broken
      | some low =>
        if 0xDC00 ≤ low ∧ low ≤ 0xDFFF then
          .joined (0x10000 + (high - 0xD800) * 0x400 + (low - 0xDC00))
        else .alone
  | _ => .alone

/-- The characters of a string up to its closing quote. `start` is the offset of the opening quote
and `offset` that of the first character of the text. An escape of a lone surrogate, which no `Text`
can hold, gives the replacement character. -/
def stringFrom (start : Nat) : (fuel offset : Nat) → Text → Except Refusal (Text × Cursor)
  | 0, _, _ => .error (.malformed .openString start)
  | _ + 1, _, [] => .error (.malformed .openString start)
  | _ + 1, offset, '"' :: rest => .ok ([], ⟨offset + 1, rest⟩)
  | _ + 1, _, ['\\'] => .error (.malformed .openString start)
  | fuel + 1, offset, '\\' :: 'u' :: rest =>
    if rest.length ≤ 4 then .error (.malformed .badUnicodeEscape (offset + 1))
    else match hexQuad? rest with
      | none => .error (.malformed .badUnicodeEscape (offset + 1))
      | some code =>
        let after := rest.drop 4
        if 0xD800 ≤ code ∧ code ≤ 0xDBFF then
          match pairing code after with
          | .joined whole => do
            let (s, c) ← stringFrom start fuel (offset + 12) (after.drop 6)
            .ok (Char.ofNat whole :: s, c)
          | .broken => .error (.malformed .badUnicodeEscape (offset + 7))
          | .alone => do
            let (s, c) ← stringFrom start fuel (offset + 6) after
            .ok (Char.ofNat 0xFFFD :: s, c)
        else do
          let (s, c) ← stringFrom start fuel (offset + 6) after
          let lone := 0xDC00 ≤ code ∧ code ≤ 0xDFFF
          .ok (Char.ofNat (if lone then 0xFFFD else code) :: s, c)
  | fuel + 1, offset, '\\' :: e :: rest =>
    match shortEscape? e with
    | none => .error (.malformed .badEscape offset)
    | some char => do
      let (s, c) ← stringFrom start fuel (offset + 2) rest
      .ok (char :: s, c)
  | fuel + 1, offset, char :: rest =>
    if char.toNat < 0x20 then .error (.malformed .controlChar offset)
    else do
      let (s, c) ← stringFrom start fuel (offset + 1) rest
      .ok (char :: s, c)

/-- The string whose opening quote has just been passed. -/
def readString (c : Cursor) : Except Refusal (Text × Cursor) :=
  stringFrom (c.offset - 1) (c.rest.length + 1) c.offset c.rest

def spanDigits (s : Text) : Text × Text :=
  (s.takeWhile Text.isAsciiDigit, s.dropWhile Text.isAsciiDigit)

def minusPart : Text → Bool × Text
  | '-' :: rest => (true, rest)
  | s => (false, s)

/-- The digits of an integer part: a zero stands alone. -/
def integerPart : Text → Text × Text
  | '0' :: rest => (['0'], rest)
  | s => spanDigits s

/-- A point with at least one digit after it, as the digits; empty when there is none. -/
def fractionPart : Text → Text × Text
  | '.' :: rest =>
    match spanDigits rest with
    | ([], _) => ([], '.' :: rest)
    | found => found
  | s => ([], s)

/-- An exponent with at least one digit, with its value. -/
def exponentPart : Text → Option Int × Text
  | e :: rest =>
    if e = 'e' ∨ e = 'E' then
      let (negative, unsigned) := match rest with
        | '-' :: r => (true, r)
        | '+' :: r => (false, r)
        | r => (false, r)
      match spanDigits unsigned with
      | ([], _) => (none, e :: rest)
      | (digits, after) =>
        let size : Int := Text.decimalValue digits
        (some (if negative then -size else size), after)
    else (none, e :: rest)
  | [] => (none, [])

def readNumber (c : Cursor) : Except Refusal (Json × Cursor) :=
  let (negative, unsigned) := minusPart c.rest
  match integerPart unsigned with
  | ([], _) => refuse c .noValue
  | (whole, afterWhole) =>
    let (fraction, afterFraction) := fractionPart afterWhole
    let (exponent?, after) := exponentPart afterFraction
    let next := c.moveTo after
    if fraction.isEmpty && exponent?.isNone then
      if Decimal.digitLimit < whole.length then .error (.longInteger whole.length)
      else
        let size : Int := Text.decimalValue whole
        .ok (.int (if negative then -size else size), next)
    else
      let exponent := exponent?.getD 0 - fraction.length
      .ok (.float (Decimal.ofDecimal negative (Text.decimalValue (whole ++ fraction)) exponent),
        next)

/-- The words that are values, each with its value. -/
def words : List (Text × Json) :=
  [("null".toList, .null), ("true".toList, .bool true), ("false".toList, .bool false),
    ("NaN".toList, .float .nan), ("Infinity".toList, .float (.infinity false)),
    ("-Infinity".toList, .float (.infinity true))]

def readScalar (c : Cursor) : Except Refusal (Json × Cursor) :=
  match words.find? fun (word, _) => Text.startsWith c.rest word with
  | some (word, value) => .ok (value, c.skip word.length)
  | none => readNumber c

mutual

/-- A value at a cursor, inside `depth` others. -/
def readValue : (fuel depth : Nat) → Cursor → Except Refusal (Json × Cursor)
  | 0, _, c => refuse c .noValue
  | fuel + 1, depth, c =>
    match c.rest with
    | '"' :: _ => do
      let (s, next) ← readString (c.skip 1)
      .ok (.str s, next)
    | '{' :: _ =>
      if nestingLimit ≤ depth then .error (.tooDeep .object)
      else
        let inner := skipSpace (c.skip 1)
        match inner.rest with
        | '}' :: _ => .ok (.obj [], inner.skip 1)
        | _ => do
          let (fields, next) ← readFields fuel (depth + 1) [] inner
          .ok (.obj fields, next)
    | '[' :: _ =>
      if nestingLimit ≤ depth then .error (.tooDeep .array)
      else
        let inner := skipSpace (c.skip 1)
        match inner.rest with
        | ']' :: _ => .ok (.arr [], inner.skip 1)
        | _ => do
          let (items, next) ← readItems fuel (depth + 1) inner
          .ok (.arr items, next)
    | _ => readScalar c

/-- The items of an array from the first on, up to its closing bracket. -/
def readItems : (fuel depth : Nat) → Cursor → Except Refusal (List Json × Cursor)
  | 0, _, c => refuse c .noValue
  | fuel + 1, depth, c => do
    let (item, afterItem) ← readValue fuel depth c
    let here := skipSpace afterItem
    match here.rest with
    | ']' :: _ => .ok ([item], here.skip 1)
    | ',' :: _ =>
      let (items, next) ← readItems fuel depth (skipSpace (here.skip 1))
      .ok (item :: items, next)
    | _ => refuse here .noComma

/-- The fields of an object from the first on, up to its closing brace, added to those read. -/
def readFields : (fuel depth : Nat) → List (Text × Json) → Cursor →
    Except Refusal (List (Text × Json) × Cursor)
  | 0, _, _, c => refuse c .noName
  | fuel + 1, depth, fields, c =>
    match c.rest with
    | '"' :: _ => do
      let (name, afterName) ← readString (c.skip 1)
      let colon := skipSpace afterName
      match colon.rest with
      | ':' :: _ =>
        let (value, afterValue) ← readValue fuel depth (skipSpace (colon.skip 1))
        let fields := setField name value fields
        let here := skipSpace afterValue
        match here.rest with
        | '}' :: _ => .ok (fields, here.skip 1)
        | ',' :: _ => readFields fuel depth fields (skipSpace (here.skip 1))
        | _ => refuse here .noComma
      | _ => refuse colon .noColon
    | _ => refuse c .noName

end

/-- Read a whole text as one value. The fuel is twice the number of characters and more: a value
or a list of values takes one unit and at least one character comes off with every two. -/
def parse (source : Text) : Except Refusal Json :=
  match source with
  | '\uFEFF' :: _ => .error (.malformed .byteOrderMark 0)
  | _ => do
    let start := skipSpace (Cursor.ofText source)
    let (value, next) ← readValue (2 * source.length + 2) 0 start
    let rest := skipSpace next
    if rest.rest.isEmpty then .ok value else refuse rest .extraData

end BemLint.Json
