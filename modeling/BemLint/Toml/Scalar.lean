import BemLint.Text.CharClass
import BemLint.Toml.Refusal

/-!
# TOML scalars

Strings of the four kinds, numbers, dates and times at a cursor.
-/
namespace BemLint.Toml
open Text (Cursor)

def isSpace (c : Char) : Bool := c = ' ' || c = '\t'

def isSpaceOrFeed (c : Char) : Bool := isSpace c || c = '\n'

def isControl (c : Char) : Bool := (c.toNat < 0x20 && c ≠ '\t') || c.toNat = 0x7F

/-- The control characters that a string may not hold; one of several lines may hold line feeds. -/
def isIllegal (multiline : Bool) (c : Char) : Bool := isControl c && !(multiline && c = '\n')

/-- A text up to the first occurrence of another, and from there on. -/
def splitBefore? (delimiter : Text) : Text → Option (Text × Text)
  | [] => none
  | c :: rest =>
    if Text.startsWith (c :: rest) delimiter then some ([], c :: rest)
    else (splitBefore? delimiter rest).map fun (before, after) => (c :: before, after)

/-- Refuse at the first illegal character of a text that begins at a cursor, if there is one. -/
def demandLegal (multiline : Bool) (c : Cursor) (s : Text) : Except Refusal Unit :=
  match s.dropWhile fun char => !isIllegal multiline char with
  | [] => .ok ()
  | char :: rest => refuse (c.skip (s.length - rest.length - 1)) (.invalidChar char)

/-- A literal string from its first character on, up to and past the delimiter. -/
def literalString (multiline : Bool) (delimiter : Text) (c : Cursor) :
    Except Refusal (Text × Cursor) :=
  match splitBefore? delimiter c.rest with
  | none => refuse (c.skip c.rest.length) (.noDelimiter delimiter)
  | some (body, _) => do
    demandLegal multiline c body
    return (body, c.skip (body.length + delimiter.length))

def shortEscape? : Char → Option Char
  | 'b' => some (Char.ofNat 8)
  | 't' => some '\t'
  | 'n' => some '\n'
  | 'f' => some (Char.ofNat 12)
  | 'r' => some '\r'
  | '"' => some '"'
  | '\\' => some '\\'
  | _ => none

def isScalarValue (n : Nat) : Bool := n < 0xD800 || (0xE000 ≤ n && n < 0x110000)

def hexChar (width : Nat) (c : Cursor) : Except Refusal (Text × Cursor) :=
  let digits := c.rest.take width
  if digits.length ≠ width || !digits.all Text.isHexDigit then refuse c .badHex
  else
    let code := Text.digitsValue 16 digits
    if isScalarValue code then .ok ([Char.ofNat code], c.skip width)
    else refuse (c.skip width) .noScalarValue

/-- What follows a backslash at the end of a line: the white space up to the next other character
is no part of the string. The cursor stands after the character `first` after the backslash. -/
def joinLines (first : Char) (c : Cursor) : Except Refusal (Text × Cursor) :=
  if first = '\n' then .ok ([], c.skipWhile isSpaceOrFeed)
  else
    let here := c.skipWhile isSpace
    match here.rest with
    | [] => .ok ([], here)
    | '\n' :: _ => .ok ([], here.skipWhile isSpaceOrFeed)
    | _ => refuse here .badEscape

/-- What an escape stands for. The cursor stands at the backslash. -/
def readEscape (multiline : Bool) (c : Cursor) : Except Refusal (Text × Cursor) :=
  let next := c.skip 2
  match c.rest with
  | _ :: e :: _ =>
    if multiline && isSpaceOrFeed e then joinLines e next
    else if e = 'u' then hexChar 4 next
    else if e = 'U' then hexChar 8 next
    else match shortEscape? e with
      | some char => .ok ([char], next)
      | none => refuse next .badEscape
  | _ => refuse next .badEscape

/-- A basic string from some character on, up to and past its closing quotes. The fuel is greater
than the number of characters left. -/
def basicStringFrom (multiline : Bool) : (fuel : Nat) → Cursor → Except Refusal (Text × Cursor)
  | 0, c => refuse c .openString
  | fuel + 1, c =>
    match c.rest with
    | [] => refuse c .openString
    | '"' :: _ =>
      if !multiline then .ok ([], c.skip 1)
      else if c.at_ "\"\"\"" then .ok ([], c.skip 3)
      else do
        let (s, stop) ← basicStringFrom multiline fuel (c.skip 1)
        return ('"' :: s, stop)
    | '\\' :: _ => do
      let (part, next) ← readEscape multiline c
      let (s, stop) ← basicStringFrom multiline fuel next
      return (part ++ s, stop)
    | char :: _ =>
      if isIllegal multiline char then refuse c (.illegalChar char)
      else do
        let (s, stop) ← basicStringFrom multiline fuel (c.skip 1)
        return (char :: s, stop)

def basicString (multiline : Bool) (c : Cursor) : Except Refusal (Text × Cursor) :=
  basicStringFrom multiline (c.rest.length + 1) c

/-- Up to two more quotes at the closing ones belong to the string. -/
def takeExtraQuotes (quote : Char) (found : Text × Cursor) : Text × Cursor :=
  let extra := (found.2.rest.take 2).takeWhile (· = quote)
  (found.1 ++ extra, found.2.skip extra.length)

def skipFeed (c : Cursor) : Cursor :=
  match c.rest with
  | '\n' :: _ => c.skip 1
  | _ => c

def lineString (quote : Char) (c : Cursor) : Except Refusal (Text × Cursor) :=
  if quote = '"' then basicString false (c.skip 1) else literalString false ['\''] (c.skip 1)

def pageString (quote : Char) (c : Cursor) : Except Refusal (Text × Cursor) := do
  let inside := skipFeed (c.skip 3)
  let found ←
    if quote = '"' then basicString true inside
    else literalString true ['\'', '\'', '\''] inside
  return takeExtraQuotes quote found

def readString (quote : Char) (c : Cursor) : Except Refusal (Text × Cursor) :=
  if Text.startsWith c.rest [quote, quote, quote] then pageString quote c else lineString quote c

/-- Further digits; a low line may stand before each. -/
def moreDigits (p : Char → Bool) : Text → Text × Text
  | '_' :: c :: rest =>
    if p c then
      let (digits, after) := moreDigits p rest
      (c :: digits, after)
    else ([], '_' :: c :: rest)
  | c :: rest =>
    if p c then
      let (digits, after) := moreDigits p rest
      (c :: digits, after)
    else ([], c :: rest)
  | [] => ([], [])

def groupedDigits? (p : Char → Bool) : Text → Option (Text × Text)
  | c :: rest =>
    if p c then
      let (digits, after) := moreDigits p rest
      some (c :: digits, after)
    else none
  | [] => none

/-- The digits of a base that a letter after a nought announces. -/
def baseOf? : Char → Option (Nat × (Char → Bool))
  | 'x' => some (16, Text.isHexDigit)
  | 'b' => some (2, fun c => c = '0' || c = '1')
  | 'o' => some (8, fun c => '0' ≤ c && c ≤ '7')
  | _ => none

def basedInteger? : Text → Option (Toml × Text)
  | '0' :: letter :: rest => do
    let (base, p) ← baseOf? letter
    let (digits, after) ← groupedDigits? p rest
    return (.int (Text.digitsValue base digits), after)
  | _ => none

/-- A sign at the front of a text, if there is one; whether it is a minus sign. -/
def signOf : Text → Bool × Text
  | '-' :: rest => (true, rest)
  | '+' :: rest => (false, rest)
  | s => (false, s)

/-- The digits before the point of a number: a nought stands alone. -/
def wholePart? : Text → Option (Text × Text)
  | '0' :: rest => some (['0'], rest)
  | s => groupedDigits? Text.isAsciiDigit s

def fractionPart : Text → Option (Text × Text)
  | '.' :: rest => groupedDigits? Text.isAsciiDigit rest
  | _ => none

def exponentPart : Text → Option (Int × Text)
  | e :: rest =>
    if e = 'e' ∨ e = 'E' then
      let (negative, unsigned) := signOf rest
      (groupedDigits? Text.isAsciiDigit unsigned).map fun (digits, after) =>
        let size : Int := Text.decimalValue digits
        (if negative then -size else size, after)
    else none
  | [] => none

def decimalNumber? (c : Cursor) : Option (Except Refusal (Toml × Cursor)) := do
  let (negative, unsigned) := signOf c.rest
  let (whole, afterWhole) ← wholePart? unsigned
  let fraction? := fractionPart afterWhole
  let (fraction, afterFraction) := fraction?.getD ([], afterWhole)
  let exponent? := exponentPart afterFraction
  let (exponent, after) := exponent?.getD (0, afterFraction)
  if fraction?.isNone && exponent?.isNone then
    if Decimal.digitLimit < whole.length then return .error (.longInteger whole.length)
    let size : Int := Text.decimalValue whole
    return .ok (.int (if negative then -size else size), c.moveTo after)
  let value := Decimal.ofDecimal negative (Text.decimalValue (whole ++ fraction))
    (exponent - fraction.length)
  return .ok (.float value, c.moveTo after)

def readNumber? (c : Cursor) : Option (Except Refusal (Toml × Cursor)) :=
  match basedInteger? c.rest with
  | some (value, after) => some (.ok (value, c.moveTo after))
  | none => decimalNumber? c

def twoDigits? (least greatest : Nat) : Text → Option (Nat × Text)
  | a :: b :: rest =>
    if Text.isAsciiDigit a && Text.isAsciiDigit b then
      let n := Text.decimalValue [a, b]
      if least ≤ n && n ≤ greatest then some (n, rest) else none
    else none
  | _ => none

/-- What follows a time of day. -/
def afterTime? (s : Text) : Option Text := do
  let (_, s) ← twoDigits? 0 23 s
  let (_, s) ← twoDigits? 0 59 (← Text.after? s [':'])
  let (_, s) ← twoDigits? 0 59 (← Text.after? s [':'])
  match s with
  | '.' :: d :: rest =>
    if Text.isAsciiDigit d then return rest.dropWhile Text.isAsciiDigit else return s
  | _ => return s

/-- What follows an offset from universal time, if there is one. -/
def afterZone (s : Text) : Text :=
  match s with
  | c :: rest =>
    if c = 'Z' ∨ c = 'z' then rest
    else if c = '+' ∨ c = '-' then
      (do
        let (_, r) ← twoDigits? 0 23 rest
        let (_, r) ← twoDigits? 0 59 (← Text.after? r [':'])
        return r).getD s
    else s
  | [] => []

def daysIn (year month : Nat) : Nat :=
  if month = 2 then
    if year % 4 = 0 ∧ (year % 100 ≠ 0 ∨ year % 400 = 0) then 29 else 28
  else if month = 4 ∨ month = 6 ∨ month = 9 ∨ month = 11 then 30
  else 31

/-- Whether a date written with plausible numbers is in the calendar. -/
def isDate (year month day : Nat) : Bool := 1 ≤ year && day ≤ daysIn year month

/-- A date at the front of a text: whether it is in the calendar, and what follows. -/
def date? (s : Text) : Option (Bool × Text) := do
  let (century, s) ← twoDigits? 0 99 s
  let (year, s) ← twoDigits? 0 99 s
  let (month, s) ← twoDigits? 1 12 (← Text.after? s ['-'])
  let (day, s) ← twoDigits? 1 31 (← Text.after? s ['-'])
  return (isDate (100 * century + year) month day, s)

/-- What follows the time of day that may be written after a date. -/
def afterDateTime (s : Text) : Text :=
  match s with
  | c :: rest =>
    if c = 'T' ∨ c = 't' ∨ c = ' ' then ((afterTime? rest).map afterZone).getD s else s
  | [] => []

/-- The value written between a cursor and a later text. -/
def momentUpTo (c : Cursor) (after : Text) : Toml × Cursor :=
  (.moment (c.rest.take (c.rest.length - after.length)), c.moveTo after)

def readMoment? (c : Cursor) : Option (Except Refusal (Toml × Cursor)) :=
  match date? c.rest with
  | some (true, after) => some (.ok (momentUpTo c (afterDateTime after)))
  | some (false, _) => some (refuse c .badMoment)
  | none => (afterTime? c.rest).map fun after => .ok (momentUpTo c after)

def words : List (Text × Toml) :=
  [("true".toList, .bool true), ("false".toList, .bool false)]

def numberWords : List (Text × Toml) :=
  [("inf".toList, .float (.infinity false)), ("nan".toList, .float .nan),
    ("-inf".toList, .float (.infinity true)), ("+inf".toList, .float (.infinity false)),
    ("-nan".toList, .float .nan), ("+nan".toList, .float .nan)]

def readWord? (known : List (Text × Toml)) (c : Cursor) : Option (Toml × Cursor) :=
  (known.find? fun (word, _) => Text.startsWith c.rest word).map fun (word, value) =>
    (value, c.skip word.length)

def readPlain (c : Cursor) : Except Refusal (Toml × Cursor) :=
  match readWord? words c with
  | some found => .ok found
  | none =>
    match readMoment? c with
    | some result => result
    | none =>
      match readNumber? c with
      | some result => result
      | none =>
        match readWord? numberWords c with
        | some found => .ok found
        | none => refuse c .badValue

end BemLint.Toml
